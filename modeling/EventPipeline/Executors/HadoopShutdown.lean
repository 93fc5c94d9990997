import EventPipeline.Executors.HadoopResults

/-! # Shutdown of the Hadoop executor

A shutdown that waits and returns leaves no future open. It waits for ever once the polling thread
has turned away from a future: the thread makes no further pass.
-/

namespace EventPipeline

open Hadoop Routine

variable {Object Error : Type}

namespace Hadoop

/-! ## What a pass leaves alone -/

def Spares (future : FutureId) : HadoopCommand Object Error → Prop
  | .cancelFuture other | .setResult other _ | .setException other _ => other ≠ future
  | _ => True

variable {future : FutureId}

theorem only_answered {Result : Type} (answer : Except Error Result) :
    (answered answer : HadoopAttempt Object Error Result).run.Only (Spares future) := by
  cases answer with
  | ok result => exact trivial
  | error error => exact trivial

theorem only_resolved (answer : Bool) :
    (resolved answer : HadoopAttempt Object Error Unit).run.Only (Spares future) := by
  cases answer with
  | true => exact trivial
  | false => exact trivial

theorem only_getJobInfo (job : JobId) :
    (getJobInfo job : HadoopAttempt Object Error JobInfo).run.Only (Spares future) := by
  rw [getJobInfo]
  refine Fallible.only_ask_bind trivial ?_
  intro info
  cases info with
  | none => exact trivial
  | some info => exact trivial

theorem only_getJobStatus (job : JobId) :
    (getJobStatus job : HadoopAttempt Object Error JobStatus).run.Only (Spares future) := by
  rw [getJobStatus]
  refine Fallible.only_bind (only_getJobInfo job) ?_
  intro _
  refine Fallible.only_ask_bind trivial ?_
  intro reported
  cases reported with
  | error error => exact Fallible.only_bind (only_getJobInfo job) fun _ => trivial
  | ok hadoopStatus =>
      refine Fallible.only_ask_bind trivial ?_
      intro _
      cases failure : isFailure hadoopStatus with
      | true => exact Fallible.only_ask_bind trivial fun _ => trivial
      | false => exact trivial

theorem only_readResult (outputPath : String) :
    (readResult outputPath : HadoopAttempt Object Error Object).run.Only (Spares future) := by
  have file : (resultFile outputPath : HadoopAttempt Object Error String).run.Only
      (Spares future) := by
    rw [resultFile]
    refine Fallible.only_ask_bind trivial ?_
    intro found
    refine Fallible.only_bind (only_answered found) ?_
    intro found
    cases found with
    | true => exact trivial
    | false =>
        refine Fallible.only_ask_bind trivial ?_
        intro listed
        refine Fallible.only_bind (only_answered listed) ?_
        intro files
        rw [chooseFile]
        split
        · exact trivial
        · exact trivial
  rw [readResult]
  refine Fallible.only_bind file ?_
  intro path
  exact Fallible.only_ask_bind trivial only_answered

variable {str : HadoopError Error → String}

theorem only_getJobResult (job : JobId) :
    (getJobResult str job : HadoopAttempt Object Error Object).run.Only (Spares future) := by
  rw [getJobResult]
  refine Fallible.only_bind (only_getJobInfo job) ?_
  intro _
  refine Fallible.only_bind (only_getJobStatus job) ?_
  intro status
  cases isOpen : status.isOpen with
  | true => exact trivial
  | false =>
      refine Fallible.only_bind (only_getJobInfo job) ?_
      intro info
      cases error : info.error with
      | some message => exact trivial
      | none =>
          refine Fallible.only_tryCatch (only_readResult info.outputPath) ?_
          intro error
          exact trivial

theorem only_pollJob {other : FutureId} (different : other ≠ future) (job : JobId) :
    (pollJob str other job : HadoopAttempt Object Error Unit).run.Only (Spares future) := by
  have failed : ∀ error : HadoopError Error, (do
      resolved (← ask (.setException other error)) :
      HadoopAttempt Object Error Unit).run.Only (Spares future) :=
    fun error => Fallible.only_ask_bind different only_resolved
  have delivered : (deliver str other job : HadoopAttempt Object Error Unit).run.Only
      (Spares future) := by
    rw [deliver, catchJobError]
    refine Fallible.only_tryCatch ?_ ?_
    · refine Fallible.only_bind (only_getJobResult job) ?_
      intro value
      exact Fallible.only_ask_bind different only_resolved
    · intro error
      cases error with
      | hadoopJobError message => exact failed _
      | runtimeError | keyError | typeError | connectionError | invalidStateError | raised =>
          exact trivial
  have cancelled : (do
      if !(← ask (.isCancelled other)) then ask (.cancelFuture other) :
      HadoopAttempt Object Error Unit).run.Only (Spares future) := by
    refine Fallible.only_ask_bind trivial ?_
    intro answer
    cases answer with
    | true => exact trivial
    | false => exact ⟨different, fun _ => trivial⟩
  have checked : (checkJob str other job : HadoopAttempt Object Error Unit).run.Only
      (Spares future) := by
    rw [checkJob]
    refine Fallible.only_bind (only_getJobStatus job) ?_
    intro status
    cases status with
    | finished => exact delivered
    | cancelled | cancelledAndNotified => exact cancelled
    | pending | running => exact trivial
  rw [pollJob]
  refine Fallible.only_ask_bind trivial ?_
  intro done
  cases done with
  | true => exact trivial
  | false =>
      refine Fallible.only_tryCatch checked ?_
      intro error
      refine Fallible.only_ask_bind trivial ?_
      intro done
      cases done with
      | true => exact trivial
      | false => exact failed error

theorem only_pollJobs {rest : List (FutureId × JobId)} (passed : future ∉ OrderedDict.keys rest) :
    (pollJobs str rest : HadoopAttempt Object Error Unit).run.Only (Spares future) := by
  induction rest with
  | nil => exact trivial
  | cons entry rest induction =>
      rw [OrderedDict.keys, List.map_cons, List.mem_cons, not_or] at passed
      rw [pollJobs]
      refine Fallible.only_bind (only_pollJob (Ne.symm passed.1) entry.2) ?_
      intro _
      exact induction passed.2

end Hadoop

namespace HadoopState

variable {state after : HadoopState Object Error} {command : HadoopCommand Object Error}
  {reply : HadoopReply command}

theorem shutdown_of_exec (ran : state.exec command reply = some after)
    (down : state.shutdown = true) : after.shutdown = true := by
  cases effect_of_exec ran with
  | setShutdown => rfl
  | quiet | trackJob | setStatus | setError | setJob | newFuture | cancelFuture => exact down
  | setResult | setException =>
      rw [resolve]
      split
      · exact down
      · exact down

theorem get?_of_spares {future : FutureId} (bound : future < state.futures.size)
    (spares : Spares future command) (ran : state.exec command reply = some after) :
    after.futures.get? future = state.futures.get? future := by
  cases effect_of_exec ran with
  | setShutdown | quiet | trackJob | setStatus | setError | setJob => rfl
  | newFuture => exact Arena.get?_alloc_of_lt _ _ bound
  | cancelFuture other => exact Arena.get?_modify_of_ne _ _ (Ne.symm spares)
  | setResult other value => exact (evolves_resolve other _).untouched future (Ne.symm spares)
  | setException other error => exact (evolves_resolve other _).untouched future (Ne.symm spares)

end HadoopState

namespace HadoopExecutor

variable {str : HadoopError Error → String} {executor after : HadoopExecutor Object Error}
  {future : FutureId}

/-! ## A shutdown that never returns -/

/-- The polling thread resolves the future in no pass but a further one: what is left of its pass
does not touch it. -/
inductive TurnedAway (future : FutureId) : Poller Object Error → Prop
  | testing : TurnedAway future .testing
  | locking : TurnedAway future .locking
  | ended : TurnedAway future .ended
  | passing {entries log} {routine : HadoopRoutine Object Error (Except (HadoopError Error) Unit)}
      (spares : routine.Only (Spares future)) : TurnedAway future (.passing entries log routine)

theorem TurnedAway.of_passed {entries rest : List (FutureId × JobId)}
    {log : List (HadoopExchange Object Error)} (passed : future ∉ OrderedDict.keys rest) :
    TurnedAway future (.passing entries log (pollJobs str rest).run : Poller Object Error) :=
  .passing (only_pollJobs passed)

structure Stranded (executor : HadoopExecutor Object Error) (future : FutureId) : Prop where
  down : executor.state.shutdown = true
  waits : ∃ log routine, executor.running = some ⟨.shutdown true, log, routine⟩
  tracked : ∃ job, (future, job) ∈ executor.state.jobs
  unresolved : executor.state.isDone future = false
  spared : ∀ entries log routine, executor.poller = .passing entries log routine →
    routine.Only (Spares future)

theorem TurnedAway.spared {poller : Poller Object Error} (away : TurnedAway future poller)
    {entries : List (FutureId × JobId)} {log : List (HadoopExchange Object Error)}
    {routine : HadoopRoutine Object Error (Except (HadoopError Error) Unit)}
    (passing : poller = .passing entries log routine) : routine.Only (Spares future) := by
  cases away with
  | testing | locking | ended => cases passing
  | passing spares =>
      cases passing
      exact spares

theorem Stranded.bound (stranded : executor.Stranded future) (sound : executor.Sound) :
    future < executor.state.futures.size := by
  rcases stranded.tracked with ⟨job, member⟩
  exact (sound.jobs.known future job member).1

theorem Stranded.spares_of_allowed (stranded : executor.Stranded future)
    {log : List (HadoopExchange Object Error)} (call : executor.state.CallSound log)
    {command : HadoopCommand Object Error} (allowed : callContract.allows log command) :
    Spares future command := by
  cases command with
  | cancelFuture | setResult => exact absurd allowed id
  | setException other error =>
      rintro rfl
      rcases stranded.tracked with ⟨job, member⟩
      exact (call.fresh other allowed).1 job member
  | _ => exact trivial

theorem Stranded.not_done (stranded : executor.Stranded future) (sound : executor.Sound)
    {call : HadoopCall Object} {log : List (HadoopExchange Object Error)}
    {result : Except (HadoopError Error) HadoopReturn}
    (running : executor.running = some ⟨call, log, .done result⟩) : False := by
  have before := sound.running _ running
  rcases stranded.waits with ⟨_, _, waits⟩
  cases running.symm.trans waits
  rcases before.keeps.2.2 rfl with ⟨entries, copied, awaited⟩
  rcases stranded.tracked with ⟨job, member⟩
  rw [before.call.copied entries copied] at member
  have done := before.call.awaited future (awaited (future, job) member)
  rw [stranded.unresolved] at done
  cases done

theorem isDone_congr {state next : HadoopState Object Error}
    (same : next.futures.get? future = state.futures.get? future) :
    next.isDone future = state.isDone future := by
  rw [HadoopState.isDone, HadoopState.isDone, same]

theorem Stranded.step (stranded : executor.Stranded future) (sound : executor.Sound)
    {cancelled : Option FutureId} (step : Step str executor cancelled after)
    (keeps : cancelled ≠ some future) :
    after.Stranded future ∧ after.returned = executor.returned := by
  have bound := stranded.bound sound
  cases step with
  | call call free =>
      rcases stranded.waits with ⟨_, _, waits⟩
      rw [free] at waits
      cases waits
  | advance running ran =>
      have before := sound.running _ running
      rcases before.keeps with ⟨allowed, -⟩
      have same := HadoopState.get?_of_spares bound
        (stranded.spares_of_allowed before.call allowed) ran
      rcases stranded.waits with ⟨_, _, waits⟩
      cases running.symm.trans waits
      rcases stranded.tracked with ⟨job, member⟩
      have grows := HadoopState.grows_of_call before.call allowed ran
      exact ⟨⟨HadoopState.shutdown_of_exec ran stranded.down, ⟨_, _, rfl⟩, ⟨job, grows.jobs member⟩,
        (isDone_congr same).trans stranded.unresolved, stranded.spared⟩, rfl⟩
  | finish running => exact (stranded.not_done sound running).elim
  | test testing =>
      refine ⟨⟨stranded.down, stranded.waits, stranded.tracked, stranded.unresolved, ?_⟩, rfl⟩
      rw [stranded.down]
      rintro _ _ _ ⟨⟩
  | copy locking free =>
      rcases stranded.waits with ⟨_, _, waits⟩
      rw [free] at waits
      cases waits
  | poll passing ran =>
      rcases sound.passing _ _ _ passing with ⟨-, allowed, -⟩
      rcases stranded.spared _ _ _ passing with ⟨spares, goesOn⟩
      have same := HadoopState.get?_of_spares bound spares ran
      have evolves := HadoopState.evolves_of_poll allowed ran
      refine ⟨⟨HadoopState.shutdown_of_exec ran stranded.down, stranded.waits, ?_,
        (isDone_congr same).trans stranded.unresolved, ?_⟩, rfl⟩
      · rw [evolves.jobs]
        exact stranded.tracked
      · rintro _ _ _ ⟨⟩
        exact goesOn _
  | sleep passing =>
      refine ⟨⟨stranded.down, stranded.waits, stranded.tracked, stranded.unresolved, ?_⟩, rfl⟩
      rintro _ _ _ ⟨⟩
  | cancel other handed =>
      have same : (executor.state.futures.modify other Future.cancel).get? future =
          executor.state.futures.get? future :=
        Arena.get?_modify_of_ne _ _ fun same => keeps (congrArg some same.symm)
      exact ⟨⟨stranded.down, stranded.waits, stranded.tracked,
        (isDone_congr same).trans stranded.unresolved, stranded.spared⟩, rfl⟩

theorem Stranded.run (stranded : executor.Stranded future) (sound : executor.Sound)
    (run : Run str (fun other => other = future) executor after) :
    after.Sound ∧ after.Stranded future ∧ after.returned = executor.returned := by
  induction run with
  | refl => exact ⟨sound, stranded, rfl⟩
  | tail before step keeps induction =>
      rcases induction with ⟨sound, stranded, same⟩
      have stepped := stranded.step sound step fun cancelled => keeps future cancelled rfl
      exact ⟨sound.step step, stepped.1, stepped.2.trans same⟩

/-- When the flag is set and the polling thread has turned away from a future that is not done, a
shutdown that waits never returns unless the owner of the future cancels it. No other method can
begin any more. -/
theorem shutdown_waits_for_ever (reachable : Reachable str executor)
    {log : List (HadoopExchange Object Error)}
    {routine : HadoopRoutine Object Error (Except (HadoopError Error) HadoopReturn)} {job : JobId}
    (down : executor.state.shutdown = true)
    (running : executor.running = some ⟨.shutdown true, log, routine⟩)
    (tracked : (future, job) ∈ executor.state.jobs)
    (unresolved : executor.state.isDone future = false)
    (away : TurnedAway future executor.poller)
    (run : Run str (fun other => other = future) executor after) :
    (∃ log routine, after.running = some ⟨.shutdown true, log, routine⟩) ∧
      after.returned = executor.returned ∧ after.state.isDone future = false := by
  have stranded : executor.Stranded future :=
    ⟨down, ⟨log, routine, running⟩, ⟨job, tracked⟩, unresolved, fun _ _ _ => away.spared⟩
  rcases stranded.run (sound_of_reachable reachable) run with ⟨-, stranded, same⟩
  exact ⟨stranded.waits, same, stranded.unresolved⟩

/-- A job runs when the executor is shut down, and the thread does not make another pass. -/
def Move.shutdownWhileRunning : List (Move Nat) :=
  Move.submitAndPoll 4 ++
    [.call (.shutdown true), .advance, .advance, .sleep, .test]

theorem shutdown_waits_for_ever_running : ∃ executor : HadoopExecutor Nat String,
    Reachable (fun _ => "") executor ∧
      ∀ after, Run (fun _ => "") (fun other => other = 0) executor after →
        (∃ log routine, after.running = some ⟨.shutdown true, log, routine⟩) ∧
          after.returned = executor.returned ∧ after.state.isDone 0 = false := by
  have played : (play (fun _ => "") (Cluster.steady "RUNNING" 7) Move.shutdownWhileRunning {}).map
      (fun executor => (executor.state.shutdown, executor.state.jobs, executor.state.isDone 0,
        executor.poller.hasEnded, executor.running.map fun running => running.call.isWaiting)) =
      some (true, [(0, "job_1")], false, true, some true) := by
    decide +kernel
  rcases exists_of_play played with ⟨executor, reachable, looked⟩
  rcases executor with ⟨state, poller, pollerLog, running, returned⟩
  simp only [Prod.mk.injEq, Option.map_eq_some_iff] at looked
  rcases looked with ⟨down, jobs, unresolved, ended, ⟨call, log, routine⟩, rfl, waiting⟩
  obtain rfl := HadoopCall.eq_of_isWaiting waiting
  obtain rfl := Poller.eq_of_hasEnded ended
  refine ⟨_, reachable, ?_⟩
  intro after run
  have tracked : (0, "job_1") ∈ state.jobs := by
    rw [jobs]
    exact List.mem_cons_self
  exact shutdown_waits_for_ever reachable down rfl tracked unresolved .ended run

/-! ## A shutdown that has returned -/

/-- What a method does when the flag is set: it makes no future and no entry. -/
def closedContract : Contract (@HadoopReply Object Error) where
  allows _
    | .newFuture | .setJob _ _ => False
    | _ => True
  relies _
    | ⟨.isShutdown, answer⟩ => answer = true
    | _ => True

def NoFutures (_ : List (HadoopExchange Object Error))
    (result : Except (HadoopError Error) HadoopReturn) : Prop :=
  ∀ futures, result ≠ .ok (.futures futures)

section Closed

variable {log : List (HadoopExchange Object Error)}

theorem keeps_closed_checkOpen :
    (checkOpen : HadoopAttempt Object Error Unit).run.Keeps closedContract
      (fun _ result => ∃ error, result = .error error) log := by
  rw [checkOpen]
  refine Fallible.keeps_ask_bind trivial ?_
  intro answer down
  cases answer with
  | true => exact ⟨_, rfl⟩
  | false => cases down

theorem keeps_closed_cancelJob (job : JobId) :
    (cancelJob job : HadoopAttempt Object Error Bool).run.Keeps closedContract
      (fun _ _ => True) log := by
  rw [cancelJob]
  refine Fallible.keeps_ask_bind trivial ?_
  intro info _
  rcases info with _ | info
  · exact trivial
  dsimp only
  split
  · refine Fallible.keeps_ask_bind trivial ?_
    intro killed _
    rcases killed with error | killed
    · exact trivial
    · cases killed with
      | false => exact trivial
      | true => exact Fallible.keeps_ask_bind trivial fun _ _ => trivial
  · exact trivial

theorem keeps_closed_shutdown (wait : Bool) :
    (Hadoop.shutdown wait : HadoopAttempt Object Error Unit).run.Keeps closedContract
      (fun _ _ => True) log := by
  have all : ∀ (entries : List (FutureId × JobId)) (log : List (HadoopExchange Object Error)),
      (awaitAll entries : HadoopAttempt Object Error Unit).run.Keeps closedContract
        (fun _ _ => True) log := by
    intro entries
    induction entries with
    | nil => exact fun _ => trivial
    | cons entry rest induction =>
        intro log
        rw [awaitAll]
        exact Fallible.keeps_ask_bind trivial fun _ _ => induction _
  rw [Hadoop.shutdown]
  refine Fallible.keeps_ask_bind trivial ?_
  intro _ _
  cases wait with
  | false => exact Fallible.keeps_ask_bind trivial fun _ _ => trivial
  | true =>
      refine Fallible.keeps_ask_bind trivial ?_
      intro entries _
      refine Fallible.keeps_bind (all entries _) ?_ fun _ _ _ => trivial
      intro middle _ _
      exact Fallible.keeps_ask_bind trivial fun _ _ => trivial

theorem keeps_closed_attempt (call : HadoopCall Object) :
    (call.attempt : HadoopAttempt Object Error HadoopReturn).run.Keeps closedContract
      NoFutures log := by
  cases call with
  | submit fn args kwargs =>
      have refused : (submit fn args kwargs : HadoopAttempt Object Error FutureId).run.Keeps
          closedContract (fun _ result => ∃ error, result = .error error) log := by
        rw [submit]
        refine Fallible.keeps_bind keeps_closed_checkOpen ?_ fun _ error _ => ⟨error, rfl⟩
        rintro middle value ⟨error, ⟨⟩⟩
      refine Fallible.keeps_bind refused ?_ fun _ error _ => by rintro _ ⟨⟩
      rintro middle value ⟨error, ⟨⟩⟩
  | submitBatch fns argsList =>
      have refused : (submitBatch fns argsList :
          HadoopAttempt Object Error (List FutureId)).run.Keeps
          closedContract (fun _ result => ∃ error, result = .error error) log := by
        rw [submitBatch]
        refine Fallible.keeps_bind keeps_closed_checkOpen ?_ fun _ error _ => ⟨error, rfl⟩
        rintro middle value ⟨error, ⟨⟩⟩
      refine Fallible.keeps_bind refused ?_ fun _ error _ => by rintro _ ⟨⟩
      rintro middle value ⟨error, ⟨⟩⟩
  | cancel future =>
      have cancelled : (Hadoop.cancel future : HadoopAttempt Object Error Bool).run.Keeps
          closedContract (fun _ _ => True) log := by
        rw [Hadoop.cancel]
        refine Fallible.keeps_ask_bind trivial ?_
        intro job _
        rcases job with _ | job
        · exact trivial
        · exact keeps_closed_cancelJob job
      refine Fallible.keeps_bind cancelled ?_ fun _ error _ => by rintro _ ⟨⟩
      intro middle value _
      rintro _ ⟨⟩
  | shutdown wait =>
      refine Fallible.keeps_bind (keeps_closed_shutdown wait) ?_ fun _ error _ => by rintro _ ⟨⟩
      intro middle value _
      rintro _ ⟨⟩

end Closed

/-- A shutdown that runs has set the flag, or has not begun. -/
def Flagged (executor : HadoopExecutor Object Error) : Prop :=
  ∀ wait log routine, executor.running = some ⟨.shutdown wait, log, routine⟩ →
    executor.state.shutdown = true ∨ routine = (HadoopCall.shutdown wait).attempt.run

theorem Flagged.step (flagged : executor.Flagged) {cancelled : Option FutureId}
    (step : Step str executor cancelled after) :
    after.Flagged := by
  cases step with
  | call call free =>
      rintro wait log routine ⟨⟩
      exact .inr rfl
  | advance running ran =>
      rintro wait log routine ⟨⟩
      rcases flagged _ _ _ running with down | begins
      · exact .inl (HadoopState.shutdown_of_exec ran down)
      · cases begins
        cases ran
        exact .inl rfl
  | finish running => rintro _ _ _ ⟨⟩
  | test | copy | sleep | cancel => exact flagged
  | poll passing ran =>
      intro wait log routine running
      rcases flagged wait log routine running with down | begins
      · exact .inl (HadoopState.shutdown_of_exec ran down)
      · exact .inr begins

/-- The flag is set and nothing is open. -/
structure Closed (executor : HadoopExecutor Object Error) : Prop where
  down : executor.state.shutdown = true
  done : ∀ future job, (future, job) ∈ executor.state.jobs → executor.state.isDone future = true
  running : ∀ running, executor.running = some running →
    running.routine.Keeps closedContract NoFutures running.log

theorem closed_of_finish (sound : executor.Sound) (flagged : executor.Flagged)
    {log : List (HadoopExchange Object Error)}
    {result : Except (HadoopError Error) HadoopReturn}
    (running : executor.running = some ⟨.shutdown true, log, .done result⟩) :
    Closed { executor with
      running := none, returned := executor.returned ++ [⟨.shutdown true, result⟩] } := by
  have before := sound.running _ running
  rcases before.keeps.2.2 rfl with ⟨entries, copied, awaited⟩
  refine ⟨?_, ?_, by rintro _ ⟨⟩⟩
  · rcases flagged _ _ _ running with down | ⟨⟨⟩⟩
    exact down
  · intro future job member
    rw [before.call.copied entries copied] at member
    exact before.call.awaited future (awaited (future, job) member)

theorem relies_closed {state next : HadoopState Object Error} (down : state.shutdown = true)
    {log : List (HadoopExchange Object Error)} {command : HadoopCommand Object Error}
    {reply : HadoopReply command} (ran : state.exec command reply = some next) :
    closedContract.relies log ⟨command, reply⟩ := by
  cases command with
  | isShutdown =>
      rw [HadoopState.exec] at ran
      split at ran
      · rename_i same
        exact same.trans down
      · cases ran
  | _ => exact trivial

theorem jobs_of_closed {state next : HadoopState Object Error}
    {log : List (HadoopExchange Object Error)} {command : HadoopCommand Object Error}
    {reply : HadoopReply command} (allowed : closedContract.allows log command)
    (ran : state.exec command reply = some next) : next.jobs = state.jobs := by
  cases HadoopState.effect_of_exec ran with
  | newFuture | setJob => exact absurd allowed id
  | quiet | trackJob | setStatus | setError | setShutdown | cancelFuture => rfl
  | setResult | setException => exact HadoopState.jobs_resolve _ _

theorem Closed.step (closed : executor.Closed) (sound : executor.Sound)
    {cancelled : Option FutureId} (step : Step str executor cancelled after) :
    after.Closed ∧ after.handedOut = executor.handedOut := by
  cases step with
  | call call free =>
      refine ⟨⟨closed.down, closed.done, ?_⟩, rfl⟩
      rintro _ ⟨⟩
      exact keeps_closed_attempt call
  | advance running ran =>
      have before := sound.running _ running
      rcases closed.running _ running with ⟨allowed, goesOn⟩
      have grows := HadoopState.grows_of_call before.call before.keeps.1 ran
      refine ⟨⟨HadoopState.shutdown_of_exec ran closed.down, ?_, ?_⟩, rfl⟩
      · intro future job member
        rw [jobs_of_closed allowed ran] at member
        exact grows.done future (closed.done future job member)
      · rintro _ ⟨⟩
        exact goesOn _ (relies_closed closed.down ran)
  | @finish call log result running =>
      have none : NoFutures log result := closed.running _ running
      refine ⟨⟨closed.down, closed.done, by rintro _ ⟨⟩⟩, ?_⟩
      rw [handedOut, handedOut, List.flatMap_append, List.append_right_eq_self]
      rcases result with error | value
      · rfl
      · cases value with
        | futures futures => exact absurd rfl (none futures)
        | bool | none => rfl
  | test | copy | sleep => exact ⟨⟨closed.down, closed.done, closed.running⟩, rfl⟩
  | poll passing ran =>
      rcases sound.passing _ _ _ passing with ⟨-, allowed, -⟩
      have evolves := HadoopState.evolves_of_poll allowed ran
      refine ⟨⟨HadoopState.shutdown_of_exec ran closed.down, ?_, closed.running⟩, rfl⟩
      intro future job member
      rw [evolves.jobs] at member
      exact evolves.done future (closed.done future job member)
  | cancel other handed =>
      refine ⟨⟨closed.down, ?_, closed.running⟩, rfl⟩
      intro future job member
      exact HadoopState.isDone_modify (fun _ => Future.done_cancel) (closed.done future job member)

/-- A shutdown that waits has returned. -/
def ShutDown (executor : HadoopExecutor Object Error) : Prop :=
  ∃ result, (⟨.shutdown true, result⟩ : ReturnedCall Object Error) ∈ executor.returned

theorem closed_of_reachable (reachable : Reachable str executor) :
    executor.Flagged ∧ (executor.ShutDown → executor.Closed) := by
  induction reachable with
  | refl =>
      refine ⟨by rintro _ _ _ ⟨⟩, ?_⟩
      rintro ⟨_, ⟨⟩⟩
  | @tail middle last cancelled before step _ induction =>
      rcases induction with ⟨flagged, closed⟩
      have sound := sound_of_reachable before
      refine ⟨flagged.step step, ?_⟩
      rintro ⟨returned, member⟩
      by_cases already : middle.ShutDown
      · exact ((closed already).step sound step).1
      · cases step with
        | @finish call log result running =>
            rcases List.mem_append.mp member with old | new
            · exact absurd ⟨returned, old⟩ already
            · cases List.mem_singleton.mp new
              exact closed_of_finish sound flagged running
        | call | advance | test | copy | poll | sleep | cancel =>
            exact absurd ⟨returned, member⟩ already

theorem Closed.run (closed : executor.Closed) (sound : executor.Sound) {kept : FutureId → Prop}
    (run : Run str kept executor after) :
    after.Sound ∧ after.Closed ∧ after.handedOut = executor.handedOut := by
  induction run with
  | refl => exact ⟨sound, closed, rfl⟩
  | tail before step _ induction =>
      rcases induction with ⟨sound, closed, same⟩
      have stepped := closed.step sound step
      exact ⟨sound.step step, stepped.1, stepped.2.trans same⟩

/-- When a shutdown that waits has returned, all futures that were ever handed out are done, and no
further ones are handed out. -/
theorem shutdown_settles_all (reachable : Reachable str executor) (returned : executor.ShutDown)
    {kept : FutureId → Prop} (run : Run str kept executor after) :
    after.handedOut = executor.handedOut ∧
      ∀ future ∈ executor.handedOut, after.state.isDone future = true := by
  have closed := (closed_of_reachable reachable).2 returned
  rcases closed.run (sound_of_reachable reachable) run with ⟨sound, closed, same⟩
  refine ⟨same, ?_⟩
  intro future member
  rw [← same] at member
  rcases (sound.handed future member).2 with done | ⟨job, tracked⟩
  · exact done
  · exact closed.done future job tracked

theorem shutdown_settles_all_succeeded : ∃ executor : HadoopExecutor Nat String,
    executor.handedOut = [0] ∧ ∀ after, Run (fun _ => "") (fun _ => False) executor after →
      after.handedOut = [0] ∧ after.state.isDone 0 = true := by
  have played : (play (fun _ => "") (Cluster.steady "SUCCEEDED" 7)
      (Move.submitAndPoll 12 ++ [.call (.shutdown true)] ++ List.replicate 4 .advance ++
        [.finish]) {}).map
      (fun executor => (executor.handedOut,
        executor.returned.any fun returned => returned.call.isWaiting)) =
      some ([0], true) := by
    decide +kernel
  rcases exists_of_play played with ⟨executor, reachable, looked⟩
  rcases Prod.mk.inj looked with ⟨handed, waited⟩
  rcases List.any_eq_true.mp waited with ⟨⟨call, result⟩, member, waiting⟩
  obtain rfl := HadoopCall.eq_of_isWaiting waiting
  refine ⟨executor, handed, ?_⟩
  intro after run
  rcases shutdown_settles_all reachable ⟨result, member⟩ run with ⟨same, done⟩
  rw [handed] at same done
  exact ⟨same, done 0 List.mem_cons_self⟩

end HadoopExecutor

end EventPipeline
