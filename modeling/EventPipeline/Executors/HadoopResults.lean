import EventPipeline.Executors.HadoopPlay
import EventPipeline.Executors.HadoopRuns

/-! # Results of the Hadoop executor

A future gets the result of its own job, and each pass of the polling thread deals with every
future that it finds.
-/

namespace EventPipeline

open Hadoop Routine

variable {Object Error : Type}

namespace HadoopExecutor

variable {str : HadoopError Error → String} {executor after : HadoopExecutor Object Error}

structure PassEnds (before : List (HadoopExchange Object Error))
    (entries : List (FutureId × JobId)) (log : List (HadoopExchange Object Error))
    (result : Except (HadoopError Error) Unit) : Prop where
  recorded : AllRecorded log
  returned : result = .ok () → ∀ entry ∈ entries,
    Settled (since before log) entry.1 ∨ StillOpen (since before log) entry.2
  raised : ∀ error, result = .error error → error = .invalidStateError

/-- What holds of the method that runs. -/
structure RunningSound (executor : HadoopExecutor Object Error)
    (running : RunningCall Object Error) : Prop where
  call : executor.state.CallSound running.log
  keeps : running.routine.Keeps callContract (CallEnds running.call) running.log
  kept : ∀ future, Fresh running.log future → future ∉ executor.handedOut

structure Sound (executor : HadoopExecutor Object Error) : Prop where
  jobs : executor.state.JobsSound
  info : executor.state.InfoSound executor.pollLog
  futures : executor.state.FuturesSound executor.pollLog
  recorded : AllRecorded executor.pollerLog
  passing : ∀ entries log routine, executor.poller = .passing entries log routine →
    entries ⊆ executor.state.jobs ∧
      routine.Keeps (pollContract entries) (PassEnds executor.pollerLog entries)
        (executor.pollerLog ++ log)
  handed : ∀ future ∈ executor.handedOut,
    future < executor.state.futures.size ∧ executor.state.Kept future
  running : ∀ running, executor.running = some running → executor.RunningSound running

theorem sound_initial : Sound ({} : HadoopExecutor Object Error) where
  jobs := ⟨List.nodup_nil, by rintro _ _ ⟨⟩⟩
  info := by
    refine ⟨?_, ?_, ?_, ?_⟩
    · rintro _ ⟨_, ⟨⟩⟩
    · rintro _ _ _ ⟨⟩
    · rintro _ _ ⟨⟩
    · rintro _ _ ⟨⟩
  futures := by
    refine ⟨?_, ?_, ?_, ?_⟩
    · intro future running
      simp [Arena.get?, Arena.empty] at running
    · rintro _ ⟨_, ⟨⟩, _⟩
    · intro future value finished
      simp [Arena.get?, Arena.empty] at finished
    · rintro _ _ _ ⟨⟩
  recorded := by
    rintro _ ⟨_, _, ⟨⟩⟩
  passing := by rintro _ _ _ ⟨⟩
  handed := by rintro _ ⟨⟩
  running := by rintro _ ⟨⟩

/-- A step outside of the methods leaves the method that runs sound. -/
theorem RunningSound.evolve {running : RunningCall Object Error}
    (sound : executor.RunningSound running) {touched : FutureId → Prop}
    (evolves : HadoopState.Evolves touched executor.state after.state)
    (untouched : ∀ future, Fresh running.log future → ¬ touched future)
    (returned : after.returned = executor.returned) : after.RunningSound running where
  call := sound.call.evolve evolves untouched
  keeps := sound.keeps
  kept := by
    rw [handedOut, returned]
    exact sound.kept

theorem Sound.call (sound : executor.Sound) (call : HadoopCall Object) :
    Sound { executor with running := some { call, routine := call.attempt.run } } where
  jobs := sound.jobs
  info := sound.info
  futures := sound.futures
  recorded := sound.recorded
  passing := sound.passing
  handed := sound.handed
  running := by
    rintro _ ⟨⟩
    refine ⟨⟨?_, ?_, ?_, ?_, ?_, ?_, ?_⟩, keeps_attempt call, ?_⟩
    · rintro _ (⟨⟨⟩⟩ | ⟨_, ⟨⟩⟩ | ⟨_, _, ⟨⟩⟩)
    · rintro _ ⟨⟨⟩, _, _⟩
    · rintro _ (⟨_, ⟨⟩⟩ | ⟨_, ⟨⟩⟩)
    · rintro _ ⟨_, ⟨⟩⟩
    · rintro _ _ ⟨⟩
    · rintro _ ⟨⟩
    · rintro _ ⟨⟩
    · rintro _ ⟨⟨⟩, _, _⟩

theorem Sound.advance (sound : executor.Sound) {call : HadoopCall Object}
    {log : List (HadoopExchange Object Error)} {command : HadoopCommand Object Error}
    {next : HadoopReply command →
      HadoopRoutine Object Error (Except (HadoopError Error) HadoopReturn)}
    {reply : HadoopReply command} {state : HadoopState Object Error}
    (running : executor.running = some ⟨call, log, .send command next⟩)
    (ran : executor.state.exec command reply = some state) :
    Sound { executor with
      state, running := some ⟨call, log ++ [⟨command, reply⟩], next reply⟩ } := by
  have before := sound.running _ running
  rcases before.keeps with ⟨allowed, goesOn⟩
  have relied := HadoopState.relies_of_callSound before.call ran
  have grows := HadoopState.grows_of_call before.call allowed ran
  constructor
  · exact sound.jobs.advance before.call allowed ran
  · exact sound.info.advance before.call allowed ran
  · exact sound.futures.advance before.call allowed ran
  · exact sound.recorded
  · intro entries log routine passing
    have kept := sound.passing entries log routine passing
    exact ⟨List.Subset.trans kept.1 grows.jobs, kept.2⟩
  · intro future member
    have handed := sound.handed future member
    exact ⟨handed.1.trans_le grows.size, handed.2.grow grows⟩
  · rintro _ ⟨⟩
    refine ⟨before.call.advance sound.jobs allowed ran, goesOn reply relied, ?_⟩
    intro future fresh member
    by_cases made : (⟨command, reply⟩ : HadoopExchange Object Error) = ⟨.newFuture, future⟩
    · cases made
      rw [HadoopState.exec] at ran
      split at ran
      · rename_i same
        exact absurd same (Nat.ne_of_lt (sound.handed future member).1)
      · cases ran
    · exact before.kept future (HadoopState.fresh_of_append fresh made) member

theorem Sound.finish (sound : executor.Sound) {call : HadoopCall Object}
    {log : List (HadoopExchange Object Error)}
    {result : Except (HadoopError Error) HadoopReturn}
    (running : executor.running = some ⟨call, log, .done result⟩) :
    Sound { executor with
      running := none, returned := executor.returned ++ [⟨call, result⟩] } where
  jobs := sound.jobs
  info := sound.info
  futures := sound.futures
  recorded := sound.recorded
  passing := sound.passing
  handed := by
    have before := sound.running _ running
    intro future member
    rw [handedOut, List.flatMap_append] at member
    rcases List.mem_append.mp member with old | new
    · exact sound.handed future old
    · have returned : ∃ futures, result = .ok (.futures futures) ∧ future ∈ futures := by
        rcases result with error | value
        · simp at new
        · cases value with
          | futures futures => exact ⟨futures, rfl, by simpa using new⟩
          | bool | none => simp at new
      rcases returned with ⟨futures, same, listed⟩
      have accounted := before.keeps.1 futures same future listed
      refine ⟨before.call.mentioned future (.inr ?_), before.call.accounted future accounted⟩
      rcases accounted with assigned | ⟨error, failed⟩
      · exact .inl assigned
      · exact .inr ⟨error, true, failed⟩
  running := by rintro _ ⟨⟩

/-- A step of the polling thread that leaves what is shared alone. -/
theorem Sound.turn (sound : executor.Sound) {poller : Poller Object Error}
    {log : List (HadoopExchange Object Error)} (recorded : AllRecorded log)
    (same : pollLog { executor with poller, pollerLog := log } = executor.pollLog)
    (passing : ∀ entries pass routine, poller = .passing entries pass routine →
      entries ⊆ executor.state.jobs ∧
        routine.Keeps (pollContract entries) (PassEnds log entries) (log ++ pass)) :
    Sound { executor with poller, pollerLog := log } where
  jobs := sound.jobs
  info := by
    rw [same]
    exact sound.info
  futures := by
    rw [same]
    exact sound.futures
  recorded := recorded
  passing := passing
  handed := sound.handed
  running running held :=
    have before := sound.running running held
    ⟨before.call, before.keeps, before.kept⟩

theorem Sound.copy (sound : executor.Sound) (locking : executor.poller = .locking) :
    Sound { executor with
      poller :=
        if executor.state.jobs = [] then .testing
        else .passing executor.state.jobs [] (pollJobs str executor.state.jobs).run } := by
  have log : executor.pollLog = executor.pollerLog := by rw [pollLog, locking]
  split
  · exact sound.turn sound.recorded log.symm (by rintro _ _ _ ⟨⟩)
  · refine sound.turn sound.recorded ?_ ?_
    · rw [log, pollLog]
      exact List.append_nil _
    · rintro _ _ _ ⟨⟩
      rw [List.append_nil]
      refine ⟨List.Subset.refl _, ?_⟩
      refine (keeps_pollJobs (List.Subset.refl _) sound.recorded).weaken ?_
      rintro after result ⟨-, recorded, returned, raised⟩
      exact ⟨recorded, returned, raised⟩

theorem Sound.poll (sound : executor.Sound) {entries : List (FutureId × JobId)}
    {log : List (HadoopExchange Object Error)} {command : HadoopCommand Object Error}
    {next : HadoopReply command → HadoopRoutine Object Error (Except (HadoopError Error) Unit)}
    {reply : HadoopReply command} {state : HadoopState Object Error}
    (passing : executor.poller = .passing entries log (.send command next))
    (ran : executor.state.exec command reply = some state) :
    Sound { executor with
      state, poller := .passing entries (log ++ [⟨command, reply⟩]) (next reply) } := by
  rcases sound.passing _ _ _ passing with ⟨within, allowed, goesOn⟩
  have polled : executor.pollLog = executor.pollerLog ++ log := by rw [pollLog, passing]
  have info := sound.info
  have futures := sound.futures
  rw [polled] at info futures
  have relied := HadoopState.relies_of_sound info futures sound.jobs within ran
  have evolves := HadoopState.evolves_of_poll allowed ran
  have extended : pollLog { executor with
      state, poller := .passing entries (log ++ [⟨command, reply⟩]) (next reply) } =
      executor.pollerLog ++ log ++ [⟨command, reply⟩] := (List.append_assoc _ _ _).symm
  constructor
  · exact sound.jobs.evolve evolves
  · rw [extended]
    exact info.poll sound.jobs within allowed ran
  · rw [extended]
    exact futures.poll sound.jobs within allowed ran
  · exact sound.recorded
  · rintro _ _ _ ⟨⟩
    rw [evolves.jobs, ← List.append_assoc]
    exact ⟨within, goesOn reply relied⟩
  · intro future member
    have handed := sound.handed future member
    exact ⟨handed.1.trans_eq evolves.size.symm, handed.2.evolve evolves⟩
  · intro running held
    refine (sound.running running held).evolve evolves ?_ rfl
    rintro future fresh ⟨job, member⟩
    exact ((sound.running running held).call.fresh future fresh).1 job (within member)

theorem Sound.sleep (sound : executor.Sound) {entries : List (FutureId × JobId)}
    {log : List (HadoopExchange Object Error)} {result : Except (HadoopError Error) Unit}
    (passing : executor.poller = .passing entries log (.done result)) :
    Sound { executor with poller := .testing, pollerLog := executor.pollerLog ++ log } := by
  have ends := (sound.passing _ _ _ passing).2
  refine sound.turn ends.recorded ?_ (by rintro _ _ _ ⟨⟩)
  rw [pollLog, pollLog, passing]

theorem Sound.cancel (sound : executor.Sound) {future : FutureId}
    (handed : future ∈ executor.handedOut) :
    Sound { executor with
      state := { executor.state with
        futures := executor.state.futures.modify future Future.cancel } } := by
  have evolves : HadoopState.Evolves (fun other => other = future) executor.state
      { executor.state with futures := executor.state.futures.modify future Future.cancel } :=
    HadoopState.evolves_cancel future
  constructor
  · exact sound.jobs.evolve evolves
  · exact sound.info.congr rfl
  · exact sound.futures.cancel future
  · exact sound.recorded
  · exact sound.passing
  · intro other member
    have before := sound.handed other member
    exact ⟨before.1.trans_eq evolves.size.symm, before.2.evolve evolves⟩
  · intro running held
    refine (sound.running running held).evolve evolves ?_ rfl
    rintro other fresh rfl
    exact (sound.running running held).kept other fresh handed

theorem Sound.step (sound : executor.Sound) {cancelled : Option FutureId}
    (step : Step str executor cancelled after) : after.Sound := by
  cases step with
  | call call free => exact sound.call call
  | advance running ran => exact sound.advance running ran
  | finish running => exact sound.finish running
  | test testing =>
      have log : executor.pollLog = executor.pollerLog := by rw [pollLog, testing]
      split
      · exact sound.turn sound.recorded log.symm (by rintro _ _ _ ⟨⟩)
      · exact sound.turn sound.recorded log.symm (by rintro _ _ _ ⟨⟩)
  | copy locking free => exact sound.copy locking
  | poll passing ran => exact sound.poll passing ran
  | sleep passing => exact sound.sleep passing
  | cancel future handed => exact sound.cancel handed

theorem sound_of_reachable (reachable : Reachable str executor) : executor.Sound := by
  induction reachable with
  | refl => exact sound_initial
  | tail before step _ induction => exact induction.step step

/-! ## Results -/

/-- What a future holds is what the cluster has said of its job. A value is read from the output
of the job when the cluster has reported its end and never a failure, and an error is an error of
that job. -/
theorem resolved_as_reported (reachable : Reachable str executor) (future : FutureId) :
    (∀ value, executor.state.futures.get? future = some (.finished (.ok value)) →
      ∃ job info before, (future, job) ∈ executor.state.jobs ∧
        executor.state.jobResults job = some info ∧ before <+: executor.pollLog ∧
        EndReported before job ∧ ¬ FailureReported before job ∧
        Loaded before info.outputPath value) ∧
    ∀ job error, (future, job) ∈ executor.state.jobs →
      executor.state.futures.get? future = some (.finished (.error error)) →
      Excused executor.pollLog job error := by
  have sound := sound_of_reachable reachable
  constructor
  · intro value finished
    rcases sound.futures.results future value finished with ⟨job, before, member, early, earned⟩
    rcases earned.loaded with ⟨seen, asked, loaded⟩
    rcases sound.info.read job seen (early.subset asked) with ⟨info, found, path⟩
    refine ⟨job, info, before, member, found, early, earned.ended, earned.unfailed, ?_⟩
    rw [path]
    exact loaded
  · exact sound.futures.errors future

def Cluster.steady (hadoopStatus : String) (value : Nat) : Cluster Nat String where
  submitJob _ := .ok "job_1"
  getOutputPath _ := .ok "/output"
  getJobStatus _ := .ok hadoopStatus
  load _ := .ok value

/-- A job is submitted, and a pass asks for its state. -/
def Move.submitAndPoll (polls : Nat) : List (Move Nat) :=
  .call (.submit { object := 0 } [] []) :: List.replicate 7 .advance ++
    [.finish, .test, .copy] ++ List.replicate polls .poll

theorem resolved_as_reported_succeeded : ∃ executor : HadoopExecutor Nat String,
    executor.state.futures.get? 0 = some (.finished (.ok 7)) ∧
      ∃ job info before, (0, job) ∈ executor.state.jobs ∧
        executor.state.jobResults job = some info ∧ before <+: executor.pollLog ∧
        EndReported before job ∧ ¬ FailureReported before job ∧
        Loaded before info.outputPath 7 := by
  have played : (play (fun _ => "") (Cluster.steady "SUCCEEDED" 7)
      (Move.submitAndPoll 12) {}).map (fun executor => executor.state.futures.get? 0) =
      some (some (.finished (.ok 7))) := by
    decide +kernel
  rcases exists_of_play played with ⟨executor, reachable, finished⟩
  exact ⟨executor, finished, (resolved_as_reported reachable 0).1 7 finished⟩

/-! ## Passes -/

/-- A pass that has ended has dealt with every future that it has found, whatever came between:
the future is done, or its job is still open in this pass. Only an `InvalidStateError` leaves a
pass, and no future that was handed out is forgotten. -/
theorem pass_leaves_none (reachable : Reachable str executor)
    {entries : List (FutureId × JobId)} {log : List (HadoopExchange Object Error)}
    {result : Except (HadoopError Error) Unit}
    (passing : executor.poller = .passing entries log (.done result)) :
    (result = .ok () → ∀ future job, (future, job) ∈ entries →
      executor.state.isDone future = true ∨ StillOpen log job) ∧
      (∀ error, result = .error error → error = .invalidStateError) ∧
      ∀ future ∈ executor.handedOut, executor.state.isDone future = true ∨
        ∃ job, (future, job) ∈ executor.state.jobs := by
  have sound := sound_of_reachable reachable
  have ends : PassEnds executor.pollerLog entries (executor.pollerLog ++ log) result :=
    (sound.passing _ _ _ passing).2
  have all : executor.pollLog = executor.pollerLog ++ log := by rw [pollLog, passing]
  have new : since executor.pollerLog (executor.pollerLog ++ log) = log := List.drop_left
  refine ⟨?_, ends.raised, fun future member => (sound.handed future member).2⟩
  intro returned future job member
  rcases ends.returned returned (future, job) member with settled | still
  · refine .inl (sound.futures.settled future ?_)
    rw [all]
    exact settled.mono (List.drop_subset _ _)
  · rw [new] at still
    exact .inr still

theorem pass_leaves_none_running : ∃ (executor : HadoopExecutor Nat String)
    (log : List (HadoopExchange Nat String)),
    executor.poller = .passing [(0, "job_1")] log (.done (.ok ())) ∧
      (executor.state.isDone 0 = true ∨ StillOpen log "job_1") := by
  have played : (play (fun _ => "") (Cluster.steady "RUNNING" 7)
      (Move.submitAndPoll 4) {}).map (fun executor => executor.poller.passed?) =
      some (some [(0, "job_1")]) := by
    decide +kernel
  rcases exists_of_play played with ⟨executor, reachable, passed⟩
  rcases Poller.eq_of_passed passed with ⟨log, passing⟩
  exact ⟨executor, log, passing,
    (pass_leaves_none reachable passing).1 rfl 0 "job_1" List.mem_cons_self⟩

end HadoopExecutor

end EventPipeline
