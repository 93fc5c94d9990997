import EventPipeline.Executors.HadoopPolling

/-! # What the shared state says

The entries of the connector and the futures agree with what the polling thread has seen, whatever
the order in which the threads go on.
-/

namespace EventPipeline

open Hadoop Routine

variable {Object Error : Type}

/-- The futures of the executor have jobs that are known. -/
structure HadoopState.JobsSound (state : HadoopState Object Error) : Prop where
  nodup : (OrderedDict.keys state.jobs).Nodup
  known : ∀ future job, (future, job) ∈ state.jobs →
    future < state.futures.size ∧ state.jobResults job ≠ none

theorem HadoopState.JobsSound.unique {state : HadoopState Object Error} (sound : state.JobsSound)
    {future : FutureId} {first second : JobId} (left : (future, first) ∈ state.jobs)
    (right : (future, second) ∈ state.jobs) : first = second := by
  have found := OrderedDict.get_of_mem sound.nodup left
  rw [OrderedDict.get_of_mem sound.nodup right] at found
  exact (Option.some.inj found).symm

/-- The entries of the connector say what the cluster has reported. -/
structure HadoopState.InfoSound (state : HadoopState Object Error)
    (log : List (HadoopExchange Object Error)) : Prop where
  recorded : ∀ job, ErrorRecorded log job → ∃ info, state.jobResults job = some info ∧
    info.error ≠ none
  backed : ∀ job info message, state.jobResults job = some info → info.error = some message →
    ∃ hadoopStatus, isFailure hadoopStatus = true ∧ Reported log job hadoopStatus ∧
      message = s!"Job failed with status: {hadoopStatus}"
  ended : ∀ job info, state.jobResults job = some info → info.status = .finished →
    EndReported log job
  read : ∀ job info, ⟨.jobInfo job, some info⟩ ∈ log →
    ∃ now, state.jobResults job = some now ∧ now.outputPath = info.outputPath

structure HadoopState.FuturesSound (state : HadoopState Object Error)
    (log : List (HadoopExchange Object Error)) : Prop where
  idle : ∀ future, state.futures.get? future ≠ some .running
  settled : ∀ future, Settled log future → state.isDone future = true
  results : ∀ future value, state.futures.get? future = some (.finished (.ok value)) →
    ∃ job before, (future, job) ∈ state.jobs ∧ before <+: log ∧ Earned before job value
  errors : ∀ future job error, (future, job) ∈ state.jobs →
    state.futures.get? future = some (.finished (.error error)) → Excused log job error

namespace HadoopState

variable {state after : HadoopState Object Error} {log : List (HadoopExchange Object Error)}
  {entries : List (FutureId × JobId)}

/-! ## What a command does -/

/-- The command assigns to something that the threads share. -/
def writes : HadoopCommand Object Error → Bool
  | .trackJob _ _ | .setStatus _ _ | .setError _ _ | .setShutdown | .setJob _ _ | .newFuture
  | .cancelFuture _ | .setResult _ _ | .setException _ _ => true
  | .isConnected | .connect | .disconnect | .submitJob _ | .getOutputPath _ | .getJobStatus _
  | .killJob _ | .pathExists _ | .ls _ | .load _ | .jobInfo _ | .isShutdown | .jobOf _ | .jobs
  | .isDone _ | .isCancelled _ | .awaitResult _ => false

inductive Effect (state : HadoopState Object Error) :
    HadoopExchange Object Error → HadoopState Object Error → Prop
  | quiet {exchange} (quiet : writes exchange.command = false) : Effect state exchange state
  | trackJob (job : JobId) (outputPath : String) :
      Effect state ⟨.trackJob job outputPath, ()⟩ (state.track job outputPath)
  | setStatus (job : JobId) (status : JobStatus) :
      Effect state ⟨.setStatus job status, ()⟩
        (state.setInfo job fun info => { info with status })
  | setError (job : JobId) (message : String) :
      Effect state ⟨.setError job message, ()⟩
        (state.setInfo job fun info => { info with error := some message })
  | setShutdown : Effect state ⟨.setShutdown, ()⟩ { state with shutdown := true }
  | setJob (future : FutureId) (job : JobId) :
      Effect state ⟨.setJob future job, ()⟩
        { state with jobs := OrderedDict.insert future job state.jobs }
  | newFuture :
      Effect state ⟨.newFuture, state.futures.size⟩
        { state with futures := state.futures.alloc .pending }
  | cancelFuture (future : FutureId) :
      Effect state ⟨.cancelFuture future, ()⟩
        { state with futures := state.futures.modify future Future.cancel }
  | setResult (future : FutureId) (value : Object) :
      Effect state ⟨.setResult future value, (state.resolve future (.ok value)).2⟩
        (state.resolve future (.ok value)).1
  | setException (future : FutureId) (error : HadoopError Error) :
      Effect state ⟨.setException future error, (state.resolve future (.error error)).2⟩
        (state.resolve future (.error error)).1

theorem effect_of_exec {command : HadoopCommand Object Error} {reply : HadoopReply command}
    (ran : state.exec command reply = some after) : Effect state ⟨command, reply⟩ after := by
  cases command with
  | isConnected | connect | disconnect | getOutputPath | getJobStatus | killJob | pathExists | ls
  | load =>
      cases ran
      exact .quiet rfl
  | submitJob config =>
      cases reply with
      | error error =>
          cases ran
          exact .quiet rfl
      | ok job =>
          rw [exec] at ran
          split at ran <;> cases ran
          exact .quiet rfl
  | jobInfo | isShutdown | jobOf | jobs | isDone | isCancelled | awaitResult =>
      rw [exec] at ran
      split at ran <;> cases ran
      exact .quiet rfl
  | trackJob job outputPath =>
      cases ran
      exact .trackJob job outputPath
  | setStatus job status =>
      cases ran
      exact .setStatus job status
  | setError job message =>
      cases ran
      exact .setError job message
  | setShutdown =>
      cases ran
      exact .setShutdown
  | setJob future job =>
      cases ran
      exact .setJob future job
  | cancelFuture future =>
      cases ran
      exact .cancelFuture future
  | newFuture =>
      rw [exec] at ran
      split at ran <;> cases ran
      rename_i same
      cases same
      exact .newFuture
  | setResult future value =>
      simp only [exec] at ran
      split at ran <;> cases ran
      rename_i same
      cases same
      exact .setResult future value
  | setException future error =>
      simp only [exec] at ran
      split at ran <;> cases ran
      rename_i same
      cases same
      exact .setException future error

/-! ## Futures -/

theorem settled_append {future : FutureId} {exchange : HadoopExchange Object Error}
    (settled : Settled (log ++ [exchange]) future) :
    Settled log future ∨ settles future exchange = true := by
  rcases settled with ⟨other, member, settles⟩
  rcases List.mem_append.mp member with old | new
  · exact .inl ⟨other, old, settles⟩
  · rw [List.mem_singleton.mp new] at settles
    exact .inr settles

theorem FuturesSound.later (sound : state.FuturesSound log)
    {exchange : HadoopExchange Object Error}
    (shown : ∀ future, settles future exchange = true → state.isDone future = true) :
    state.FuturesSound (log ++ [exchange]) where
  idle := sound.idle
  settled future settled := by
    rcases settled_append settled with old | new
    · exact sound.settled future old
    · exact shown future new
  results future value finished := by
    rcases sound.results future value finished with ⟨job, before, member, early, earned⟩
    exact ⟨job, before, member, early.trans (List.prefix_append _ _), earned⟩
  errors future job error member finished :=
    (sound.errors future job error member finished).later (List.prefix_append _ _)

theorem FuturesSound.modify (sound : state.FuturesSound log) (future : FutureId)
    (change : Future Object (HadoopError Error) → Future Object (HadoopError Error))
    (done : ∀ cell, state.futures.get? future = some cell → (change cell).done = true)
    (results : ∀ cell value, state.futures.get? future = some cell →
      change cell = .finished (.ok value) →
      ∃ job before, (future, job) ∈ state.jobs ∧ before <+: log ∧ Earned before job value)
    (errors : ∀ cell job error, state.futures.get? future = some cell →
      (future, job) ∈ state.jobs → change cell = .finished (.error error) →
      Excused log job error) :
    ({ state with futures := state.futures.modify future change } :
      HadoopState Object Error).FuturesSound log := by
  have elsewhere : ∀ other, other ≠ future →
      (state.futures.modify future change).get? other = state.futures.get? other :=
    fun other different => Arena.get?_modify_of_ne _ _ different
  have changed : ∀ cell, (state.futures.modify future change).get? future = some cell →
      ∃ old, state.futures.get? future = some old ∧ change old = cell := by
    intro cell found
    rw [Arena.get?_modify_self] at found
    exact Option.map_eq_some_iff.mp found
  constructor
  · intro other running
    by_cases same : other = future
    · subst same
      rcases changed _ running with ⟨old, found, became⟩
      have ended := done old found
      rw [became] at ended
      cases ended
    · exact sound.idle other ((elsewhere other same).symm.trans running)
  · intro other settled
    have before := sound.settled other settled
    by_cases same : other = future
    · subst same
      cases found : state.futures.get? other with
      | none => simp [isDone, found] at before
      | some cell => simp [isDone, found, done cell found]
    · simpa [isDone, elsewhere other same] using before
  · intro other value finished
    by_cases same : other = future
    · subst same
      rcases changed _ finished with ⟨old, found, became⟩
      exact results old value found became
    · exact sound.results other value ((elsewhere other same).symm.trans finished)
  · intro other job error member finished
    by_cases same : other = future
    · subst same
      rcases changed _ finished with ⟨old, found, became⟩
      exact errors old job error found member became
    · exact sound.errors other job error member ((elsewhere other same).symm.trans finished)

theorem FuturesSound.cancel (sound : state.FuturesSound log) (future : FutureId) :
    ({ state with futures := state.futures.modify future Future.cancel } :
      HadoopState Object Error).FuturesSound log := by
  refine sound.modify future _ ?_ ?_ ?_
  · intro cell found
    cases cell with
    | running => exact absurd found (sound.idle future)
    | pending | cancelled | cancelledAndNotified | finished => rfl
  · intro cell value found became
    cases cell with
    | pending | running | cancelled | cancelledAndNotified => cases became
    | finished outcome =>
        cases became
        exact sound.results future value found
  · intro cell job error found member became
    cases cell with
    | pending | running | cancelled | cancelledAndNotified => cases became
    | finished outcome =>
        cases became
        exact sound.errors future job error member found

theorem isDone_cancel (sound : state.FuturesSound log) {future : FutureId}
    (bound : future < state.futures.size) :
    ({ state with futures := state.futures.modify future Future.cancel } :
      HadoopState Object Error).isDone future = true := by
  rcases Arena.get?_isSome_of_lt bound with ⟨cell, found⟩
  simp only [isDone, Arena.get?_modify_self, found, Option.map_some, Option.any_some]
  cases cell with
  | running => exact absurd found (sound.idle future)
  | pending | cancelled | cancelledAndNotified | finished => rfl

theorem isDone_of_isCancelled {future : FutureId} (cancelled : state.isCancelled future = true) :
    state.isDone future = true := by
  rw [isCancelled, Option.any_eq_true] at cancelled
  rcases cancelled with ⟨cell, found, cancelled⟩
  rw [isDone, found]
  cases cell with
  | cancelled | cancelledAndNotified | finished => rfl
  | pending | running => cases cancelled

theorem FuturesSound.congr (sound : state.FuturesSound log) (jobs : after.jobs = state.jobs)
    (futures : after.futures = state.futures) : after.FuturesSound log := by
  constructor
  · rw [futures]
    exact sound.idle
  · intro future settled
    rw [isDone, futures]
    exact sound.settled future settled
  · rw [futures, jobs]
    exact sound.results
  · rw [futures, jobs]
    exact sound.errors

theorem resolve_of_done {future : FutureId} {outcome : Except (HadoopError Error) Object}
    {cell : Future Object (HadoopError Error)} (found : state.futures.get? future = some cell)
    (done : cell.done = true) : state.resolve future outcome = (state, false) := by
  rw [resolve, found, Option.bind_some, Future.resolve, if_pos done]

theorem resolve_of_not_done {future : FutureId} {outcome : Except (HadoopError Error) Object}
    {cell : Future Object (HadoopError Error)} (found : state.futures.get? future = some cell)
    (done : cell.done = false) :
    state.resolve future outcome =
      ({ state with futures := state.futures.modify future fun _ => .finished outcome }, true) := by
  rw [resolve, found, Option.bind_some, Future.resolve, done, if_neg Bool.false_ne_true]

theorem isDone_resolve {future : FutureId} {outcome : Except (HadoopError Error) Object}
    (bound : future < state.futures.size) :
    (state.resolve future outcome).1.isDone future = true := by
  rcases Arena.get?_isSome_of_lt bound with ⟨cell, found⟩
  cases done : cell.done with
  | true =>
      rw [resolve_of_done found done]
      simp [isDone, found, done]
  | false =>
      rw [resolve_of_not_done found done]
      simp [isDone, found, Future.done]

theorem FuturesSound.resolve (sound : state.FuturesSound log) {future : FutureId}
    {outcome : Except (HadoopError Error) Object}
    (results : ∀ value, outcome = .ok value →
      ∃ job before, (future, job) ∈ state.jobs ∧ before <+: log ∧ Earned before job value)
    (errors : ∀ job error, (future, job) ∈ state.jobs → outcome = .error error →
      Excused log job error) :
    (state.resolve future outcome).1.FuturesSound log := by
  rw [HadoopState.resolve]
  split
  · exact sound
  · rename_i resolved ran
    rcases Option.bind_eq_some_iff.mp ran with ⟨old, found, became⟩
    rw [Future.resolve] at became
    split at became
    · cases became
    · cases became
      refine sound.modify future _ (fun _ _ => rfl) ?_ ?_
      · rintro cell value - ⟨⟩
        exact results value rfl
      · rintro cell job error - member ⟨⟩
        exact errors job error member rfl

/-! ## Steps of the polling thread -/

theorem relies_of_sound (info : state.InfoSound log) (futures : state.FuturesSound log)
    (jobs : state.JobsSound) (within : entries ⊆ state.jobs)
    {command : HadoopCommand Object Error} {reply : HadoopReply command}
    (ran : state.exec command reply = some after) :
    (pollContract entries).relies log ⟨command, reply⟩ := by
  cases command with
  | jobInfo job =>
      rw [exec] at ran
      split at ran
      · rename_i same
        cases reply with
        | none =>
            intro future member
            exact (jobs.known future job (within member)).2 same.symm
        | some entry =>
            refine ⟨?_, ?_, ?_⟩
            · intro unfailed recorded
              rcases info.recorded job recorded with ⟨now, found, failed⟩
              rw [← same] at found
              cases found
              exact failed unfailed
            · intro message failed
              exact info.backed job entry message same.symm failed
            · intro finished
              exact info.ended job entry same.symm finished
      · cases ran
  | isDone future =>
      rw [exec] at ran
      split at ran
      · rename_i same
        intro answer settled
        have done := futures.settled future settled
        rw [← same, answer] at done
        cases done
      · cases ran
  | _ => exact trivial

theorem InfoSound.later (info : state.InfoSound log) {exchange : HadoopExchange Object Error}
    (recorded : ∀ job message, exchange = ⟨.setError job message, ()⟩ →
      ∃ entry, state.jobResults job = some entry ∧ entry.error ≠ none)
    (read : ∀ job entry, exchange = ⟨.jobInfo job, some entry⟩ →
      state.jobResults job = some entry) :
    state.InfoSound (log ++ [exchange]) where
  recorded := by
    rintro job ⟨message, member⟩
    rcases List.mem_append.mp member with old | new
    · exact info.recorded job ⟨message, old⟩
    · exact recorded job message (List.mem_singleton.mp new).symm
  backed job entry message found failed := by
    rcases info.backed job entry message found failed with ⟨hadoopStatus, failure, reported, same⟩
    exact ⟨hadoopStatus, failure, List.mem_append_left _ reported, same⟩
  ended job entry found finished :=
    (info.ended job entry found finished).later (List.prefix_append _ _)
  read job entry member := by
    rcases List.mem_append.mp member with old | new
    · exact info.read job entry old
    · exact ⟨entry, read job entry (List.mem_singleton.mp new).symm, rfl⟩

theorem jobResults_track (job other : JobId) (outputPath : String) :
    (state.track job outputPath).jobResults other =
      if other = job then some { outputPath } else state.jobResults other := by
  exact Function.update_apply _ _ _ _

theorem jobResults_setInfo (job other : JobId) (change : JobInfo → JobInfo) :
    (state.setInfo job change).jobResults other =
      if other = job then (state.jobResults job).map change else state.jobResults other := by
  exact Function.update_apply _ _ _ _

theorem InfoSound.setInfo (info : state.InfoSound log) {job : JobId} {change : JobInfo → JobInfo}
    (path : ∀ entry, (change entry).outputPath = entry.outputPath)
    (failed : ∀ entry, entry.error ≠ none → (change entry).error ≠ none)
    (backed : ∀ entry message, (change entry).error = some message → entry.error = some message ∨
      ∃ hadoopStatus, isFailure hadoopStatus = true ∧ Reported log job hadoopStatus ∧
        message = s!"Job failed with status: {hadoopStatus}")
    (ended : ∀ entry, (change entry).status = .finished →
      entry.status = .finished ∨ EndReported log job) :
    (state.setInfo job change).InfoSound log := by
  have found : ∀ other entry, (state.setInfo job change).jobResults other = some entry →
      state.jobResults other = some entry ∨
        other = job ∧ ∃ old, state.jobResults job = some old ∧ change old = entry := by
    intro other entry now
    rw [jobResults_setInfo] at now
    split at now
    · rename_i same
      exact .inr ⟨same, Option.map_eq_some_iff.mp now⟩
    · exact .inl now
  have kept : ∀ other entry, state.jobResults other = some entry →
      ∃ now, (state.setInfo job change).jobResults other = some now ∧
        now.outputPath = entry.outputPath ∧ (entry.error ≠ none → now.error ≠ none) := by
    intro other entry old
    rw [jobResults_setInfo]
    split
    · rename_i same
      subst same
      rw [old]
      exact ⟨change entry, rfl, path entry, failed entry⟩
    · exact ⟨entry, old, rfl, id⟩
  constructor
  · intro other recorded
    rcases info.recorded other recorded with ⟨entry, old, error⟩
    rcases kept other entry old with ⟨now, at_, -, stays⟩
    exact ⟨now, at_, stays error⟩
  · intro other entry message now error
    rcases found other entry now with old | ⟨rfl, before, old, rfl⟩
    · exact info.backed other entry message old error
    · rcases backed before message error with same | new
      · exact info.backed other before message old same
      · exact new
  · intro other entry now finished
    rcases found other entry now with old | ⟨rfl, before, old, rfl⟩
    · exact info.ended other entry old finished
    · rcases ended before finished with same | new
      · exact info.ended other before old same
      · exact new
  · intro other entry member
    rcases info.read other entry member with ⟨before, old, same⟩
    rcases kept other before old with ⟨now, at_, same', -⟩
    exact ⟨now, at_, same'.trans same⟩

theorem InfoSound.congr (info : state.InfoSound log) (same : after.jobResults = state.jobResults) :
    after.InfoSound log := by
  constructor
  · rw [same]
    exact info.recorded
  · rw [same]
    exact info.backed
  · rw [same]
    exact info.ended
  · rw [same]
    exact info.read

theorem jobResults_resolve (future : FutureId) (outcome : Except (HadoopError Error) Object) :
    (state.resolve future outcome).1.jobResults = state.jobResults := by
  rw [resolve]
  split <;> rfl

theorem jobs_resolve (future : FutureId) (outcome : Except (HadoopError Error) Object) :
    (state.resolve future outcome).1.jobs = state.jobs := by
  rw [resolve]
  split <;> rfl

theorem size_resolve (future : FutureId) (outcome : Except (HadoopError Error) Object) :
    (state.resolve future outcome).1.futures.size = state.futures.size := by
  rw [resolve]
  split
  · rfl
  · exact Arena.size_modify _ _ _

theorem InfoSound.poll (info : state.InfoSound log) (jobs : state.JobsSound)
    (within : entries ⊆ state.jobs) {command : HadoopCommand Object Error}
    {reply : HadoopReply command} (allowed : (pollContract entries).allows log command)
    (ran : state.exec command reply = some after) :
    after.InfoSound (log ++ [⟨command, reply⟩]) := by
  cases effect_of_exec ran with
  | quiet quiet =>
      refine info.later ?_ ?_
      · rintro job message ⟨⟩
        cases quiet
      · rintro job entry ⟨⟩
        rw [exec] at ran
        split at ran
        · rename_i same
          exact same.symm
        · cases ran
  | trackJob | setShutdown | setJob | newFuture => exact absurd allowed id
  | setStatus job status =>
      refine InfoSound.later ?_ (by rintro _ _ ⟨⟩) (by rintro _ _ ⟨⟩)
      exact info.setInfo (fun _ => rfl) (fun _ => id) (fun _ _ => .inl)
        (fun _ finished => .inr (allowed finished))
  | setError job message =>
      rcases allowed with ⟨⟨future, member⟩, reported⟩
      refine InfoSound.later ?_ ?_ (by rintro _ _ ⟨⟩)
      · refine info.setInfo (fun _ => rfl) (fun _ _ => Option.some_ne_none _) ?_ (fun _ => .inl)
        rintro entry _ ⟨⟩
        exact .inr reported
      · rintro _ _ ⟨⟩
        rcases Option.ne_none_iff_exists'.mp (jobs.known future job (within member)).2 with
          ⟨entry, found⟩
        refine ⟨{ entry with error := some message }, ?_, Option.some_ne_none _⟩
        rw [jobResults_setInfo, if_pos rfl, found]
        rfl
  | cancelFuture future =>
      apply InfoSound.later
      · exact info.congr rfl
      · rintro _ _ ⟨⟩
      · rintro _ _ ⟨⟩
  | setResult future value | setException future error =>
      refine InfoSound.later (info.congr (jobResults_resolve _ _)) ?_ ?_ <;> rintro _ _ ⟨⟩

theorem FuturesSound.poll (futures : state.FuturesSound log) (jobs : state.JobsSound)
    (within : entries ⊆ state.jobs) {command : HadoopCommand Object Error}
    {reply : HadoopReply command} (allowed : (pollContract entries).allows log command)
    (ran : state.exec command reply = some after) :
    after.FuturesSound (log ++ [⟨command, reply⟩]) := by
  cases effect_of_exec ran with
  | quiet quiet =>
      refine futures.later ?_
      intro future settles
      cases command with
      | isDone other =>
          rw [exec] at ran
          split at ran
          · rename_i same
            rcases of_decide_eq_true settles with ⟨rfl, done⟩
            exact same.symm.trans done
          · cases ran
      | isCancelled other =>
          rw [exec] at ran
          split at ran
          · rename_i same
            rcases of_decide_eq_true settles with ⟨rfl, cancelled⟩
            exact isDone_of_isCancelled (same.symm.trans cancelled)
          · cases ran
      | cancelFuture | setResult | setException => cases quiet
      | _ => cases settles
  | trackJob | setShutdown | setJob | newFuture => exact absurd allowed id
  | setStatus job status | setError job status =>
      apply FuturesSound.later
      · exact futures.congr rfl rfl
      · rintro _ ⟨⟩
  | cancelFuture future =>
      rcases allowed with ⟨job, member⟩
      refine (futures.cancel future).later ?_
      intro other settles
      obtain rfl : future = other := of_decide_eq_true settles
      exact isDone_cancel futures (jobs.known future job (within member)).1
  | setResult future value =>
      rcases allowed with ⟨job, member, earned⟩
      refine FuturesSound.later (futures.resolve ?_ ?_) ?_
      · rintro _ ⟨⟩
        exact ⟨job, log, within member, List.prefix_rfl, earned⟩
      · rintro _ _ - ⟨⟩
      · intro other settles
        obtain rfl : future = other := of_decide_eq_true settles
        exact isDone_resolve (jobs.known future job (within member)).1
  | setException future error =>
      rcases allowed with ⟨job, member, excused⟩
      refine FuturesSound.later (futures.resolve ?_ ?_) ?_
      · rintro _ ⟨⟩
      · rintro other _ kept ⟨⟩
        rw [jobs.unique kept (within member)]
        exact excused
      · intro other settles
        obtain rfl : future = other := of_decide_eq_true settles
        exact isDone_resolve (jobs.known future job (within member)).1

end HadoopState

end EventPipeline
