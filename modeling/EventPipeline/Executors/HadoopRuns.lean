import EventPipeline.Executors.HadoopCalls

/-! # Runs of the Hadoop executor

What holds in every state of the executor, whatever the order in which its methods, the polling
thread and the owners of futures go on.
-/

namespace EventPipeline

open Hadoop Routine

variable {Object Error : Type}

/-- The future is done or has a job. -/
def HadoopState.Kept (state : HadoopState Object Error) (future : FutureId) : Prop :=
  state.isDone future = true ∨ ∃ job, (future, job) ∈ state.jobs

/-- What a method has seen and done is still so. -/
structure HadoopState.CallSound (state : HadoopState Object Error)
    (log : List (HadoopExchange Object Error)) : Prop where
  mentioned : ∀ future, ⟨.newFuture, future⟩ ∈ log ∨ Assigned log future ∨ Failed log future →
    future < state.futures.size
  fresh : ∀ future, Fresh log future →
    (∀ job, (future, job) ∉ state.jobs) ∧ state.futures.get? future = some .pending
  accounted : ∀ future, Accounted log future → state.Kept future
  tracked : ∀ job, Tracked log job → state.jobResults job ≠ none
  given : ∀ config job, ⟨.submitJob config, .ok job⟩ ∈ log → ¬ Tracked log job →
    state.jobResults job = none
  copied : ∀ entries, ⟨.jobs, entries⟩ ∈ log → state.jobs = entries
  awaited : ∀ future, Awaited log future → state.isDone future = true

/-- What a step outside of the methods may do. -/
structure HadoopState.Evolves (touched : FutureId → Prop) (state after : HadoopState Object Error) :
    Prop where
  jobs : after.jobs = state.jobs
  size : after.futures.size = state.futures.size
  results : ∀ job, after.jobResults job = none ↔ state.jobResults job = none
  done : ∀ future, state.isDone future = true → after.isDone future = true
  untouched : ∀ future, ¬ touched future →
    after.futures.get? future = state.futures.get? future

namespace HadoopState

variable {state after : HadoopState Object Error} {log : List (HadoopExchange Object Error)}
  {entries : List (FutureId × JobId)} {touched : FutureId → Prop}

theorem JobsSound.evolve (jobs : state.JobsSound) (evolves : Evolves touched state after) :
    after.JobsSound where
  nodup := by
    rw [evolves.jobs]
    exact jobs.nodup
  known future job member := by
    rw [evolves.jobs] at member
    rw [evolves.size]
    have known := jobs.known future job member
    exact ⟨known.1, fun missing => known.2 ((evolves.results job).mp missing)⟩

theorem Kept.evolve {future : FutureId} (kept : state.Kept future)
    (evolves : Evolves touched state after) : after.Kept future := by
  rcases kept with done | ⟨job, member⟩
  · exact .inl (evolves.done future done)
  · refine .inr ⟨job, ?_⟩
    rw [evolves.jobs]
    exact member

theorem CallSound.evolve (call : state.CallSound log) (evolves : Evolves touched state after)
    (untouched : ∀ future, Fresh log future → ¬ touched future) : after.CallSound log where
  mentioned future mentioned := by
    rw [evolves.size]
    exact call.mentioned future mentioned
  fresh future fresh := by
    rw [evolves.jobs, evolves.untouched future (untouched future fresh)]
    exact call.fresh future fresh
  accounted future accounted := (call.accounted future accounted).evolve evolves
  tracked job tracked missing := call.tracked job tracked ((evolves.results job).mp missing)
  given config job member untracked :=
    (evolves.results job).mpr (call.given config job member untracked)
  copied entries member := by
    rw [evolves.jobs]
    exact call.copied entries member
  awaited future awaited := evolves.done future (call.awaited future awaited)

theorem isDone_modify {future other : FutureId}
    {change : Future Object (HadoopError Error) → Future Object (HadoopError Error)}
    (done : ∀ cell, cell.done = true → (change cell).done = true)
    (before : state.isDone other = true) :
    ({ state with futures := state.futures.modify future change } :
      HadoopState Object Error).isDone other = true := by
  rw [isDone, Option.any_eq_true] at before
  rcases before with ⟨cell, found, ended⟩
  by_cases same : other = future
  · subst same
    simp [isDone, found, done cell ended]
  · simp [isDone, Arena.get?_modify_of_ne _ _ same, found, ended]

theorem evolves_cancel (future : FutureId) :
    Evolves (fun other => other = future) state
      { state with futures := state.futures.modify future Future.cancel } where
  jobs := rfl
  size := Arena.size_modify _ _ _
  results _ := Iff.rfl
  done _ before := isDone_modify (fun _ => Future.done_cancel) before
  untouched _ different := Arena.get?_modify_of_ne _ _ different

theorem evolves_resolve (future : FutureId) (outcome : Except (HadoopError Error) Object) :
    Evolves (fun other => other = future) state (state.resolve future outcome).1 := by
  rw [resolve]
  split
  · exact ⟨rfl, rfl, fun _ => Iff.rfl, fun _ => id, fun _ _ => rfl⟩
  · rename_i resolved ran
    rcases Option.bind_eq_some_iff.mp ran with ⟨cell, -, became⟩
    rw [Future.resolve] at became
    split at became
    · cases became
    · cases became
      exact ⟨rfl, Arena.size_modify _ _ _, fun _ => Iff.rfl,
        fun _ before => isDone_modify (fun _ _ => rfl) before,
        fun _ different => Arena.get?_modify_of_ne _ _ different⟩

theorem evolves_setInfo (job : JobId) (change : JobInfo → JobInfo) :
    Evolves (fun _ => False) state (state.setInfo job change) where
  jobs := rfl
  size := rfl
  results other := by
    rw [jobResults_setInfo]
    split
    · rename_i same
      subst same
      exact Option.map_eq_none_iff
    · exact Iff.rfl
  done _ := id
  untouched _ _ := rfl

theorem Evolves.weaken {more : FutureId → Prop} (evolves : Evolves touched state after)
    (implies : ∀ future, touched future → more future) : Evolves more state after where
  jobs := evolves.jobs
  size := evolves.size
  results := evolves.results
  done := evolves.done
  untouched future untouched :=
    evolves.untouched future fun touched => untouched (implies future touched)

theorem evolves_of_poll {command : HadoopCommand Object Error} {reply : HadoopReply command}
    (allowed : (pollContract entries).allows log command)
    (ran : state.exec command reply = some after) :
    Evolves (fun future => ∃ job, (future, job) ∈ entries) state after := by
  cases effect_of_exec ran with
  | quiet quiet => exact ⟨rfl, rfl, fun _ => Iff.rfl, fun _ => id, fun _ _ => rfl⟩
  | trackJob | setShutdown | setJob | newFuture => exact absurd allowed id
  | setStatus job status => exact (evolves_setInfo job _).weaken (by rintro _ ⟨⟩)
  | setError job message => exact (evolves_setInfo job _).weaken (by rintro _ ⟨⟩)
  | cancelFuture future =>
      refine (evolves_cancel future).weaken ?_
      rintro _ rfl
      exact allowed
  | setResult future value =>
      rcases allowed with ⟨job, member, -⟩
      refine (evolves_resolve future _).weaken ?_
      rintro _ rfl
      exact ⟨job, member⟩
  | setException future error =>
      rcases allowed with ⟨job, member, -⟩
      refine (evolves_resolve future _).weaken ?_
      rintro _ rfl
      exact ⟨job, member⟩

/-! ## Steps of a method -/

theorem relies_of_callSound (call : state.CallSound log) {command : HadoopCommand Object Error}
    {reply : HadoopReply command} (ran : state.exec command reply = some after) :
    callContract.relies log ⟨command, reply⟩ := by
  cases command with
  | submitJob config =>
      cases reply with
      | error error => exact trivial
      | ok job =>
          rw [exec] at ran
          split at ran
          · rename_i missing
            exact fun tracked => call.tracked job tracked (Option.isNone_iff_eq_none.mp missing)
          · cases ran
  | newFuture =>
      rw [exec] at ran
      split at ran
      · rename_i same
        constructor
        · intro assigned
          exact absurd same (Nat.ne_of_lt (call.mentioned _ (.inr (.inl assigned))))
        · intro failed
          exact absurd same (Nat.ne_of_lt (call.mentioned _ (.inr (.inr failed))))
      · cases ran
  | setException future error =>
      intro fresh
      have pending := (call.fresh future fresh).2
      simp only [exec, resolve_of_not_done pending rfl] at ran
      split at ran
      · rename_i same
        exact same
      · cases ran
  | _ => exact trivial

/-- The futures and the jobs that a step of a method leaves. -/
structure Grows (state after : HadoopState Object Error) : Prop where
  jobs : state.jobs ⊆ after.jobs
  size : state.futures.size ≤ after.futures.size
  done : ∀ future, state.isDone future = true → after.isDone future = true

theorem Kept.grow {future : FutureId} (kept : state.Kept future) (grows : Grows state after) :
    after.Kept future := by
  rcases kept with done | ⟨job, member⟩
  · exact .inl (grows.done future done)
  · exact .inr ⟨job, grows.jobs member⟩

theorem Evolves.grows (evolves : Evolves touched state after) : Grows state after where
  jobs := by
    rw [evolves.jobs]
    exact List.Subset.refl _
  size := evolves.size.ge
  done := evolves.done

theorem isDone_alloc {future : FutureId} {cell : Future Object (HadoopError Error)}
    (done : state.isDone future = true) :
    ({ state with futures := state.futures.alloc cell } :
      HadoopState Object Error).isDone future = true := by
  rw [isDone, Option.any_eq_true] at done
  rcases done with ⟨old, found, ended⟩
  simp [isDone, Arena.get?_alloc_of_lt _ _ (Arena.lt_size_of_get? found), found, ended]

theorem CallSound.insert_eq (call : state.CallSound log) {future : FutureId} {job : JobId}
    (fresh : Fresh log future) :
    OrderedDict.insert future job state.jobs = state.jobs ++ [(future, job)] := by
  refine OrderedDict.insert_of_not_mem job ?_
  intro present
  rcases List.mem_map.mp present with ⟨entry, member, same⟩
  exact (call.fresh future fresh).1 entry.2 (by rw [← same]; exact member)

theorem grows_of_call (call : state.CallSound log) {command : HadoopCommand Object Error}
    {reply : HadoopReply command} (allowed : callContract.allows log command)
    (ran : state.exec command reply = some after) : Grows state after := by
  cases effect_of_exec ran with
  | quiet | setShutdown | trackJob => exact ⟨List.Subset.refl _, le_rfl, fun _ => id⟩
  | setError | cancelFuture | setResult => exact absurd allowed id
  | setStatus job status => exact (evolves_setInfo job _).grows
  | setJob future job =>
      refine ⟨?_, le_rfl, fun _ => id⟩
      rw [call.insert_eq allowed.1]
      exact List.subset_append_left _ _
  | newFuture => exact ⟨List.Subset.refl _, by simp, fun _ => isDone_alloc⟩
  | setException future error => exact (evolves_resolve future _).grows

theorem JobsSound.advance (jobs : state.JobsSound) (call : state.CallSound log)
    {command : HadoopCommand Object Error} {reply : HadoopReply command}
    (allowed : callContract.allows log command) (ran : state.exec command reply = some after) :
    after.JobsSound := by
  cases effect_of_exec ran with
  | quiet | setShutdown => exact ⟨jobs.nodup, jobs.known⟩
  | setError | cancelFuture | setResult => exact absurd allowed id
  | trackJob job outputPath =>
      refine ⟨jobs.nodup, ?_⟩
      intro future other member
      refine ⟨(jobs.known future other member).1, ?_⟩
      rw [jobResults_track]
      split
      · exact Option.some_ne_none _
      · exact (jobs.known future other member).2
  | setStatus job status => exact jobs.evolve (evolves_setInfo job _)
  | setJob future job =>
      rcases allowed with ⟨fresh, tracked, -⟩
      refine ⟨OrderedDict.nodup_keys_insert future job jobs.nodup, ?_⟩
      intro other found member
      rw [call.insert_eq fresh] at member
      rcases List.mem_append.mp member with old | new
      · exact jobs.known other found old
      · cases List.mem_singleton.mp new
        exact ⟨call.mentioned future (.inl fresh.made), call.tracked job tracked⟩
  | newFuture =>
      refine ⟨jobs.nodup, ?_⟩
      intro future job member
      have known := jobs.known future job member
      exact ⟨by rw [Arena.size_alloc]; exact Nat.lt_succ_of_lt known.1, known.2⟩
  | setException future error => exact jobs.evolve (evolves_resolve future _)

theorem InfoSound.advance {polled : List (HadoopExchange Object Error)}
    (info : state.InfoSound polled) (call : state.CallSound log)
    {command : HadoopCommand Object Error} {reply : HadoopReply command}
    (allowed : callContract.allows log command) (ran : state.exec command reply = some after) :
    after.InfoSound polled := by
  cases effect_of_exec ran with
  | quiet | setShutdown | setJob | newFuture => exact info.congr rfl
  | setError | cancelFuture | setResult => exact absurd allowed id
  | trackJob job outputPath =>
      rcases allowed with ⟨⟨config, given⟩, untracked⟩
      have missing := call.given config job given untracked
      have other : ∀ kept entry, state.jobResults kept = some entry →
          (state.track job outputPath).jobResults kept = some entry := by
        intro kept entry found
        rw [jobResults_track, if_neg, found]
        rintro rfl
        rw [missing] at found
        cases found
      have back : ∀ kept entry, (state.track job outputPath).jobResults kept = some entry →
          state.jobResults kept = some entry ∨ entry = { outputPath } := by
        intro kept entry found
        rw [jobResults_track] at found
        split at found
        · exact .inr (Option.some.inj found).symm
        · exact .inl found
      constructor
      · intro kept recorded
        rcases info.recorded kept recorded with ⟨entry, found, error⟩
        exact ⟨entry, other kept entry found, error⟩
      · intro kept entry message found error
        rcases back kept entry found with old | rfl
        · exact info.backed kept entry message old error
        · cases error
      · intro kept entry found finished
        rcases back kept entry found with old | rfl
        · exact info.ended kept entry old finished
        · cases finished
      · intro kept entry member
        rcases info.read kept entry member with ⟨now, found, same⟩
        exact ⟨now, other kept now found, same⟩
  | setStatus job status =>
      obtain rfl : status = .cancelled := allowed
      exact info.setInfo (fun _ => rfl) (fun _ => id) (fun _ _ => .inl) (by rintro _ ⟨⟩)
  | setException future error => exact info.congr (jobResults_resolve _ _)

theorem FuturesSound.advance {polled : List (HadoopExchange Object Error)}
    (futures : state.FuturesSound polled) (call : state.CallSound log)
    {command : HadoopCommand Object Error} {reply : HadoopReply command}
    (allowed : callContract.allows log command) (ran : state.exec command reply = some after) :
    after.FuturesSound polled := by
  cases effect_of_exec ran with
  | quiet | setShutdown | trackJob | setStatus => exact futures.congr rfl rfl
  | setError | cancelFuture | setResult => exact absurd allowed id
  | setJob future job =>
      rcases allowed with ⟨fresh, -, -⟩
      have grown : OrderedDict.insert future job state.jobs = state.jobs ++ [(future, job)] :=
        call.insert_eq fresh
      refine ⟨futures.idle, futures.settled, ?_, ?_⟩
      · intro other value finished
        rcases futures.results other value finished with ⟨job', before, member, early, earned⟩
        refine ⟨job', before, ?_, early, earned⟩
        rw [grown]
        exact List.mem_append_left _ member
      · intro other job' error member finished
        rw [grown] at member
        rcases List.mem_append.mp member with old | new
        · exact futures.errors other job' error old finished
        · cases List.mem_singleton.mp new
          have pending := (call.fresh future fresh).2
          rw [pending] at finished
          cases finished
  | newFuture =>
      have old : ∀ future cell, cell ≠ .pending →
          (state.futures.alloc .pending).get? future = some cell →
          state.futures.get? future = some cell := by
        intro future cell different found
        rw [Arena.get?_alloc] at found
        split at found
        · exact absurd (Option.some.inj found).symm different
        · exact found
      refine ⟨?_, fun future settled => isDone_alloc (futures.settled future settled), ?_, ?_⟩
      · intro future running
        exact futures.idle future (old future _ (by rintro ⟨⟩) running)
      · intro future value finished
        exact futures.results future value (old future _ (by rintro ⟨⟩) finished)
      · intro future job error member finished
        exact futures.errors future job error member (old future _ (by rintro ⟨⟩) finished)
  | setException future error =>
      refine futures.resolve (by rintro _ ⟨⟩) ?_
      intro job _ member _
      exact absurd member ((call.fresh future allowed).1 job)

theorem mem_of_append {other exchange : HadoopExchange Object Error}
    (member : other ∈ log ++ [exchange]) (different : other ≠ exchange) : other ∈ log := by
  rcases List.mem_append.mp member with old | new
  · exact old
  · exact absurd (List.mem_singleton.mp new) different

theorem fresh_of_append {future : FutureId} {exchange : HadoopExchange Object Error}
    (fresh : Fresh (log ++ [exchange]) future) (other : exchange ≠ ⟨.newFuture, future⟩) :
    Fresh log future := by
  refine ⟨mem_of_append fresh.made other.symm, ?_, ?_⟩
  · rintro ⟨job, member⟩
    exact fresh.unassigned ⟨job, List.mem_append_left _ member⟩
  · rintro ⟨error, answer, member⟩
    exact fresh.unfailed ⟨error, answer, List.mem_append_left _ member⟩

theorem CallSound.step (call : state.CallSound log) (grows : Grows state after)
    {exchange : HadoopExchange Object Error}
    (made : ∀ future, exchange = ⟨.newFuture, future⟩ → future < after.futures.size)
    (assigned : ∀ future job, exchange = ⟨.setJob future job, ()⟩ →
      future < after.futures.size ∧ (future, job) ∈ after.jobs)
    (failed : ∀ future error answer, exchange = ⟨.setException future error, answer⟩ →
      future < after.futures.size ∧ after.isDone future = true)
    (fresh : ∀ future, Fresh (log ++ [exchange]) future →
      (∀ job, (future, job) ∉ after.jobs) ∧ after.futures.get? future = some .pending)
    (tracked : ∀ job, Tracked (log ++ [exchange]) job → after.jobResults job ≠ none)
    (given : ∀ config job, ⟨.submitJob config, .ok job⟩ ∈ log ++ [exchange] →
      ¬ Tracked (log ++ [exchange]) job → after.jobResults job = none)
    (copied : ∀ entries, ⟨.jobs, entries⟩ ∈ log ++ [exchange] → after.jobs = entries)
    (awaited : ∀ future, exchange = ⟨.awaitResult future, ()⟩ → after.isDone future = true) :
    after.CallSound (log ++ [exchange]) where
  mentioned := by
    rintro future (member | ⟨job, member⟩ | ⟨error, answer, member⟩)
    · rcases List.mem_append.mp member with old | new
      · exact (call.mentioned future (.inl old)).trans_le grows.size
      · exact made future (List.mem_singleton.mp new).symm
    · rcases List.mem_append.mp member with old | new
      · exact (call.mentioned future (.inr (.inl ⟨job, old⟩))).trans_le grows.size
      · exact (assigned future job (List.mem_singleton.mp new).symm).1
    · rcases List.mem_append.mp member with old | new
      · exact (call.mentioned future (.inr (.inr ⟨error, answer, old⟩))).trans_le grows.size
      · exact (failed future error answer (List.mem_singleton.mp new).symm).1
  fresh := fresh
  accounted := by
    rintro future (⟨job, member⟩ | ⟨error, member⟩)
    · rcases List.mem_append.mp member with old | new
      · exact (call.accounted future (.inl ⟨job, old⟩)).grow grows
      · exact .inr ⟨job, (assigned future job (List.mem_singleton.mp new).symm).2⟩
    · rcases List.mem_append.mp member with old | new
      · exact (call.accounted future (.inr ⟨error, old⟩)).grow grows
      · exact .inl (failed future error true (List.mem_singleton.mp new).symm).2
  tracked := tracked
  given := given
  copied := copied
  awaited future member := by
    rcases List.mem_append.mp member with old | new
    · exact grows.done future (call.awaited future old)
    · exact awaited future (List.mem_singleton.mp new).symm

/-- A step that neither makes nor assigns futures and tracks no job. -/
theorem CallSound.plain (call : state.CallSound log) (evolves : Evolves touched state after)
    (untouched : ∀ future, Fresh log future → ¬ touched future)
    {exchange : HadoopExchange Object Error}
    (made : ∀ future, exchange ≠ ⟨.newFuture, future⟩)
    (assigned : ∀ future job, exchange ≠ ⟨.setJob future job, ()⟩)
    (failed : ∀ future error answer, exchange ≠ ⟨.setException future error, answer⟩)
    (tracks : ∀ job outputPath, exchange ≠ ⟨.trackJob job outputPath, ()⟩)
    (given : ∀ config job, exchange = ⟨.submitJob config, .ok job⟩ → after.jobResults job = none)
    (copied : ∀ entries, exchange = ⟨.jobs, entries⟩ → after.jobs = entries)
    (awaited : ∀ future, exchange = ⟨.awaitResult future, ()⟩ → after.isDone future = true) :
    after.CallSound (log ++ [exchange]) := by
  have later := call.evolve evolves untouched
  refine call.step evolves.grows (fun future same => absurd same (made future))
    (fun future job same => absurd same (assigned future job))
    (fun future error answer same => absurd same (failed future error answer)) ?_ ?_ ?_ ?_ awaited
  · intro future fresh
    exact later.fresh future (fresh_of_append fresh (made future))
  · rintro job ⟨outputPath, member⟩
    rcases List.mem_append.mp member with old | new
    · exact later.tracked job ⟨outputPath, old⟩
    · exact absurd (List.mem_singleton.mp new).symm (tracks job outputPath)
  · intro config job member untracked
    rcases List.mem_append.mp member with old | new
    · refine later.given config job old ?_
      rintro ⟨outputPath, tracked⟩
      exact untracked ⟨outputPath, List.mem_append_left _ tracked⟩
    · exact given config job (List.mem_singleton.mp new).symm
  · intro entries member
    rcases List.mem_append.mp member with old | new
    · exact later.copied entries old
    · exact copied entries (List.mem_singleton.mp new).symm

theorem CallSound.advance (call : state.CallSound log) (jobs : state.JobsSound)
    {command : HadoopCommand Object Error} {reply : HadoopReply command}
    (allowed : callContract.allows log command) (ran : state.exec command reply = some after) :
    after.CallSound (log ++ [⟨command, reply⟩]) := by
  have same : Evolves (fun _ => False) state state :=
    ⟨rfl, rfl, fun _ => Iff.rfl, fun _ => id, fun _ _ => rfl⟩
  cases effect_of_exec ran with
  | quiet quiet =>
      refine call.plain same (fun _ _ => id) ?_ ?_ ?_ ?_ ?_ ?_ ?_
      · rintro future ⟨⟩
        cases quiet
      · rintro future job ⟨⟩
        cases quiet
      · rintro future error answer ⟨⟩
        cases quiet
      · rintro job outputPath ⟨⟩
        cases quiet
      · rintro config job ⟨⟩
        rw [exec] at ran
        split at ran
        · rename_i missing
          exact Option.isNone_iff_eq_none.mp missing
        · cases ran
      · rintro entries ⟨⟩
        rw [exec] at ran
        split at ran
        · rename_i copied
          exact copied.symm
        · cases ran
      · rintro future ⟨⟩
        rw [exec] at ran
        split at ran
        · rename_i done
          exact done
        · cases ran
  | setError | cancelFuture | setResult => exact absurd allowed id
  | setShutdown =>
      have down : Evolves (fun _ => False) state { state with shutdown := true } :=
        ⟨rfl, rfl, fun _ => Iff.rfl, fun _ => id, fun _ _ => rfl⟩
      refine call.plain down (fun _ _ => id) ?_ ?_ ?_ ?_ ?_ ?_ ?_
      · rintro _ ⟨⟩
      · rintro _ _ ⟨⟩
      · rintro _ _ _ ⟨⟩
      · rintro _ _ ⟨⟩
      · rintro _ _ ⟨⟩
      · rintro _ ⟨⟩
      · rintro _ ⟨⟩
  | setStatus job status =>
      refine call.plain (evolves_setInfo job _) (fun _ _ => id) ?_ ?_ ?_ ?_ ?_ ?_ ?_
      · rintro _ ⟨⟩
      · rintro _ _ ⟨⟩
      · rintro _ _ _ ⟨⟩
      · rintro _ _ ⟨⟩
      · rintro _ _ ⟨⟩
      · rintro _ ⟨⟩
      · rintro _ ⟨⟩
  | trackJob job outputPath =>
      refine call.step (grows_of_call call allowed ran) ?_ ?_ ?_ ?_ ?_ ?_ ?_ ?_
      · rintro _ ⟨⟩
      · rintro _ _ ⟨⟩
      · rintro _ _ _ ⟨⟩
      · intro future fresh
        exact call.fresh future (fresh_of_append fresh (by rintro ⟨⟩))
      · rintro other ⟨path, member⟩
        rw [jobResults_track]
        split
        · exact Option.some_ne_none _
        · rename_i different
          refine call.tracked other ⟨path, mem_of_append member ?_⟩
          rintro ⟨⟩
          exact different rfl
      · intro config other member untracked
        have different : other ≠ job := by
          rintro rfl
          exact untracked ⟨outputPath, List.mem_append_right _ (List.mem_singleton_self _)⟩
        rw [jobResults_track, if_neg different]
        refine call.given config other (mem_of_append member (by rintro ⟨⟩)) ?_
        rintro ⟨path, tracked⟩
        exact untracked ⟨path, List.mem_append_left _ tracked⟩
      · intro entries member
        exact call.copied entries (mem_of_append member (by rintro ⟨⟩))
      · rintro _ ⟨⟩
  | setJob future job =>
      have grown : OrderedDict.insert future job state.jobs = state.jobs ++ [(future, job)] :=
        call.insert_eq allowed.1
      refine call.step (grows_of_call call allowed ran) ?_ ?_ ?_ ?_ ?_ ?_ ?_ ?_
      · rintro _ ⟨⟩
      · rintro _ _ ⟨⟩
        refine ⟨call.mentioned future (.inl allowed.1.made), ?_⟩
        rw [grown]
        exact List.mem_append_right _ (List.mem_singleton_self _)
      · rintro _ _ _ ⟨⟩
      · intro other fresh
        have old := call.fresh other (fresh_of_append fresh (by rintro ⟨⟩))
        refine ⟨?_, old.2⟩
        intro found member
        rw [grown] at member
        rcases List.mem_append.mp member with before | new
        · exact old.1 found before
        · cases List.mem_singleton.mp new
          exact fresh.unassigned ⟨job, List.mem_append_right _ (List.mem_singleton_self _)⟩
      · rintro other ⟨path, member⟩
        exact call.tracked other ⟨path, mem_of_append member (by rintro ⟨⟩)⟩
      · intro config other member untracked
        refine call.given config other (mem_of_append member (by rintro ⟨⟩)) ?_
        rintro ⟨path, tracked⟩
        exact untracked ⟨path, List.mem_append_left _ tracked⟩
      · intro entries member
        exact absurd ⟨entries, mem_of_append member (by rintro ⟨⟩)⟩ allowed.2.2
      · rintro _ ⟨⟩
  | newFuture =>
      refine call.step (grows_of_call call allowed ran) ?_ ?_ ?_ ?_ ?_ ?_ ?_ ?_
      · rintro _ ⟨⟩
        simp
      · rintro _ _ ⟨⟩
      · rintro _ _ _ ⟨⟩
      · intro other fresh
        by_cases same : other = state.futures.size
        · subst same
          refine ⟨?_, Arena.get?_alloc_self _ _⟩
          intro job member
          exact absurd (jobs.known _ job member).1 (Nat.lt_irrefl _)
        · have before := fresh_of_append fresh (by rintro ⟨⟩; exact same rfl)
          have bound := call.mentioned other (.inl before.made)
          refine ⟨(call.fresh other before).1, ?_⟩
          rw [Arena.get?_alloc_of_lt _ _ bound]
          exact (call.fresh other before).2
      · rintro other ⟨path, member⟩
        exact call.tracked other ⟨path, mem_of_append member (by rintro ⟨⟩)⟩
      · intro config other member untracked
        refine call.given config other (mem_of_append member (by rintro ⟨⟩)) ?_
        rintro ⟨path, tracked⟩
        exact untracked ⟨path, List.mem_append_left _ tracked⟩
      · intro entries member
        exact call.copied entries (mem_of_append member (by rintro ⟨⟩))
      · rintro _ ⟨⟩
  | setException future error =>
      have bound := call.mentioned future (.inl allowed.made)
      refine call.step (grows_of_call call allowed ran) ?_ ?_ ?_ ?_ ?_ ?_ ?_ ?_
      · rintro _ ⟨⟩
      · rintro _ _ ⟨⟩
      · rintro _ _ _ ⟨⟩
        rw [size_resolve]
        exact ⟨bound, isDone_resolve bound⟩
      · intro other fresh
        have different : other ≠ future := by
          rintro rfl
          exact fresh.unfailed ⟨error, _, List.mem_append_right _ (List.mem_singleton_self _)⟩
        have old := call.fresh other (fresh_of_append fresh (by rintro ⟨⟩))
        rw [jobs_resolve, (evolves_resolve future _).untouched other different]
        exact old
      · rintro other ⟨path, member⟩
        rw [jobResults_resolve]
        exact call.tracked other ⟨path, mem_of_append member (by rintro ⟨⟩)⟩
      · intro config other member untracked
        rw [jobResults_resolve]
        refine call.given config other (mem_of_append member (by rintro ⟨⟩)) ?_
        rintro ⟨path, tracked⟩
        exact untracked ⟨path, List.mem_append_left _ tracked⟩
      · intro entries member
        rw [jobs_resolve]
        exact call.copied entries (mem_of_append member (by rintro ⟨⟩))
      · rintro _ ⟨⟩

end HadoopState

end EventPipeline
