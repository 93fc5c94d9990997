import EventPipeline.Executors.RemoteExecutor
import Mathlib.Data.List.Induction

/-! # Shutting the remote executor down

Once the flag is set, the worker takes at most one more task from the queue, and only when it has
passed its test before. What is behind that task stays in the queue.
-/

namespace EventPipeline

def WorkerPhase.taking : WorkerPhase → List FutureId
  | .taken task => [task]
  | _ => []

/-- The future whose call is at the server. -/
def WorkerPhase.running : WorkerPhase → List FutureId
  | .sending task => [task]
  | _ => []

/-- The future that is about to enter the queue. -/
def SubmitterPhase.entering : SubmitterPhase → List FutureId
  | .putting task => [task]
  | _ => []

namespace RemoteExecutor

variable {Value Error : Type}

/-- The futures whose calls have not been started. -/
def unstarted (executor : RemoteExecutor Value Error) : List FutureId :=
  executor.worker.taking ++ executor.tasks ++ executor.submitter.entering

/-- The futures that are not done, or are cancelled and still on their way. -/
def unfinished (executor : RemoteExecutor Value Error) : List FutureId :=
  executor.worker.running ++ executor.unstarted

/-- What holds in every state of the executor. -/
structure Sound (executor : RemoteExecutor Value Error) : Prop where
  nodup : executor.unfinished.Nodup
  waiting : ∀ task ∈ executor.unstarted, ∃ future,
    executor.futures.get? task = some future ∧ future.Waiting
  running : ∀ task ∈ executor.worker.running, executor.futures.get? task = some .running
  settled : ∀ task future, executor.futures.get? task = some future →
    task ∉ executor.unfinished → future.done = true
  healthy : executor.worker ≠ .failed
  flag : executor.shutdown = true ↔
    executor.submitter = .joining ∨ executor.submitter = .returned
  returned : executor.submitter = .returned → executor.worker = .ended

theorem sound_initial : Sound ({} : RemoteExecutor Value Error) where
  nodup := List.nodup_nil
  waiting := by simp [unstarted, WorkerPhase.taking, SubmitterPhase.entering]
  running := by simp [WorkerPhase.running]
  settled := by simp [Arena.get?, Arena.empty]
  healthy := by simp
  flag := by simp
  returned := by simp

theorem Sound.of_same {before after : RemoteExecutor Value Error} (sound : Sound before)
    (futures : after.futures = before.futures)
    (running : after.worker.running = before.worker.running)
    (unstarted : after.unstarted = before.unstarted) (healthy : after.worker ≠ .failed)
    (flag : after.shutdown = true ↔ after.submitter = .joining ∨ after.submitter = .returned)
    (returned : after.submitter = .returned → after.worker = .ended) : Sound after where
  nodup := by
    rw [unfinished, running, unstarted]
    exact sound.nodup
  waiting := by
    rw [unstarted, futures]
    exact sound.waiting
  running := by
    rw [running, futures]
    exact sound.running
  settled := by
    rw [unfinished, running, unstarted, futures]
    exact sound.settled
  healthy := healthy
  flag := flag
  returned := returned

section Steps

variable {executor : RemoteExecutor Value Error} (sound : Sound executor)
include sound

theorem Sound.lt_size {task : FutureId} (member : task ∈ executor.unfinished) :
    task < executor.futures.size := by
  rcases List.mem_append.mp member with running | unstarted
  · exact Arena.lt_size_of_get? (sound.running task running)
  · rcases sound.waiting task unstarted with ⟨future, found, -⟩
    exact Arena.lt_size_of_get? found

theorem Sound.submit : Sound executor.submit := by
  unfold RemoteExecutor.submit
  split
  · rename_i ready
    split
    · exact sound
    · rename_i active
      have fresh : executor.futures.size ∉ executor.unfinished := fun member =>
        absurd (sound.lt_size member) (Nat.lt_irrefl _)
      have more : unstarted { executor with
          futures := executor.futures.alloc .pending
          submitter := .putting executor.futures.size } =
          executor.unstarted ++ [executor.futures.size] := by
        simp [unstarted, ready, SubmitterPhase.entering]
      constructor
      · rw [unfinished, more, ← List.append_assoc]
        exact sound.nodup.append (List.nodup_singleton _)
          (List.disjoint_singleton.mpr fresh)
      · rw [more]
        intro task member
        rcases List.mem_append.mp member with old | new
        · rcases sound.waiting task old with ⟨future, found, waiting⟩
          refine ⟨future, ?_, waiting⟩
          rw [Arena.get?_alloc_of_lt _ _ (Arena.lt_size_of_get? found)]
          exact found
        · rw [List.mem_singleton.mp new]
          exact ⟨.pending, Arena.get?_alloc_self _ _, .inl rfl⟩
      · intro task member
        have found := sound.running task member
        rw [Arena.get?_alloc_of_lt _ _ (Arena.lt_size_of_get? found)]
        exact found
      · intro task future found outside
        rw [unfinished, more, ← List.append_assoc, List.mem_append, not_or] at outside
        rw [Arena.get?_alloc, if_neg (by simpa using outside.2)] at found
        exact sound.settled task future found outside.1
      · exact sound.healthy
      · have off := sound.flag.not.mp (by simpa using active)
        simp [active]
      · simp
  · exact sound

theorem Sound.put (queueSize : Nat) : Sound (executor.put queueSize) := by
  unfold RemoteExecutor.put
  split
  · rename_i task putting
    split
    · exact sound
    · apply sound.of_same
      · rfl
      · rfl
      · simp [unstarted, putting, SubmitterPhase.entering]
      · exact sound.healthy
      · have off := sound.flag
        rw [putting] at off
        simpa using off
      · simp
  · exact sound

theorem Sound.cancel (task : FutureId) : Sound (executor.cancel task) := by
  unfold RemoteExecutor.cancel
  split
  · constructor
    · exact sound.nodup
    · intro other member
      rcases sound.waiting other member with ⟨future, found, waiting⟩
      by_cases same : other = task
      · subst same
        exact ⟨future.cancel, by simp [found], waiting.cancel⟩
      · exact ⟨future, by rw [Arena.get?_modify_of_ne _ _ same, found], waiting⟩
    · intro other member
      have found := sound.running other member
      by_cases same : other = task
      · subst same
        simp [found, Future.cancel]
      · rw [Arena.get?_modify_of_ne _ _ same, found]
    · intro other future found outside
      by_cases same : other = task
      · subst same
        rw [Arena.get?_modify_self, Option.map_eq_some_iff] at found
        rcases found with ⟨earlier, found, rfl⟩
        exact Future.done_cancel (sound.settled other earlier found outside)
      · rw [Arena.get?_modify_of_ne _ _ same] at found
        exact sound.settled other future found outside
    · exact sound.healthy
    · exact sound.flag
    · exact sound.returned
  · exact sound

theorem Sound.setShutdown : Sound executor.setShutdown := by
  unfold RemoteExecutor.setShutdown
  split
  · rename_i ready
    apply sound.of_same
    · rfl
    · rfl
    · simp [unstarted, ready, SubmitterPhase.entering]
    · exact sound.healthy
    · simp
    · simp
  · exact sound

theorem Sound.join : Sound executor.join := by
  unfold RemoteExecutor.join
  split
  · rename_i joining ended
    apply sound.of_same
    · rfl
    · rfl
    · simp [unstarted, joining, SubmitterPhase.entering]
    · exact sound.healthy
    · have on := sound.flag.mpr (.inl joining)
      simp [on]
    · intro _
      exact ended
  · rename_i joining failed
    exact absurd failed sound.healthy
  · exact sound

theorem Sound.test : Sound executor.test := by
  unfold RemoteExecutor.test
  split
  · rename_i testing
    apply sound.of_same
    · rfl
    · rw [testing]
      cases executor.shutdown <;> rfl
    · rw [unstarted, unstarted, testing]
      cases executor.shutdown <;> rfl
    · cases executor.shutdown <;> simp
    · exact sound.flag
    · intro returned
      have ended := sound.returned returned
      rw [testing] at ended
      cases ended
  · exact sound

theorem Sound.get : Sound executor.get := by
  unfold RemoteExecutor.get
  split
  · rename_i task tasks getting queue
    apply sound.of_same
    · rfl
    · rw [getting]
      rfl
    · rw [unstarted, unstarted, getting, queue]
      rfl
    · simp
    · exact sound.flag
    · intro returned
      have ended := sound.returned returned
      rw [getting] at ended
      cases ended
  · exact sound

theorem Sound.timeout : Sound executor.timeout := by
  unfold RemoteExecutor.timeout
  split
  · rename_i getting empty
    apply sound.of_same
    · rfl
    · rw [getting]
      rfl
    · rw [unstarted, unstarted, getting]
      rfl
    · simp
    · exact sound.flag
    · intro returned
      have ended := sound.returned returned
      rw [getting] at ended
      cases ended
  · exact sound

theorem Sound.settle {task : FutureId} {rest : List FutureId}
    (unfinished : executor.unfinished = task :: rest)
    (queued : executor.tasks ++ executor.submitter.entering = rest)
    (working : executor.worker ≠ .ended) {future : Future Value Error}
    (done : future.done = true) :
    Sound { executor with
      futures := executor.futures.modify task fun _ => future
      worker := .testing } := by
  have nodup := sound.nodup
  rw [unfinished, List.nodup_cons] at nodup
  have later : ∀ other ∈ rest, other ∈ executor.unstarted := by
    intro other member
    rw [unstarted, List.append_assoc, queued]
    exact List.mem_append_right _ member
  constructor
  · rw [RemoteExecutor.unfinished, unstarted, List.append_assoc, queued]
    exact nodup.2
  · intro other member
    rw [unstarted, List.append_assoc, queued] at member
    rcases sound.waiting other (later other member) with ⟨earlier, found, waiting⟩
    refine ⟨earlier, ?_, waiting⟩
    have different : other ≠ task := fun same => nodup.1 (same ▸ member)
    rw [Arena.get?_modify_of_ne _ _ different]
    exact found
  · intro other member
    cases member
  · intro other last found outside
    rw [RemoteExecutor.unfinished, unstarted, List.append_assoc, queued] at outside
    by_cases same : other = task
    · subst same
      rw [Arena.get?_modify_self, Option.map_eq_some_iff] at found
      rcases found with ⟨-, -, rfl⟩
      exact done
    · rw [Arena.get?_modify_of_ne _ _ same] at found
      apply sound.settled other last found
      rw [unfinished, List.mem_cons, not_or]
      exact ⟨same, outside⟩
  · simp
  · exact sound.flag
  · intro returned
    exact absurd (sound.returned returned) working

omit sound in
theorem unfinished_of_taken {task : FutureId} (taken : executor.worker = .taken task) :
    executor.unfinished = task :: (executor.tasks ++ executor.submitter.entering) := by
  simp [unfinished, unstarted, taken, WorkerPhase.taking, WorkerPhase.running]

omit sound in
theorem unfinished_of_sending {task : FutureId} (sending : executor.worker = .sending task) :
    executor.unfinished = task :: (executor.tasks ++ executor.submitter.entering) := by
  simp [unfinished, unstarted, sending, WorkerPhase.taking, WorkerPhase.running]

theorem Sound.start_eq {task : FutureId} (taken : executor.worker = .taken task) :
    (executor.futures.get? task = some .pending ∧
      executor.start = { executor with
        futures := executor.futures.modify task fun _ => .running
        worker := .sending task }) ∨
    executor.start = { executor with
      futures := executor.futures.modify task fun _ => .cancelledAndNotified
      worker := .testing } := by
  have member : task ∈ executor.unstarted := by
    simp [unstarted, taken, WorkerPhase.taking]
  rcases sound.waiting task member with ⟨future, found, rfl | rfl⟩
  · left
    simp [RemoteExecutor.start, taken, found, Future.setRunningOrNotifyCancel]
  · right
    simp [RemoteExecutor.start, taken, found, Future.setRunningOrNotifyCancel]

theorem Sound.finish_eq {task : FutureId} (sending : executor.worker = .sending task)
    (sendTask : FutureId → Except Error Value) :
    executor.finish sendTask = { executor with
      futures := executor.futures.modify task fun _ => .finished (sendTask task)
      worker := .testing } := by
  have found := sound.running task (by simp [sending, WorkerPhase.running])
  simp [RemoteExecutor.finish, sending, found, Future.resolve, Future.done]

theorem Sound.sending {task : FutureId} (taken : executor.worker = .taken task)
    (found : executor.futures.get? task = some .pending) :
    Sound { executor with
      futures := executor.futures.modify task fun _ => .running
      worker := .sending task } := by
  have first := unfinished_of_taken taken
  have nodup := sound.nodup
  rw [first] at nodup
  constructor
  · exact nodup
  · intro other queued
    have different : other ≠ task := fun same => (List.nodup_cons.mp nodup).1 (same ▸ queued)
    rw [Arena.get?_modify_of_ne _ _ different]
    apply sound.waiting other
    rw [unstarted, List.append_assoc]
    exact List.mem_append_right _ queued
  · intro other running
    rw [List.mem_singleton.mp running]
    simp [found]
  · intro other last present outside
    have different : other ≠ task := fun same => outside (same ▸ List.mem_cons_self)
    rw [Arena.get?_modify_of_ne _ _ different] at present
    apply sound.settled other last present
    rw [first]
    exact outside
  · simp
  · exact sound.flag
  · intro returned
    have ended := sound.returned returned
    rw [taken] at ended
    cases ended

theorem Sound.start : Sound executor.start := by
  cases phase : executor.worker with
  | taken task =>
      rcases sound.start_eq phase with ⟨found, started⟩ | started
      · rw [started]
        exact sound.sending phase found
      · rw [started]
        exact sound.settle (unfinished_of_taken phase) rfl (by simp [phase]) rfl
  | testing | getting | sending task | ended | failed =>
      simpa only [RemoteExecutor.start, phase] using sound

theorem Sound.finish (sendTask : FutureId → Except Error Value) :
    Sound (executor.finish sendTask) := by
  cases phase : executor.worker with
  | sending task =>
      rw [sound.finish_eq phase]
      exact sound.settle (unfinished_of_sending phase) rfl (by simp [phase]) rfl
  | testing | getting | taken task | ended | failed =>
      simpa only [RemoteExecutor.finish, phase] using sound

end Steps

variable (queueSize : Nat) (sendTask : FutureId → Except Error Value)

theorem Sound.step {executor : RemoteExecutor Value Error} (sound : Sound executor)
    (action : RemoteAction) : Sound (executor.step queueSize sendTask action) := by
  cases action with
  | submit => exact sound.submit
  | put => exact sound.put queueSize
  | cancel task => exact sound.cancel task
  | shutdown => exact sound.setShutdown
  | join => exact sound.join
  | test => exact sound.test
  | get => exact sound.get
  | timeout => exact sound.timeout
  | start => exact sound.start
  | finish => exact sound.finish sendTask

theorem Sound.steps {executor : RemoteExecutor Value Error} (sound : Sound executor)
    (actions : List RemoteAction) :
    Sound (actions.foldl (RemoteExecutor.step queueSize sendTask) executor) := by
  induction actions generalizing executor with
  | nil => exact sound
  | cons action rest induction => exact induction (sound.step queueSize sendTask action)

/-! ## After the flag is set -/

/-- The tasks that the worker does not take any more once the flag is set. -/
def behind (executor : RemoteExecutor Value Error) : List FutureId :=
  match executor.worker with
  | .getting => executor.tasks.tail
  | _ => executor.tasks

theorem behind_eq_tasks {executor : RemoteExecutor Value Error}
    (idle : executor.worker ≠ .getting) : executor.behind = executor.tasks := by
  unfold behind
  split
  · contradiction
  · rfl

/-- The tasks behind stay, and so do their futures. -/
structure Keeps (before after : RemoteExecutor Value Error) : Prop where
  behind : after.behind = before.behind
  futures : ∀ task ∈ before.behind, after.futures.get? task = before.futures.get? task

theorem Keeps.refl (executor : RemoteExecutor Value Error) : Keeps executor executor :=
  ⟨rfl, fun _ _ => rfl⟩

theorem Keeps.trans {first second third : RemoteExecutor Value Error}
    (left : Keeps first second) (right : Keeps second third) : Keeps first third := by
  refine ⟨right.behind.trans left.behind, ?_⟩
  intro task member
  rw [right.futures task (left.behind ▸ member), left.futures task member]

theorem behind_subset (executor : RemoteExecutor Value Error) {task : FutureId}
    (member : task ∈ executor.behind) : task ∈ executor.tasks := by
  unfold behind at member
  split at member
  · exact List.mem_of_mem_tail member
  · exact member

theorem Keeps.of_first {before after : RemoteExecutor Value Error} {task : FutureId}
    (nodup : (task :: (before.tasks ++ before.submitter.entering)).Nodup)
    (idle : before.worker ≠ .getting) (next : after.worker ≠ .getting)
    (tasks : after.tasks = before.tasks) {future : Future Value Error}
    (futures : after.futures = before.futures.modify task fun _ => future) :
    Keeps before after := by
  constructor
  · rw [behind_eq_tasks next, behind_eq_tasks idle, tasks]
  · intro other member
    have different : other ≠ task := by
      rintro rfl
      apply (List.nodup_cons.mp nodup).1
      exact List.mem_append_left _ (before.behind_subset member)
    rw [futures, Arena.get?_modify_of_ne _ _ different]

/-- The worker takes at most the first task when the flag is set. -/
theorem Sound.keeps {executor : RemoteExecutor Value Error} (sound : Sound executor)
    (flag : executor.shutdown = true) (action : RemoteAction) :
    Keeps executor (executor.step queueSize sendTask action) := by
  have busy := sound.flag.mp flag
  cases action with
  | submit | put | cancel task | shutdown =>
      rcases busy with joining | returned
      · simpa only [RemoteExecutor.step, RemoteExecutor.submit, RemoteExecutor.put,
          RemoteExecutor.cancel, RemoteExecutor.setShutdown, joining] using .refl executor
      · simpa only [RemoteExecutor.step, RemoteExecutor.submit, RemoteExecutor.put,
          RemoteExecutor.cancel, RemoteExecutor.setShutdown, returned] using .refl executor
  | join =>
      simp only [RemoteExecutor.step, RemoteExecutor.join]
      split <;> exact ⟨rfl, fun _ _ => rfl⟩
  | test =>
      simp only [RemoteExecutor.step, RemoteExecutor.test]
      split
      · rename_i testing
        refine ⟨?_, fun _ _ => rfl⟩
        simp [behind, testing, flag]
      · exact .refl _
  | get =>
      simp only [RemoteExecutor.step, RemoteExecutor.get]
      split
      · rename_i task tasks getting queue
        refine ⟨?_, fun _ _ => rfl⟩
        simp [behind, getting, queue]
      · exact .refl _
  | timeout =>
      simp only [RemoteExecutor.step, RemoteExecutor.timeout]
      split
      · rename_i getting queue
        refine ⟨?_, fun _ _ => rfl⟩
        simp [behind, getting, queue]
      · exact .refl _
  | start =>
      simp only [RemoteExecutor.step]
      cases phase : executor.worker with
      | taken task =>
          have nodup := sound.nodup
          rw [unfinished_of_taken phase] at nodup
          rcases sound.start_eq phase with ⟨-, started⟩ | started
          · rw [started]
            exact .of_first nodup (by simp [phase]) (by simp) rfl rfl
          · rw [started]
            exact .of_first nodup (by simp [phase]) (by simp) rfl rfl
      | testing | getting | sending task | ended | failed =>
          simpa only [RemoteExecutor.start, phase] using .refl executor
  | finish =>
      simp only [RemoteExecutor.step]
      cases phase : executor.worker with
      | sending task =>
          have nodup := sound.nodup
          rw [unfinished_of_sending phase] at nodup
          rw [sound.finish_eq phase]
          exact .of_first nodup (by simp [phase]) (by simp) rfl rfl
      | testing | getting | taken task | ended | failed =>
          simpa only [RemoteExecutor.finish, phase] using .refl executor

theorem shutdown_step (executor : RemoteExecutor Value Error) (action : RemoteAction) :
    (executor.step queueSize sendTask action).shutdown = executor.shutdown ∨
      action = .shutdown ∧ executor.submitter = .ready ∧
        (executor.step queueSize sendTask action).shutdown = true := by
  cases action with
  | shutdown =>
      cases phase : executor.submitter with
      | ready => exact .inr ⟨rfl, rfl, by simp [step, setShutdown, phase]⟩
      | putting task | joining | returned => simp [step, setShutdown, phase]
  | submit | put | cancel task | join | test | get | timeout =>
      left
      simp only [step, submit, put, cancel, join, test, get, timeout]
      repeat' split
      all_goals rfl
  | start | finish =>
      left
      simp only [step, start, finish]
      repeat' split
      all_goals rfl

theorem shutdown_steps {executor : RemoteExecutor Value Error}
    (flag : executor.shutdown = true) (action : RemoteAction) :
    (executor.step queueSize sendTask action).shutdown = true := by
  rcases executor.shutdown_step queueSize sendTask action with same | ⟨-, -, on⟩
  · rw [same]
    exact flag
  · exact on

theorem Sound.keeps_steps {executor : RemoteExecutor Value Error} (sound : Sound executor)
    (flag : executor.shutdown = true) (actions : List RemoteAction) :
    Keeps executor (actions.foldl (RemoteExecutor.step queueSize sendTask) executor) := by
  induction actions generalizing executor with
  | nil => exact .refl _
  | cons action rest induction =>
      have next := induction (sound.step queueSize sendTask action)
        (shutdown_steps queueSize sendTask flag action)
      exact (sound.keeps queueSize sendTask flag action).trans next

/-! ## Runs -/

theorem sound_after (actions : List RemoteAction) : Sound (after queueSize sendTask actions) :=
  sound_initial.steps queueSize sendTask actions

theorem exists_shutdown (actions : List RemoteAction)
    (flag : (after queueSize sendTask actions).shutdown = true) :
    ∃ front rest, actions = front ++ .shutdown :: rest ∧
      (after queueSize sendTask front).submitter = .ready := by
  induction actions using List.reverseRecOn with
  | nil => cases flag
  | append_singleton front action induction =>
      rw [after, List.foldl_append] at flag
      rcases (after queueSize sendTask front).shutdown_step queueSize sendTask action with
        same | ⟨rfl, ready, -⟩
      · have early := induction (same ▸ flag)
        rcases early with ⟨earlier, rest, rfl, ready⟩
        exact ⟨earlier, rest ++ [action], by simp, ready⟩
      · exact ⟨front, [], rfl, ready⟩

/-- What is behind when the flag is set stays in the queue, as it is. -/
theorem keeps_after {front rest : List RemoteAction}
    (ready : (after queueSize sendTask front).submitter = .ready) :
    Keeps (after queueSize sendTask front)
      (after queueSize sendTask (front ++ .shutdown :: rest)) := by
  have flagged : (after queueSize sendTask front).step queueSize sendTask .shutdown =
      { after queueSize sendTask front with shutdown := true, submitter := .joining } := by
    simp [step, setShutdown, ready]
  have sound := (sound_after queueSize sendTask front).step queueSize sendTask .shutdown
  have first : Keeps (after queueSize sendTask front)
      ((after queueSize sendTask front).step queueSize sendTask .shutdown) := by
    rw [flagged]
    exact ⟨rfl, fun _ _ => rfl⟩
  have later := sound.keeps_steps queueSize sendTask (by rw [flagged]) rest
  have split : after queueSize sendTask (front ++ .shutdown :: rest) =
      rest.foldl (step queueSize sendTask)
        ((after queueSize sendTask front).step queueSize sendTask .shutdown) := by
    rw [after, List.foldl_append]
    rfl
  rw [split]
  exact first.trans later

/-- Every future that `submit` has returned is done. -/
def AllDone (executor : RemoteExecutor Value Error) : Prop :=
  ∀ task future, executor.futures.get? task = some future → future.done = true

/-- When `shutdown` sets the flag, no future waits in the queue but cancelled ones and the one
that the worker is about to take. -/
def Drained (actions : List RemoteAction) : Prop :=
  ∀ front rest, actions = front ++ .shutdown :: rest →
    (after queueSize sendTask front).submitter = .ready →
    ∀ task ∈ (after queueSize sendTask front).behind,
      (after queueSize sendTask front).futures.get? task = some .cancelled

/-- When `shutdown` has returned, all futures are done exactly when the queue had been drained
by the time at which the flag was set. -/
theorem allDone_iff (actions : List RemoteAction)
    (returned : (after queueSize sendTask actions).submitter = .returned) :
    AllDone (after queueSize sendTask actions) ↔ Drained queueSize sendTask actions := by
  have sound := sound_after queueSize sendTask actions
  have ended := sound.returned returned
  have left : (after queueSize sendTask actions).unfinished =
      (after queueSize sendTask actions).behind := by
    rw [behind_eq_tasks (by simp [ended]), unfinished, unstarted, ended, returned]
    simp [WorkerPhase.running, WorkerPhase.taking, SubmitterPhase.entering]
  constructor
  · rintro done front rest rfl ready task member
    have keeps := @keeps_after _ _ queueSize sendTask front rest ready
    have queued : task ∈ (after queueSize sendTask front).unstarted := by
      rw [unstarted]
      have inside := (after queueSize sendTask front).behind_subset member
      simp [inside]
    rcases (sound_after queueSize sendTask front).waiting task queued with
      ⟨future, found, waiting⟩
    have same := keeps.futures task member
    have resolved := done task future (same.trans found)
    rw [found, waiting.done_iff.mp resolved]
  · intro drained task future found
    rcases exists_shutdown queueSize sendTask actions (sound.flag.mpr (.inr returned)) with
      ⟨front, rest, rfl, ready⟩
    by_cases member : task ∈ (after queueSize sendTask (front ++ .shutdown :: rest)).unfinished
    · have keeps := @keeps_after _ _ queueSize sendTask front rest ready
      rw [left, keeps.behind] at member
      have cancelled := drained front rest rfl ready task member
      rw [keeps.futures task member, cancelled] at found
      cases found
      rfl
    · exact sound.settled task future found member

/-- Two tasks are submitted, and the second is at the server when the executor is shut down. -/
theorem drained_twoTasks :
    Drained 1000 (fun task => (.ok (task + 8) : Except String Nat))
      [.submit, .put, .submit, .put, .test, .get, .start, .finish, .test, .get, .start,
        .shutdown, .finish, .test, .join] := by
  apply (allDone_iff 1000 _ _ rfl).mp
  intro task future found
  rcases task with _ | _ | task
  · cases found
    rfl
  · cases found
    rfl
  · cases found

/-- Two tasks of a parallel group are submitted. The first is at the server when the executor is
shut down, and the second is never taken from the queue. -/
theorem not_allDone_twoTasks :
    (after 1000 (fun _ => (.ok 8 : Except String Nat))
      [.test, .submit, .put, .get, .start, .submit, .put, .shutdown, .finish, .test,
        .join]).submitter = .returned ∧
    ¬ AllDone (after 1000 (fun _ => (.ok 8 : Except String Nat))
      [.test, .submit, .put, .get, .start, .submit, .put, .shutdown, .finish, .test,
        .join]) := by
  refine ⟨rfl, ?_⟩
  intro done
  have resolved := done 1 .pending rfl
  cases resolved

end RemoteExecutor

end EventPipeline
