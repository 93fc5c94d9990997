import EventPipeline.Executors.RemoteExecutor
import EventPipeline.Network.RemoteCall

/-! # Tasks through the remote executor

The queue and the worker of the executor, with a manager at the other end of each connection:
what a run leaves in the futures.
-/

namespace EventPipeline

namespace RemoteExecutor

variable {Value Error : Type} {queueSize : Nat} {sendTask : FutureId → Except Error Value}
  {executor : RemoteExecutor Value Error}

/-- What is in a future is what `_send_task` has come to for its task. -/
def Answered (sendTask : FutureId → Except Error Value) (executor : RemoteExecutor Value Error) :
    Prop :=
  ∀ task outcome, executor.futures.get? task = some (.finished outcome) → outcome = sendTask task

/-- A future that is assigned to holds what belongs to its task, if it holds an outcome. -/
theorem Answered.modify {executor after : RemoteExecutor Value Error}
    (answered : Answered sendTask executor) {changed : FutureId}
    {update : Future Value Error → Future Value Error}
    (assigned : after.futures = executor.futures.modify changed update)
    (earned : ∀ future outcome, executor.futures.get? changed = some future →
      update future = .finished outcome → outcome = sendTask changed) :
    Answered sendTask after := by
  intro task outcome finished
  rw [assigned] at finished
  by_cases same : task = changed
  · subst same
    rw [Arena.get?_modify_self] at finished
    rcases Option.map_eq_some_iff.mp finished with ⟨future, found, updated⟩
    exact earned future outcome found updated
  · rw [Arena.get?_modify_of_ne _ _ same] at finished
    exact answered task outcome finished

theorem Answered.submit (answered : Answered sendTask executor) :
    Answered sendTask executor.submit := by
  rw [RemoteExecutor.submit]
  split
  · split
    · exact answered
    · intro task outcome finished
      rw [Arena.get?_alloc] at finished
      split at finished
      · cases finished
      · exact answered task outcome finished
  · exact answered

theorem Answered.cancel (answered : Answered sendTask executor) (task : FutureId) :
    Answered sendTask (executor.cancel task) := by
  rw [RemoteExecutor.cancel]
  split
  · apply answered.modify rfl
    intro future outcome found cancelled
    cases future with
    | finished earlier =>
        cases cancelled
        exact answered task outcome found
    | pending | running | cancelled | cancelledAndNotified => cases cancelled
  · exact answered

theorem Answered.start (answered : Answered sendTask executor) :
    Answered sendTask executor.start := by
  rw [RemoteExecutor.start]
  split
  · split
    · exact answered
    · rename_i task _ _ run future started
      apply answered.modify rfl
      intro before outcome found assigned
      rw [found, Option.bind_some] at started
      subst assigned
      cases before with
      | pending | cancelled => cases started
      | running | cancelledAndNotified | finished => cases started
  · exact answered

theorem Answered.finish (answered : Answered sendTask executor) :
    Answered sendTask (executor.finish sendTask) := by
  rw [RemoteExecutor.finish]
  split
  · split
    · exact answered
    · rename_i task _ _ future resolved
      apply answered.modify rfl
      intro before outcome found assigned
      rw [found, Option.bind_some, Future.resolve] at resolved
      subst assigned
      split at resolved
      · cases resolved
      · cases resolved
        rfl
  · exact answered

theorem Answered.step (answered : Answered sendTask executor) (action : RemoteAction) :
    Answered sendTask (executor.step queueSize sendTask action) := by
  cases action with
  | submit => exact answered.submit
  | cancel task => exact answered.cancel task
  | start => exact answered.start
  | finish => exact answered.finish
  | put =>
      simp only [RemoteExecutor.step, RemoteExecutor.put]
      split
      · split <;> exact answered
      · exact answered
  | shutdown =>
      simp only [RemoteExecutor.step, RemoteExecutor.setShutdown]
      split <;> exact answered
  | join =>
      simp only [RemoteExecutor.step, RemoteExecutor.join]
      split <;> exact answered
  | test =>
      simp only [RemoteExecutor.step, RemoteExecutor.test]
      split <;> exact answered
  | get =>
      simp only [RemoteExecutor.step, RemoteExecutor.get]
      split <;> exact answered
  | timeout =>
      simp only [RemoteExecutor.step, RemoteExecutor.timeout]
      split <;> exact answered

theorem answered_after (actions : List RemoteAction) :
    Answered sendTask (after queueSize sendTask actions) := by
  induction actions using List.reverseRecOn with
  | nil =>
      intro task outcome finished
      cases finished
  | append_singleton actions action induction =>
      rw [after, List.foldl_append]
      exact induction.step action

section Managed

variable {Object : Type} {runtime : SocketRuntime Object} {address : RemoteAddress}
  {managerChunkSize : Int} {links : FutureId → Link} {telemetry : FutureId → NetworkTelemetry}
  {taskIds : FutureId → String} {messages : FutureId → Object}

/-- In every run, a future that is done and was not cancelled holds what arrives of the call of
its own task at the manager, and that is what the call has come to exactly if the call is not
disturbed. -/
theorem arrives_of_finished (sending : 0 < address.chunkSize) (receiving : 0 < managerChunkSize)
    (actions : List RemoteAction) {task : FutureId} {outcome : Except Thrown Object}
    (finished : (after queueSize (fun task => RemoteAddress.remoteCall runtime address
      managerChunkSize (links task) (telemetry task) (taskIds task) (messages task))
        actions).futures.get? task = some (.finished outcome))
    (whole : (links task).Whole) (isTask : runtime.isTaskMessage (messages task) = true)
    (sent : runtime.Delivers (messages task) fun value => value = messages task)
    (returns : ∀ value, runtime.answer? (runtime.call (messages task)) = some value →
      (∃ thrown, runtime.serializeObject value = .error thrown) ∨
        runtime.Delivers value fun other => other = value) :
    outcome = runtime.arrives (runtime.call (messages task)) ∧
      (outcome = runtime.call (messages task) ↔
        runtime.Undisturbed (runtime.call (messages task))) := by
  have arrived : outcome = runtime.arrives (runtime.call (messages task)) :=
    (answered_after actions task outcome finished).trans
      (RemoteAddress.remoteCall_eq sending receiving whole isTask sent returns)
  exact ⟨arrived, arrived ▸ SocketRuntime.arrives_eq_iff _⟩

/-- A task of seven, on connections that deliver all bytes at once. -/
theorem arrives_of_finished_seven :
    ∃ outcome,
      (after 0 (fun _ => RemoteAddress.remoteCall wireRuntime ⟨"localhost", 8990, 4096⟩ 4096
        ⟨fun _ => 4095, fun _ => 4095⟩ {} "140213" (.task 7))
          [.submit, .put, .test, .get, .start, .finish]).futures.get? 0 =
            some (.finished outcome) ∧
      outcome = wireRuntime.arrives (wireRuntime.call (.task 7)) ∧
        (outcome = wireRuntime.call (.task 7) ↔
          wireRuntime.Undisturbed (wireRuntime.call (.task 7))) := by
  have finished : (after 0 (fun _ => RemoteAddress.remoteCall wireRuntime
      ⟨"localhost", 8990, 4096⟩ 4096 ⟨fun _ => 4095, fun _ => 4095⟩ {} "140213"
        (WireObject.task 7)) [.submit, .put, .test, .get, .start, .finish]).futures.get? 0 =
      some (.finished _) := rfl
  refine ⟨_, finished, arrives_of_finished (by decide) (by decide) _ finished
    ⟨by decide, by decide⟩ rfl
    ⟨[120, 1, 7], WireObject.task 7, true, rfl, by decide, rfl, rfl⟩ ?_⟩
  intro value answered
  cases answered
  exact .inr ⟨[120, 0, 7], .number 7, false, rfl, by decide, rfl, rfl⟩

end Managed

end RemoteExecutor

end EventPipeline
