import EventPipeline.Execution.ExecuteTask
import EventPipeline.Foundation.Procedure

/-! # Runs as machine runs

`execute_task` is a recursive procedure: its body ends, calls itself as the
last thing it does, or calls itself in the loop that empties the sink queue.
-/

namespace EventPipeline

open Procedure

/-- The arguments of `execute_task` that change from call to call. -/
structure Call where
  task : Option TaskId
  previousContext : Option ContextId
deriving DecidableEq, Repr

def executeBody (env : Environment) (heap : Heap) (call : Call) (state : RunState) :
    Ending Call RunState PyError :=
  match call.task with
  | some task =>
      match visit env heap task call.previousContext state with
      | .error error => .raised error
      | .ok (.finish, state) => .done state
      | .ok (.call next previous, state) => .jump ⟨next, previous⟩ state
  | none =>
      match state.sinkQueue with
      | [] => .done state
      | sink :: queue =>
          .nest ⟨some sink, call.previousContext⟩ call { state with sinkQueue := queue }

theorem executeTask_eq_run (env : Environment) (heap : Heap) (fuel : Nat)
    (task : Option TaskId) (previous : Option ContextId) (state : RunState) :
    executeTask env heap fuel task previous state =
      (run (executeBody env heap) fuel ⟨task, previous⟩ state).getD
        (.error .recursionError) := by
  induction fuel generalizing task previous state with
  | zero => rfl
  | succ fuel induction =>
      cases task with
      | some task =>
          simp only [executeTask, run, executeBody]
          rcases visit env heap task previous state with error | ⟨_ | ⟨next, later⟩, after⟩
          · rfl
          · rfl
          · exact induction next later after
      | none =>
          simp only [executeTask, run, executeBody]
          rcases state.sinkQueue with _ | ⟨sink, queue⟩
          · rfl
          · simp only [induction]
            rcases run (executeBody env heap) fuel ⟨some sink, previous⟩
              { state with sinkQueue := queue } with _ | error | after
            · rfl
            · rfl
            · rfl

/-- A configuration of a run of `execute_task`: the call to make, the loops that
are suspended around it, and the state. -/
abbrev RunConfig := Config Call RunState

def initialConfig (root : TaskId) : RunConfig :=
  ⟨some ⟨some root, none⟩, [], {}⟩

/-- The configurations of a run. -/
def Visits (env : Environment) (heap : Heap) (root : TaskId) (config : RunConfig) : Prop :=
  Reaches (executeBody env heap) (initialConfig root) config

/-- What a step of a run is: a task is visited, a sink is taken from the queue,
the queue is found empty, or a suspended loop goes on. -/
inductive RunStep (env : Environment) (heap : Heap) : RunConfig → RunConfig → Prop
  | stop {task previous waiting before after} :
      visit env heap task previous before = .ok (.finish, after) →
      RunStep env heap ⟨some ⟨some task, previous⟩, waiting, before⟩ ⟨none, waiting, after⟩
  | call {task previous waiting before next later after} :
      visit env heap task previous before = .ok (.call next later, after) →
      RunStep env heap ⟨some ⟨some task, previous⟩, waiting, before⟩
        ⟨some ⟨next, later⟩, waiting, after⟩
  | drained {previous waiting state} : state.sinkQueue = [] →
      RunStep env heap ⟨some ⟨none, previous⟩, waiting, state⟩ ⟨none, waiting, state⟩
  | drain {previous waiting sink queue state} : state.sinkQueue = sink :: queue →
      RunStep env heap ⟨some ⟨none, previous⟩, waiting, state⟩
        ⟨some ⟨some sink, previous⟩, ⟨none, previous⟩ :: waiting,
          { state with sinkQueue := queue }⟩
  | resume {call waiting state} :
      RunStep env heap ⟨none, call :: waiting, state⟩ ⟨some call, waiting, state⟩

theorem runStep_of_step {env : Environment} {heap : Heap} {before after : RunConfig}
    (step : Step (executeBody env heap) before after) : RunStep env heap before after := by
  cases step with
  | @done call waiting state after ended =>
      rcases call with ⟨_ | task, previous⟩
      · simp only [executeBody] at ended
        split at ended
        · cases ended
          exact .drained ‹_›
        · cases ended
      · simp only [executeBody] at ended
        split at ended
        · cases ended
        · cases ended
          exact .stop ‹_›
        · cases ended
  | @jump call next waiting state after ended =>
      rcases call with ⟨_ | task, previous⟩
      · simp only [executeBody] at ended
        split at ended <;> cases ended
      · simp only [executeBody] at ended
        split at ended
        · cases ended
        · cases ended
        · cases ended
          exact .call ‹_›
  | @nest call inner outer waiting state after ended =>
      rcases call with ⟨_ | task, previous⟩
      · simp only [executeBody] at ended
        split at ended
        · cases ended
        · cases ended
          exact .drain ‹_›
      · simp only [executeBody] at ended
        split at ended <;> cases ended
  | resume => exact .resume

theorem visits_invariant {env : Environment} {heap : Heap} {root : TaskId}
    {Inv : RunConfig → Prop}
    (preserved : ∀ {before after}, Inv before → RunStep env heap before after → Inv after)
    (initial : Inv (initialConfig root)) {config : RunConfig}
    (visited : Visits env heap root config) : Inv config :=
  reaches_invariant (fun held step => preserved held (runStep_of_step step)) initial visited

theorem visits_of_executeTask {env : Environment} {heap : Heap} {fuel : Nat} {root : TaskId}
    {final : RunState}
    (returned : executeTask env heap fuel (some root) none {} = .ok final) :
    Visits env heap root ⟨none, [], final⟩ := by
  rw [executeTask_eq_run] at returned
  rcases ran : run (executeBody env heap) fuel ⟨some root, none⟩ {} with _ | error | state
  · simp [ran] at returned
  · simp [ran] at returned
  · rw [ran] at returned
    cases returned
    exact run_reaches [] ran

end EventPipeline
