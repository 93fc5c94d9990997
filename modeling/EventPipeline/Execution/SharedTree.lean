import EventPipeline.Execution.ExecuteTask
import EventPipeline.Execution.RetryPolicy

/-! # The tree that runs share

The tasks hang off the class of the pipeline. They are shared by its instances, and a run
reaches them, and the classes of the events, while it makes and changes its own objects. Here
a run reads the tasks from the store at each step and leaves a store behind, also when it
raises.
-/

namespace EventPipeline

abbrev InstanceId := Nat

/-- What runs read and write: the tasks, the retry policies, and what each instance keeps of
its run. -/
structure Store where
  heap : Heap
  policies : RetryPolicies
  runs : InstanceId → RunState := fun _ => {}

namespace Store

def context? (store : Store) (owner : InstanceId) (id : ContextId) :
    Option EventExecutionContext :=
  (store.runs owner).contexts.get? id

def setRun (store : Store) (owner : InstanceId) (run : RunState) : Store :=
  { store with runs := Function.update store.runs owner run }

def assign (store : Store) (owner : InstanceId) (id : ContextId)
    (update : EventExecutionContext → EventExecutionContext) : Store :=
  store.setRun owner
    { store.runs owner with contexts := (store.runs owner).contexts.modify id update }

def configureEvent (store : Store) (profile : TaskId) : Store :=
  match store.heap.get? profile with
  | none => store
  | some task => { store with policies := (store.policies.configureEvent task).2 }

def initAndExecuteEvents (env : Environment) (id : ContextId) (profiles : List TaskId)
    (store : Store) : Except SubmissionFailure (List Outcome) × Store :=
  (env.futures id profiles, profiles.foldl configureEvent store)

def processExecutorResults (owner : InstanceId) (id : ContextId) (outcomes : List Outcome)
    (store : Store) : Option Interruption × Store :=
  ((store.context? owner id).bind fun context =>
      (context.processExecutorResults store.heap outcomes).2,
    store.assign owner id fun context =>
      (context.processExecutorResults store.heap outcomes).1)

/-- `dispatch` behind the execution of the events. -/
def settle (owner : InstanceId) (id : ContextId)
    (futures : Except SubmissionFailure (List Outcome)) (store : Store) :
    Option SwitchRequest × Store :=
  match futures with
  | .error (.raised text) => (none, store.assign owner id fun context => context.fail text)
  | .error (.switchTask descriptor) => (some ⟨descriptor, false⟩, store)
  | .ok outcomes =>
      let recorded := store.processExecutorResults owner id outcomes
      match recorded.1 with
      | none =>
          (none, recorded.2.assign owner id fun context =>
            if context.state = .executing then { context with state := .finished }
            else context)
      | some (.switchTask descriptor configured) => (some ⟨descriptor, configured⟩, recorded.2)
      | some (.error error) =>
          (none, recorded.2.assign owner id fun context => context.fail error.text)

def dispatch (env : Environment) (owner : InstanceId) (id : ContextId) (profiles : List TaskId)
    (store : Store) : Option SwitchRequest × Store :=
  let executed := (store.assign owner id fun context =>
    { context with state := .executing }).initAndExecuteEvents env id profiles
  executed.2.settle owner id executed.1

/-- The branch of `execute_task` for a task, up to the call at its end. -/
def visit (env : Environment) (owner : InstanceId) (task : TaskId)
    (previous : Option ContextId) (store : Store) : Except PyError Flow × Store :=
  let id := (store.runs owner).contexts.size
  match groupOf env store.heap task previous id with
  | .error error => (.error error, store)
  | .ok (profiles, last) =>
      let store := store.setRun owner ((store.runs owner).append store.heap task previous
        { taskProfiles := profiles, previousContext := previous })
      let (switch, store) := store.dispatch env owner id profiles
      match store.context? owner id with
      | none => (.error (.attributeError "'NoneType' object has no attribute 'state'"), store)
      | some context => (follow env store.heap last previous id context switch, store)

def executeTask (env : Environment) (owner : InstanceId) :
    Nat → Option TaskId → Option ContextId → Store → Except PyError Unit × Store
  | 0, _, _, store => (.error .recursionError, store)
  | fuel + 1, some task, previous, store =>
      match store.visit env owner task previous with
      | (.error error, store) => (.error error, store)
      | (.ok .finish, store) => (.ok (), store)
      | (.ok (.call next previous), store) => executeTask env owner fuel next previous store
  | fuel + 1, none, previous, store =>
      match (store.runs owner).sinkQueue with
      | [] => (.ok (), store)
      | sink :: queue =>
          match executeTask env owner fuel (some sink) previous
            (store.setRun owner { store.runs owner with sinkQueue := queue }) with
          | (.error error, store) => (.error error, store)
          | (.ok _, store) => executeTask env owner fuel none previous store

/-- `Pipeline.start` of an instance. The signals change nothing. -/
def start (env : Environment) (owner : InstanceId) (root : TaskId) (forceRerun : Bool)
    (store : Store) : Except PyError Unit × Store :=
  if (store.runs owner).executionContext.isSome && !forceRerun then
    (.error (.eventDone "Done executing pipeline"), store)
  else
    (store.setRun owner {}).executeTask env owner (recursionDepth store.heap) (some root) none

/-! ## The tasks are left alone -/

section Frame

variable (env : Environment) (owner : InstanceId) (store : Store)

@[simp] theorem heap_setRun (run : RunState) : (store.setRun owner run).heap = store.heap := rfl

@[simp] theorem heap_assign (id : ContextId)
    (update : EventExecutionContext → EventExecutionContext) :
    (store.assign owner id update).heap = store.heap := rfl

theorem heap_configureEvent (profile : TaskId) :
    (store.configureEvent profile).heap = store.heap := by
  unfold configureEvent
  split <;> rfl

theorem heap_initAndExecuteEvents (id : ContextId) (profiles : List TaskId) :
    (store.initAndExecuteEvents env id profiles).2.heap = store.heap := by
  change (profiles.foldl configureEvent store).heap = store.heap
  induction profiles generalizing store with
  | nil => rfl
  | cons profile rest induction => rw [List.foldl_cons, induction, heap_configureEvent]

theorem heap_settle (id : ContextId) (futures : Except SubmissionFailure (List Outcome)) :
    (store.settle owner id futures).2.heap = store.heap := by
  unfold settle
  split
  · rfl
  · rfl
  · dsimp only
    split <;> rfl

theorem heap_dispatch (id : ContextId) (profiles : List TaskId) :
    (store.dispatch env owner id profiles).2.heap = store.heap := by
  rw [dispatch, heap_settle, heap_initAndExecuteEvents, heap_assign]

theorem heap_visit (task : TaskId) (previous : Option ContextId) :
    (store.visit env owner task previous).2.heap = store.heap := by
  unfold visit
  dsimp only
  split
  · rfl
  · split <;> exact heap_dispatch env owner _ _ _

theorem heap_executeTask (fuel : Nat) (task : Option TaskId) (previous : Option ContextId) :
    (store.executeTask env owner fuel task previous).2.heap = store.heap := by
  induction fuel generalizing task previous store with
  | zero => rfl
  | succ fuel induction =>
      cases task with
      | some task =>
          have visited := heap_visit env owner store task previous
          rw [executeTask]
          rcases left : store.visit env owner task previous with
            ⟨error | _ | ⟨next, later⟩, after⟩ <;> rw [left] at visited
          · exact visited
          · exact visited
          · exact (induction after next later).trans visited
      | none =>
          rw [executeTask]
          cases (store.runs owner).sinkQueue with
          | nil => rfl
          | cons sink queue =>
              have drained := induction
                (store.setRun owner { store.runs owner with sinkQueue := queue }) (some sink)
                previous
              rcases left : (store.setRun owner { store.runs owner with
                sinkQueue := queue }).executeTask env owner fuel (some sink) previous with
                ⟨error | done, after⟩ <;> simp only [left] at drained ⊢
              · exact drained
              · exact (induction after none previous).trans drained

theorem heap_start (root : TaskId) (forceRerun : Bool) :
    (store.start env owner root forceRerun).2.heap = store.heap := by
  unfold start
  split
  · rfl
  · exact heap_executeTask env owner _ _ _ _

end Frame

end Store

end EventPipeline
