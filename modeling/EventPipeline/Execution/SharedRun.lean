import EventPipeline.Execution.SharedTree

/-! # Runs on the shared tree

What a run leaves of its instance in the store is what `execute_task` computes from the
tasks.
-/

namespace EventPipeline.Store

section Dispatch

variable {env : Environment} {owner : InstanceId} {store : Store} {run : RunState} {heap : Heap}
  {task : TaskId} {previous : Option ContextId} {context : EventExecutionContext}

theorem runs_setRun : (store.setRun owner run).runs owner = run :=
  Function.update_self _ _ _

def Placed (store : Store) (owner : InstanceId) (heap : Heap) (run : RunState) (task : TaskId)
    (previous : Option ContextId) (context : EventExecutionContext) : Prop :=
  store.runs owner = run.append heap task previous context

theorem Placed.context? (placed : store.Placed owner heap run task previous context) :
    store.context? owner run.contexts.size = some context := by
  rw [Store.context?, placed]
  exact Arena.get?_linkBehind_self run.contexts previous context

theorem Placed.assign (placed : store.Placed owner heap run task previous context)
    (update : EventExecutionContext → EventExecutionContext) :
    (store.assign owner run.contexts.size update).Placed owner heap run task previous
      (update context) := by
  rw [Placed, Store.assign, runs_setRun, placed]
  simp only [RunState.append, Arena.modify_linkBehind_self]

theorem runs_configureEvent (profile : TaskId) :
    (store.configureEvent profile).runs = store.runs := by
  unfold configureEvent
  split <;> rfl

theorem Placed.initAndExecuteEvents
    (placed : store.Placed owner heap run task previous context) (id : ContextId)
    (profiles : List TaskId) :
    (store.initAndExecuteEvents env id profiles).2.Placed owner heap run task previous
      context := by
  change (profiles.foldl configureEvent store).Placed owner heap run task previous context
  induction profiles generalizing store with
  | nil => exact placed
  | cons profile rest induction =>
      apply induction
      rw [Placed, runs_configureEvent]
      exact placed

theorem Placed.processExecutorResults
    (placed : store.Placed owner heap run task previous context) (outcomes : List Outcome) :
    (store.processExecutorResults owner run.contexts.size outcomes).1 =
        (context.processExecutorResults store.heap outcomes).2 ∧
      (store.processExecutorResults owner run.contexts.size outcomes).2.Placed owner heap run
        task previous (context.processExecutorResults store.heap outcomes).1 := by
  refine ⟨?_, placed.assign _⟩
  rw [Store.processExecutorResults, placed.context?]
  rfl

theorem Placed.settle (placed : store.Placed owner heap run task previous
      { context with state := .executing })
    (futures : Except SubmissionFailure (List Outcome)) :
    (store.settle owner run.contexts.size futures).1 =
        (context.dispatch store.heap futures).2 ∧
      (store.settle owner run.contexts.size futures).2.Placed owner heap run task previous
        (context.dispatch store.heap futures).1 := by
  unfold EventExecutionContext.dispatch Store.settle
  cases futures with
  | error failure =>
      cases failure with
      | raised text => exact ⟨rfl, placed.assign _⟩
      | switchTask descriptor => exact ⟨rfl, placed⟩
  | ok outcomes =>
      have recorded := placed.processExecutorResults outcomes
      dsimp only
      rw [recorded.1]
      rcases processed : ({ context with state := .executing } :
        EventExecutionContext).processExecutorResults store.heap outcomes with
        ⟨after, _ | ⟨descriptor, configured⟩ | error⟩
      · rw [processed] at recorded
        have finished := recorded.2.assign fun context =>
          if context.state = .executing then { context with state := .finished } else context
        dsimp only at finished ⊢
        split at finished
        · rename_i executing
          rw [if_pos executing]
          exact ⟨rfl, finished⟩
        · rename_i stopped
          rw [if_neg stopped]
          exact ⟨rfl, finished⟩
      · rw [processed] at recorded
        exact ⟨rfl, recorded.2⟩
      · rw [processed] at recorded
        exact ⟨rfl, recorded.2.assign _⟩

theorem Placed.dispatch (placed : store.Placed owner heap run task previous context)
    (profiles : List TaskId) :
    (store.dispatch env owner run.contexts.size profiles).1 =
        (context.dispatch store.heap (env.futures run.contexts.size profiles)).2 ∧
      (store.dispatch env owner run.contexts.size profiles).2.Placed owner heap run task
        previous (context.dispatch store.heap (env.futures run.contexts.size profiles)).1 := by
  have executing := placed.assign fun context => { context with state := .executing }
  have submitted := @Placed.initAndExecuteEvents env _ _ _ _ _ _ _ executing run.contexts.size
    profiles
  have settled := submitted.settle (env.futures run.contexts.size profiles)
  rw [heap_initAndExecuteEvents, heap_assign] at settled
  exact settled

end Dispatch

section Visit

variable {env : Environment} {owner : InstanceId} {store : Store} {task last : TaskId}
  {previous : Option ContextId} {profiles : List TaskId}

theorem visit_grouped {context : EventExecutionContext} {switch : Option SwitchRequest}
    (grouped : groupOf env store.heap task previous (store.runs owner).contexts.size =
      .ok (profiles, last))
    (dispatched : ({ taskProfiles := profiles, previousContext := previous } :
      EventExecutionContext).dispatch store.heap
        (env.futures (store.runs owner).contexts.size profiles) = (context, switch)) :
    (store.visit env owner task previous).1 =
        follow env store.heap last previous (store.runs owner).contexts.size context switch ∧
      (store.visit env owner task previous).2.runs owner =
        (store.runs owner).append store.heap task previous context := by
  have placed : (store.setRun owner ((store.runs owner).append store.heap task previous
      { taskProfiles := profiles, previousContext := previous })).Placed owner store.heap
      (store.runs owner) task previous
      { taskProfiles := profiles, previousContext := previous } := runs_setRun
  have left := @Placed.dispatch env _ _ _ _ _ _ _ placed profiles
  rw [heap_setRun, dispatched] at left
  have same := heap_dispatch env owner (store.setRun owner ((store.runs owner).append store.heap
    task previous { taskProfiles := profiles, previousContext := previous }))
    (store.runs owner).contexts.size profiles
  unfold Store.visit
  simp only [grouped, left.2.context?, left.1, same, heap_setRun]
  exact ⟨trivial, left.2⟩

theorem visit_ungrouped {error : PyError}
    (grouped : groupOf env store.heap task previous (store.runs owner).contexts.size =
      .error error) : store.visit env owner task previous = (.error error, store) := by
  unfold Store.visit
  simp only [grouped]

theorem visit_eq (env : Environment) (owner : InstanceId) (store : Store) (task : TaskId)
    (previous : Option ContextId) :
    (store.visit env owner task previous).1.map
        (fun flow => (flow, (store.visit env owner task previous).2.runs owner)) =
      EventPipeline.visit env store.heap task previous (store.runs owner) := by
  cases grouped : groupOf env store.heap task previous (store.runs owner).contexts.size with
  | error error =>
      rw [visit_ungrouped grouped]
      simp only [EventPipeline.visit, dispatchTask, grouped, bind, Except.bind]
      rfl
  | ok group =>
      rcases group with ⟨profiles, last⟩
      rcases dispatched : ({ taskProfiles := profiles, previousContext := previous } :
        EventExecutionContext).dispatch store.heap
          (env.futures (store.runs owner).contexts.size profiles) with ⟨context, switch⟩
      have visited := visit_grouped grouped dispatched
      rw [visited.1, visited.2]
      simp only [EventPipeline.visit, dispatchTask, grouped, dispatched, bind, Except.bind, pure,
        Except.pure]
      cases follow env store.heap last previous (store.runs owner).contexts.size context switch <;>
        rfl

end Visit

theorem executeTask_eq (env : Environment) (owner : InstanceId) (fuel : Nat)
    (task : Option TaskId) (previous : Option ContextId) (store : Store) :
    (store.executeTask env owner fuel task previous).1.map
        (fun _ => (store.executeTask env owner fuel task previous).2.runs owner) =
      EventPipeline.executeTask env store.heap fuel task previous (store.runs owner) := by
  induction fuel generalizing task previous store with
  | zero => rfl
  | succ fuel induction =>
      cases task with
      | some task =>
          have visited := visit_eq env owner store task previous
          have same := heap_visit env owner store task previous
          rw [Store.executeTask, EventPipeline.executeTask, ← visited]
          rcases left : store.visit env owner task previous with
            ⟨error | _ | ⟨next, later⟩, after⟩ <;> rw [left] at same
          · rfl
          · rfl
          · dsimp only at same
            simp only [Except.map]
            rw [← same]
            exact induction next later after
      | none =>
          rw [Store.executeTask, EventPipeline.executeTask]
          cases waiting : (store.runs owner).sinkQueue with
          | nil => rfl
          | cons sink queue =>
              have inner := induction (some sink) previous
                (store.setRun owner { store.runs owner with sinkQueue := queue })
              have same := heap_executeTask env owner
                (store.setRun owner { store.runs owner with sinkQueue := queue }) fuel (some sink)
                previous
              rw [runs_setRun, heap_setRun] at inner
              rw [heap_setRun] at same
              dsimp only at inner ⊢
              rw [← inner]
              rcases left : (store.setRun owner { store.runs owner with
                sinkQueue := queue }).executeTask env owner fuel (some sink) previous with
                ⟨error | done, after⟩
              · rfl
              · rw [left] at same
                dsimp only at same
                simp only [Except.map]
                rw [← same]
                exact induction none previous after

end EventPipeline.Store
