import EventPipeline.Execution.Context
import EventPipeline.Foundation.Arena

/-! # The state of an execution context

A context is pickled with a dictionary in the place of its predecessor, and without its condition
variable. When it is restored, a predecessor is created for the same tasks and takes over what the
dictionary holds.
-/

namespace EventPipeline

variable {Pipeline Time : Type}

abbrev ConditionId := Nat

/-- A context with the attributes that only its creation and its state need. -/
structure ContextObject (Pipeline Time : Type) extends EventExecutionContext where
  id : String
  conditionalVariable : ConditionId
  pipeline : Pipeline
  executionStartTp : Time
  executionEndTp : Time

/-- What the state holds of the predecessor. -/
structure PreviousState (Time : Type) where
  id : String
  executionResult : ResultSet
  executionStartTp : Time
  executionEndTp : Time
  state : ExecutionState
  errors : List PipelineError

structure ContextState (Pipeline Time : Type) where
  id : String
  executionStartTp : Time
  executionEndTp : Time
  taskProfiles : List TaskId
  pipeline : Pipeline
  executionResult : ResultSet
  state : ExecutionState
  previousContext : Option (PreviousState Time)
  nextContext : Option ContextId
  errors : List PipelineError

/-- The context objects, and the number of condition variables that have been created. -/
structure ContextHeap (Pipeline Time : Type) where
  contexts : Arena (ContextObject Pipeline Time)
  conditions : Nat

/-- What a new context does not take from its arguments. -/
structure Creation (Time : Type) where
  id : String
  now : Time
  zero : Time

namespace ContextHeap

variable (heap : ContextHeap Pipeline Time)

def newCondition : ConditionId × ContextHeap Pipeline Time :=
  (heap.conditions, { heap with conditions := heap.conditions + 1 })

/-- `EventExecutionContext(task, pipeline)`, for a list of tasks. -/
def newContext (creation : Creation Time) (task : List TaskId) (pipeline : Pipeline) :
    ContextObject Pipeline Time × ContextHeap Pipeline Time :=
  let (conditionalVariable, heap) := heap.newCondition
  ({ taskProfiles := task
     id := creation.id
     conditionalVariable := conditionalVariable
     pipeline := pipeline
     executionStartTp := creation.now
     executionEndTp := creation.zero }, heap)

def previousOf (context : ContextObject Pipeline Time) : Option (ContextObject Pipeline Time) :=
  context.previousContext.bind heap.contexts.get?

/-- `__getstate__`; the errors are those of the context itself. -/
def getstate (context : ContextObject Pipeline Time) : ContextState Pipeline Time where
  id := context.id
  executionStartTp := context.executionStartTp
  executionEndTp := context.executionEndTp
  taskProfiles := context.taskProfiles
  pipeline := context.pipeline
  executionResult := context.executionResult
  state := context.state
  previousContext := (heap.previousOf context).map fun previous =>
    { id := previous.id
      executionResult := previous.executionResult
      executionStartTp := previous.executionStartTp
      executionEndTp := previous.executionEndTp
      state := previous.state
      errors := context.errors }
  nextContext := context.nextContext
  errors := context.errors

/-- `instance.__dict__.update(previous)` -/
def updateFrom (created : ContextObject Pipeline Time) (previous : PreviousState Time) :
    ContextObject Pipeline Time :=
  { created with
    id := previous.id
    executionResult := previous.executionResult
    executionStartTp := previous.executionStartTp
    executionEndTp := previous.executionEndTp
    state := previous.state
    errors := previous.errors }

/-- What `__setstate__` assigns to `previous_context`. -/
def restorePrevious (creation : Creation Time) (state : ContextState Pipeline Time) :
    Option ContextId × ContextHeap Pipeline Time :=
  match state.previousContext with
  | none => (none, heap)
  | some previous =>
      let (created, heap) := heap.newContext creation state.taskProfiles state.pipeline
      (some heap.contexts.size,
        { heap with contexts := heap.contexts.alloc (updateFrom created previous) })

def setstate (creation : Creation Time) (state : ContextState Pipeline Time) :
    ContextObject Pipeline Time × ContextHeap Pipeline Time :=
  let (previousContext, heap) := heap.restorePrevious creation state
  let (conditionalVariable, heap) := heap.newCondition
  ({ taskProfiles := state.taskProfiles
     executionResult := state.executionResult
     state := state.state
     previousContext := previousContext
     nextContext := state.nextContext
     errors := state.errors
     id := state.id
     conditionalVariable := conditionalVariable
     pipeline := state.pipeline
     executionStartTp := state.executionStartTp
     executionEndTp := state.executionEndTp }, heap)

/-! ## What a restored context remembers -/

/-- The restored predecessor has what the predecessor had when the state was taken. -/
structure SamePrevious (previous restored : ContextObject Pipeline Time) : Prop where
  id : restored.id = previous.id
  executionResult : restored.executionResult = previous.executionResult
  executionStartTp : restored.executionStartTp = previous.executionStartTp
  executionEndTp : restored.executionEndTp = previous.executionEndTp
  state : restored.state = previous.state
  errors : restored.errors = previous.errors

/-- The restored context has the fields of the context and a condition variable that did not exist
before, and it has a predecessor with the fields of its predecessor if there is one. -/
structure RemembersPrevious (context restored : ContextObject Pipeline Time)
    (after : ContextHeap Pipeline Time) : Prop where
  own : restored = { context with
    previousContext := restored.previousContext
    conditionalVariable := restored.conditionalVariable }
  renewed : heap.conditions ≤ restored.conditionalVariable ∧
    restored.conditionalVariable < after.conditions
  previous : ∀ previous, heap.previousOf context = some previous →
    ∃ other, after.previousOf restored = some other ∧ SamePrevious previous other
  none : heap.previousOf context = none → restored.previousContext = none

variable {heap}

theorem restorePrevious_none {creation : Creation Time} {state : ContextState Pipeline Time}
    (absent : state.previousContext = none) :
    heap.restorePrevious creation state = (none, heap) := by
  rw [restorePrevious, absent]

theorem restorePrevious_some {creation : Creation Time} {state : ContextState Pipeline Time}
    {previous : PreviousState Time} (present : state.previousContext = some previous) :
    heap.restorePrevious creation state =
      (some heap.contexts.size,
        { contexts := heap.contexts.alloc
            (updateFrom (heap.newContext creation state.taskProfiles state.pipeline).1 previous)
          conditions := heap.conditions + 1 }) := by
  rw [restorePrevious, present]
  rfl

theorem conditions_restorePrevious (creation : Creation Time)
    (state : ContextState Pipeline Time) :
    heap.conditions ≤ (heap.restorePrevious creation state).2.conditions := by
  cases present : state.previousContext with
  | none =>
      have kept : (heap.restorePrevious creation state).2 = heap := by
        rw [restorePrevious_none present]
      exact Nat.le_of_eq (congrArg ContextHeap.conditions kept.symm)
  | some previous =>
      rw [restorePrevious_some present]
      exact Nat.le_succ _

theorem previousOf_setstate {creation : Creation Time} {state : ContextState Pipeline Time}
    {previous : PreviousState Time} (present : state.previousContext = some previous) :
    (heap.setstate creation state).2.previousOf (heap.setstate creation state).1 =
      some (updateFrom (heap.newContext creation state.taskProfiles state.pipeline).1
        previous) := by
  rw [setstate, restorePrevious_some present]
  exact Arena.get?_alloc_self _ _

/-- A restored context remembers its predecessor exactly if the two have the same errors. -/
theorem remembersPrevious_iff (heap : ContextHeap Pipeline Time)
    (context : ContextObject Pipeline Time) (creation : Creation Time) :
    heap.RemembersPrevious context (heap.setstate creation (heap.getstate context)).1
        (heap.setstate creation (heap.getstate context)).2 ↔
      ∀ previous, heap.previousOf context = some previous →
        context.errors = previous.errors := by
  have saved : ∀ previous, heap.previousOf context = some previous →
      (heap.getstate context).previousContext = some
        { id := previous.id
          executionResult := previous.executionResult
          executionStartTp := previous.executionStartTp
          executionEndTp := previous.executionEndTp
          state := previous.state
          errors := context.errors } := by
    intro previous found
    rw [getstate, found]
    rfl
  constructor
  · intro remembers previous found
    rcases remembers.previous previous found with ⟨other, restored, same⟩
    rw [previousOf_setstate (saved previous found)] at restored
    obtain rfl := Option.some.inj restored
    exact same.errors
  · intro agree
    refine ⟨rfl, ⟨?_, ?_⟩, ?_, ?_⟩
    · exact conditions_restorePrevious creation (heap.getstate context)
    · exact Nat.lt_succ_self _
    · intro previous found
      refine ⟨_, previousOf_setstate (saved previous found), rfl, rfl, rfl, rfl, rfl, ?_⟩
      exact agree previous found
    · intro absent
      have unsaved : (heap.getstate context).previousContext = none := by
        rw [getstate, absent]
        rfl
      rw [setstate, restorePrevious_none unsaved]

end ContextHeap

def failedBefore : ContextHeap Unit Nat where
  contexts := Arena.empty.alloc
    { taskProfiles := [0]
      state := .finished
      nextContext := some 1
      errors := [⟨.value "timed out", some 0, none⟩]
      id := "EventExecutionContext-1"
      conditionalVariable := 0
      pipeline := ()
      executionStartTp := 1
      executionEndTp := 2 }
  conditions := 2

def runningAfter : ContextObject Unit Nat where
  taskProfiles := [1]
  previousContext := some 0
  id := "EventExecutionContext-2"
  conditionalVariable := 1
  pipeline := ()
  executionStartTp := 3
  executionEndTp := 0

/-- The restored context does not know of the error. -/
theorem not_remembersPrevious_runningAfter :
    ¬ failedBefore.RemembersPrevious runningAfter
      (failedBefore.setstate ⟨"EventExecutionContext-3", 4, 0⟩
        (failedBefore.getstate runningAfter)).1
      (failedBefore.setstate ⟨"EventExecutionContext-3", 4, 0⟩
        (failedBefore.getstate runningAfter)).2 := by
  intro remembers
  have agree := (ContextHeap.remembersPrevious_iff failedBefore runningAfter
    ⟨"EventExecutionContext-3", 4, 0⟩).mp remembers
  cases agree _ rfl

end EventPipeline
