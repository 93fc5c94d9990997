import EventPipeline.Execution.Context
import EventPipeline.Foundation.LinkedList

/-! # Running a pipeline

`execute_task` and `Pipeline.start`. The tree of tasks is read only. What the
events deliver is an input of the run, indexed by the contexts in the order in
which they are dispatched, and so are the orders of the sets that the source
iterates.
-/

namespace EventPipeline

/-- What a run depends on besides its tasks. -/
structure Environment where
  /-- The attribute `execution_evaluation_state` of the event classes. -/
  policies : String → EventExecutionEvaluationState
  /-- The exception with which building or submitting the events fails. -/
  submission : ContextId → Option SubmissionFailure
  outcome : ContextId → TaskId → Outcome
  setOrder : ContextId → List TaskId → List TaskId
  setOrder_perm : ∀ context tasks, (setOrder context tasks).Perm tasks
  doneOrder : ContextId → List TaskId → List TaskId
  doneOrder_perm : ∀ context tasks, (doneOrder context tasks).Perm tasks

def Environment.futures (env : Environment) (context : ContextId) (profiles : List TaskId) :
    Except SubmissionFailure (List Outcome) :=
  match env.submission context with
  | some failure => .error failure
  | none => .ok ((env.doneOrder context profiles).map (env.outcome context))

theorem Environment.futures_eq_ok (env : Environment) {context : ContextId}
    {profiles : List TaskId} {outcomes : List Outcome}
    (submitted : env.futures context profiles = .ok outcomes) :
    outcomes = (env.doneOrder context profiles).map (env.outcome context) := by
  unfold Environment.futures at submitted
  cases refused : env.submission context with
  | some failure => simp [refused] at submitted
  | none =>
      rw [refused, Except.ok.injEq] at submitted
      exact submitted.symm

theorem Environment.futures_of_submission (env : Environment) {context : ContextId}
    {failure : SubmissionFailure} (refused : env.submission context = some failure)
    (profiles : List TaskId) : env.futures context profiles = .error failure := by
  rw [futures, refused]

theorem Environment.submission_eq (env : Environment) (context : ContextId)
    (profiles : List TaskId) :
    env.submission context =
      match env.futures context profiles with
      | .error failure => some failure
      | .ok _ => none := by
  rw [futures]
  cases env.submission context <;> rfl

theorem Environment.submission_of_error (env : Environment) {context : ContextId}
    {profiles : List TaskId} {failure : SubmissionFailure}
    (refused : env.futures context profiles = .error failure) :
    env.submission context = some failure := by
  rw [env.submission_eq context profiles, refused]

theorem Environment.submission_of_ok (env : Environment) {context : ContextId}
    {profiles : List TaskId} {outcomes : List Outcome}
    (submitted : env.futures context profiles = .ok outcomes) :
    env.submission context = none := by
  rw [env.submission_eq context profiles, submitted]

/-- The environment in which all submissions succeed, sets keep the order of their
elements and every task delivers its outcome. -/
def Environment.ofOutcomes (outcome : TaskId → Outcome) : Environment where
  policies _ := .successOnAllEventsSuccess
  submission _ := none
  outcome _ := outcome
  setOrder _ tasks := tasks
  setOrder_perm _ _ := .refl _
  doneOrder _ tasks := tasks
  doneOrder_perm _ _ := .refl _

/-- A task that succeeds, or fails, without a request to stop or to switch. -/
def Outcome.ofTask (error : Bool) (task : TaskId) : Outcome :=
  .returned ⟨task, error, "", .none, some task, none, none, none⟩

/-- The contexts in the order in which they are dispatched, `sink_queue` with the
end that is popped first, and `pipeline.execution_context`. -/
structure RunState where
  contexts : Arena EventExecutionContext := .empty
  sinkQueue : List TaskId := []
  executionContext : Option ContextId := none
deriving DecidableEq, Repr

/-- How a visit of a task goes on: `execute_task` returns or calls itself. -/
inductive Flow
  | finish
  | call (task : Option TaskId) (previousContext : Option ContextId)
deriving DecidableEq, Repr

/-- The loop over a parallel group: the tasks that lead on over `||`, and the task
behind them. -/
def collectParallel (heap : Heap) : Nat → Option TaskId → Option (List TaskId × Option TaskId)
  | 0, _ => none
  | _ + 1, none => some ([], none)
  | fuel + 1, some id =>
      match heap.get? id with
      | none => none
      | some task =>
          if task.onSuccessPipe = some .parallelism then
            (collectParallel heap fuel task.onSuccessEvent).map fun (tasks, last) =>
              (id :: tasks, last)
          else
            some ([], some id)

/-- The tasks of the context that a visit makes, with the task the visit goes on
from. A task reached without a previous context is alone. -/
def groupOf (env : Environment) (heap : Heap) (task : TaskId)
    (previous : Option ContextId) (context : ContextId) :
    Except PyError (List TaskId × TaskId) :=
  match previous with
  | none => .ok ([task], task)
  | some _ =>
      match collectParallel heap (heap.size + 1) (some task) with
      | none => .error .recursionError
      | some (_, none) => .error (.attributeError "'NoneType' object has no attribute 'event'")
      | some ([], some last) => .ok ([last], last)
      | some (tasks, some last) => .ok (env.setOrder context (tasks ++ [last]), last)

def pushSink (heap : Heap) (task : TaskId) (queue : List TaskId) : List TaskId :=
  match (heap.get? task).bind PipelineTask.sinkNode with
  | none => queue
  | some sink => sink :: queue

def contextLinks : Arena.Links EventExecutionContext where
  next := EventExecutionContext.nextContext
  previous := EventExecutionContext.previousContext
  setNext id context := { context with nextContext := some id }
  next_setNext _ _ := rfl
  previous_setNext _ _ := rfl

/-- The state in which the new context has been linked behind the previous one and
dispatched. -/
def RunState.append (state : RunState) (heap : Heap) (task : TaskId)
    (previous : Option ContextId) (context : EventExecutionContext) : RunState :=
  { contexts := Arena.linkBehind contextLinks state.contexts previous context
    sinkQueue :=
      match previous with
      | none => state.sinkQueue
      | some _ => pushSink heap task state.sinkQueue
    executionContext :=
      match previous with
      | none => some state.contexts.size
      | some _ => state.executionContext }

/-- Where a run goes on after the context of `last` has been dispatched. -/
def follow (env : Environment) (heap : Heap) (last : TaskId) (previous : Option ContextId)
    (id : ContextId) (context : EventExecutionContext) (switch : Option SwitchRequest) :
    Except PyError Flow :=
  if context.state.isStopped then .ok .finish
  else
    match heap.get? last with
    | none => .error (.attributeError "'NoneType' object has no attribute 'is_conditional'")
    | some task =>
        match switch with
        | some ⟨descriptor, true⟩ =>
            match descriptor.toNat?.bind task.getDescriptor with
            | none => .error (.taskSwitchingError
                ("Task cannot switch to task using the descriptor " ++ toString descriptor ++
                  "."))
            | some target => .ok (.call (some target) previous)
        | _ =>
            if task.isConditional then do
              if ← context.executionFailed heap env.policies then
                return .call task.onFailureEvent (some id)
              else
                return .call task.onSuccessEvent (some id)
            else
              .ok (.call task.onSuccessEvent (some id))

/-- The task that a visit goes on from, the context that it makes as that is left by
`dispatch`, and the request that `dispatch` returns. -/
def dispatchTask (env : Environment) (heap : Heap) (task : TaskId)
    (previous : Option ContextId) (id : ContextId) :
    Except PyError (TaskId × EventExecutionContext × Option SwitchRequest) := do
  let (profiles, last) ← groupOf env heap task previous id
  let context : EventExecutionContext :=
    { taskProfiles := profiles, previousContext := previous }
  return (last, context.dispatch heap (env.futures id profiles))

/-- The branch of `execute_task` for a task, up to the call at its end. -/
def visit (env : Environment) (heap : Heap) (task : TaskId) (previous : Option ContextId)
    (state : RunState) : Except PyError (Flow × RunState) := do
  let id := state.contexts.size
  let (last, context, switch) ← dispatchTask env heap task previous id
  let flow ← follow env heap last previous id context switch
  return (flow, state.append heap task previous context)

/-- Without a task, `execute_task` empties the queue of the sinks. -/
def executeTask (env : Environment) (heap : Heap) :
    Nat → Option TaskId → Option ContextId → RunState → Except PyError RunState
  | 0, _, _, _ => .error .recursionError
  | fuel + 1, some task, previous, state =>
      match visit env heap task previous state with
      | .error error => .error error
      | .ok (.finish, state) => .ok state
      | .ok (.call next previous, state) => executeTask env heap fuel next previous state
  | fuel + 1, none, previous, state =>
      match state.sinkQueue with
      | [] => .ok state
      | sink :: queue =>
          match executeTask env heap fuel (some sink) previous
            { state with sinkQueue := queue } with
          | .error error => .error error
          | .ok state => executeTask env heap fuel none previous state

/-! ## The linked list of contexts -/

def iterate (contexts : Arena EventExecutionContext) (id : ContextId) : List ContextId :=
  contexts.followLink EventExecutionContext.nextContext (contexts.size + 1) id

def getExecutionContextHead (contexts : Arena EventExecutionContext) (id : ContextId) :
    ContextId :=
  (contexts.followLink EventExecutionContext.previousContext (contexts.size + 1) id).getLastD id

def getLatestExecutionContext (contexts : Arena EventExecutionContext) (id : ContextId) :
    ContextId :=
  (iterate contexts (getExecutionContextHead contexts id)).getLastD id

/-! ## `Pipeline.start` -/

inductive Signal
  | pipelineExecutionStart
  | pipelineStop (executionContext : ContextId)
  | pipelineShutdown (executionContext : ContextId)
  | pipelineExecutionEnd (executionContext : Option ContextId)
deriving DecidableEq, Repr

/-- The depth of recursion that every run of a pipeline keeps within. -/
def recursionDepth (heap : Heap) : Nat := 5 * heap.size + 1

def closingSignal (state : RunState) : Signal :=
  match state.executionContext with
  | none => .pipelineExecutionEnd none
  | some context =>
      let latest := getLatestExecutionContext state.contexts context
      match (state.contexts.get? latest).map EventExecutionContext.state with
      | some .cancelled => .pipelineStop latest
      | some .aborted => .pipelineShutdown latest
      | _ => .pipelineExecutionEnd (some context)

/-- `earlier` is `pipeline.execution_context` before the call. The result is the
state of the run, from which `start` returns the execution context, and the
signals emitted. -/
def start (env : Environment) (heap : Heap) (root : TaskId) (forceRerun : Bool)
    (earlier : Option ContextId) : Except PyError RunState × List Signal :=
  if earlier.isSome && !forceRerun then
    (.error (.eventDone "Done executing pipeline"), [.pipelineExecutionStart])
  else
    match executeTask env heap (recursionDepth heap) (some root) none {} with
    | .error error => (.error error, [.pipelineExecutionStart])
    | .ok state => (.ok state, [.pipelineExecutionStart, closingSignal state])

end EventPipeline
