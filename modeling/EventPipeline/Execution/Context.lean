import EventPipeline.Execution.EventResult

/-! # Execution contexts

A context runs the events of its tasks, records what their futures deliver and
ends in a state. The executors are not modelled: what a future delivers is an
input, and so is the order in which the set of finished futures is iterated.
-/

namespace EventPipeline

/-- The identity of a context object. -/
abbrev ContextId := Nat

inductive ExecutionState
  | pending
  | executing
  | cancelled
  | finished
  | aborted
deriving DecidableEq, Repr

/-- The context ended in state `CANCELLED` or `ABORTED`. -/
def ExecutionState.isStopped : ExecutionState → Bool
  | .cancelled | .aborted => true
  | .pending | .executing | .finished => false

structure EventExecutionContext where
  taskProfiles : List TaskId
  executionResult : ResultSet := []
  state : ExecutionState := .pending
  previousContext : Option ContextId := none
  nextContext : Option ContextId := none
  errors : List PipelineError := []
deriving DecidableEq, Repr

/-! ## Futures -/

/-- The attribute `params` of an exception: it may be missing, it may be `None`
(the default of `PipelineError`), a dictionary, or an object that cannot be read, such as
a list, with the error that its missing `get` raises. -/
inductive ExceptionParams
  | missing
  | none
  | dictionary (eventName : Option String) (taskId : Option TaskId)
      (initArgs callArgs : Option String)
  | unreadable (text : String)
deriving DecidableEq, Repr

/-- An exception other than `SwitchTask`. `stopProcessing` tells whether its class
is `StopProcessingError`, and `text` is its dictionary or its message. -/
structure RaisedException where
  stopProcessing : Bool
  params : ExceptionParams
  text : String
  /-- What making a result for the exception raises: its `str()`, its `to_dict`, or the backend. -/
  resultError : Option String := none
  /-- What copying that result raises. -/
  copyError : Option String := none
deriving DecidableEq, Repr

/-- What a finished future delivers. `resultId` is the identity of the result
that is made for an exception. The content of an `untestable` result raises the
exception when it is tested for its truth, like an array of several numbers. -/
inductive Outcome
  | returned (result : EventResult)
  | switched (nextTaskDescriptor : Int) (result : EventResult)
  | raised (exception : RaisedException) (resultId : ResultId)
  | untestable (result : EventResult) (exception : RaisedException) (resultId : ResultId)
deriving DecidableEq, Repr

/-- The name, the task and the arguments that `params` tell of. -/
def ExceptionParams.read :
    ExceptionParams → Except PyError (String × Option TaskId × Option String × Option String)
  | .missing => .ok ("unknown", Option.none, Option.none, Option.none)
  | .none => .error (.attributeError "'NoneType' object has no attribute 'get'")
  | .dictionary eventName taskId initArgs callArgs =>
      .ok (eventName.getD "unknown", taskId, initArgs, callArgs)
  | .unreadable text => .error (.attributeError text)

/-- The result made for an exception, unless reading `params` or making it raises. -/
def RaisedException.eventResult (exception : RaisedException) (id : ResultId) :
    Except PyError EventResult := do
  let (eventName, taskId, initArgs, callArgs) ← exception.params.read
  match exception.resultError with
  | some text => .error (.otherError text)
  | none =>
      return ⟨id, true, eventName, .value exception.text, taskId, initArgs, callArgs,
        exception.copyError⟩

/-- The result of a future, with the descriptor it asks to switch to. -/
def Outcome.result : Outcome → Except PyError (EventResult × Option Int)
  | .returned result =>
      match result.content with
      | .switchTask descriptor => .ok (result, some descriptor)
      | _ => .ok (result, none)
  | .switched descriptor result => .ok (result, some descriptor)
  | .raised exception id | .untestable _ exception id =>
      (exception.eventResult id).map fun result => (result, none)

def Outcome.exception? : Outcome → Option RaisedException
  | .raised exception _ | .untestable _ exception _ => some exception
  | .returned _ | .switched _ _ => none

/-- The future delivers a `StopProcessingError` that cancels the context. -/
def Outcome.stops (outcome : Outcome) : Bool :=
  outcome.exception?.any RaisedException.stopProcessing

/-- It has done so when the result for the exception is made: `params` are read before. -/
def Outcome.cancels (outcome : Outcome) : Bool :=
  outcome.exception?.any fun exception =>
    exception.stopProcessing && exception.params.read.toOption.isSome

/-- The future is recorded as an error. -/
def Outcome.isError : Outcome → Bool
  | .returned result | .switched _ result => result.error
  | .raised _ _ | .untestable _ _ _ => true

/-! ## Recording results -/

/-- What `process_executor_results` can raise. -/
inductive Interruption
  | switchTask (nextTaskDescriptor : Int) (descriptorConfigured : Bool)
  | error (error : PyError)
deriving DecidableEq, Repr

namespace EventExecutionContext

def cancel (context : EventExecutionContext) : EventExecutionContext :=
  { context with state := .cancelled }

def abort (context : EventExecutionContext) : EventExecutionContext :=
  { context with state := .aborted }

/-- Keep a result, and an error beside it when it is one, unless `as_dict` raises. -/
def record (context : EventExecutionContext) (result : EventResult) :
    EventExecutionContext × Option PyError :=
  if result.error then
    let context :=
      { context with executionResult := context.executionResult.add result.asDict.2 }
    match result.asDict.1 with
    | .error error => (context, some error)
    | .ok params =>
        ({ context with
            errors := context.errors ++ [⟨result.content, result.taskId, some params⟩] }, none)
  else
    ({ context with executionResult := context.executionResult.add result }, none)

/-- The last task of a parallel group is the one that is reached over `||` and
does not lead on over `||`. -/
def getLastTaskProfileInChain (heap : Heap) (context : EventExecutionContext) :
    Option TaskId :=
  match context.taskProfiles with
  | [profile] => some profile
  | profiles => profiles.find? fun profile =>
      heap.getPointerTypeToThisEvent profile = some (.pipe .parallelism) ∧
        (heap.get? profile).bind PipelineTask.onSuccessPipe ≠ some .parallelism

/-- A request to switch is raised. It cancels the context when the descriptor is
not configured for the last task. -/
def switchTo (heap : Heap) (context : EventExecutionContext) (descriptor : Int) :
    EventExecutionContext × Interruption :=
  match (context.getLastTaskProfileInChain heap).bind heap.get? with
  | none =>
      (context, .error (.attributeError "'NoneType' object has no attribute 'extra_config'"))
  | some task =>
      match descriptor.toNat?.bind task.extraConfig.getDescriptorConfig with
      | none => (context.cancel, .switchTask descriptor false)
      | some _ => (context, .switchTask descriptor true)

/-- One iteration of the loop over the finished futures. -/
def recordOutcome (heap : Heap) (context : EventExecutionContext) (outcome : Outcome) :
    EventExecutionContext × Option Interruption :=
  let context := if outcome.cancels then context.cancel else context
  match outcome.result with
  | .error error => (context, some (.error error))
  | .ok (result, switch) =>
      match context.record result with
      | (context, some error) => (context, some (.error error))
      | (context, none) =>
          match switch with
          | none => (context, none)
          | some descriptor =>
              let (context, interruption) := context.switchTo heap descriptor
              (context, some interruption)

def processExecutorResults (heap : Heap) (context : EventExecutionContext) :
    List Outcome → EventExecutionContext × Option Interruption
  | [] => (context, none)
  | outcome :: rest =>
      match context.recordOutcome heap outcome with
      | (context, none) => context.processExecutorResults heap rest
      | (context, some interruption) => (context, some interruption)

def getExecutionStateEvaluator (heap : Heap)
    (policies : String → EventExecutionEvaluationState) (context : EventExecutionContext) :
    Option EventExecutionEvaluationState :=
  ((context.getLastTaskProfileInChain heap).bind heap.get?).map fun task =>
    policies task.event

def executionFailed (heap : Heap) (policies : String → EventExecutionEvaluationState)
    (context : EventExecutionContext) : Except PyError Bool :=
  if context.state.isStopped then .ok true
  else
    match context.getExecutionStateEvaluator heap policies with
    | none => .error (.attributeError "'NoneType' object has no attribute 'get_event_klass'")
    | some policy =>
        .ok (policy.contextEvaluation context.executionResult context.errors .failure)

def executionSuccess (heap : Heap) (policies : String → EventExecutionEvaluationState)
    (context : EventExecutionContext) : Except PyError Bool :=
  if context.state.isStopped then .ok false
  else
    match context.getExecutionStateEvaluator heap policies with
    | none => .error (.attributeError "'NoneType' object has no attribute 'get_event_klass'")
    | some policy =>
        .ok (policy.contextEvaluation context.executionResult context.errors .success)

/-- An exception other than `SwitchTask` aborts the context. -/
def fail (context : EventExecutionContext) (text : String) : EventExecutionContext :=
  abort { context with errors := context.errors ++ [{ message := .value text }] }

end EventExecutionContext

def PyError.text : PyError → String
  | .indexError message | .syntaxError message | .yaccError message
  | .attributeError message | .valueError message | .taskSwitchingError message
  | .eventDone message | .otherError message => message
  | .stopIteration | .recursionError => ""

/-- The fields of a `SwitchTask` that `execute_task` reads. -/
structure SwitchRequest where
  nextTaskDescriptor : Int
  descriptorConfigured : Bool
deriving DecidableEq, Repr

/-- What `init_and_execute_events` can raise while it builds and submits the events. The
constructor of `SwitchTask` leaves `descriptor_configured` unset. -/
inductive SubmissionFailure
  | raised (text : String)
  | switchTask (nextTaskDescriptor : Int)
deriving DecidableEq, Repr

/-- `futures` is what `init_and_execute_events` does: it raises, or it submits the
events and their futures finish in the order of the list. -/
def EventExecutionContext.dispatch (heap : Heap)
    (futures : Except SubmissionFailure (List Outcome)) (context : EventExecutionContext) :
    EventExecutionContext × Option SwitchRequest :=
  let context := { context with state := .executing }
  match futures with
  | .error (.raised text) => (context.fail text, none)
  | .error (.switchTask descriptor) => (context, some ⟨descriptor, false⟩)
  | .ok outcomes =>
      match context.processExecutorResults heap outcomes with
      | (context, none) =>
          if context.state = .executing then ({ context with state := .finished }, none)
          else (context, none)
      | (context, some (.switchTask descriptor configured)) =>
          (context, some ⟨descriptor, configured⟩)
      | (context, some (.error error)) => (context.fail error.text, none)

end EventPipeline
