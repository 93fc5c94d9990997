import EventPipeline.Task.PipelineTask

/-! # Results of events

The results that a context collects from its futures, the errors it keeps
beside them, and the policies by which both decide whether the context failed.
-/

namespace EventPipeline

abbrev ResultId := Nat

/-- What the `content` of a result can be, as far as it is told apart: no
object, an object that is no exception, an exception, or a `SwitchTask`. -/
inductive Content
  | none
  | value (text : String)
  | exception (text : String)
  | switchTask (nextTaskDescriptor : Int)
deriving DecidableEq, Repr

def Content.isException : Content → Bool
  | .none | .value _ => false
  | .exception _ | .switchTask _ => true

structure EventResult where
  id : ResultId
  error : Bool
  eventName : String
  content : Content
  taskId : Option TaskId
  initParams : Option String
  callParams : Option String
  /-- The exception that copying the fields raises, such as an argument that is an
  opened file. -/
  copyError : Option String
deriving DecidableEq, Repr

/-- The fields as a dictionary, unless copying them raises, and the result itself
afterwards: it loses a content that is an exception. -/
def EventResult.asDict (result : EventResult) : Except PyError EventResult × EventResult :=
  (match result.copyError with
    | some text => .error (.otherError text)
    | none => .ok result,
    if result.content.isException then { result with content := .none } else result)

/-- `_content`: results by identity. -/
abbrev ResultSet := List (ResultId × EventResult)

namespace ResultSet

def add (results : ResultSet) (result : EventResult) : ResultSet :=
  OrderedDict.insert result.id result results

theorem length_add_pos (results : ResultSet) (result : EventResult) :
    0 < (results.add result).length := by
  cases results with
  | nil => simp [add, OrderedDict.insert]
  | cons entry rest =>
      simp only [add, OrderedDict.insert]
      split <;> simp

end ResultSet

/-- The fields of a `PipelineError`. -/
structure PipelineError where
  message : Content
  code : Option TaskId := none
  params : Option EventResult := none
deriving DecidableEq, Repr

inductive EvaluationContext
  | success
  | failure
deriving DecidableEq, Repr

inductive EventExecutionEvaluationState
  | successOnAllEventsSuccess
  | failureForPartialError
  | successForPartialSuccess
  | failureForAllEventsFailure
deriving DecidableEq, Repr

namespace EventExecutionEvaluationState

def evaluate (policy : EventExecutionEvaluationState) (result : ResultSet)
    (errors : List PipelineError) : Bool :=
  let hasSuccess : Bool := 0 < result.length
  let hasError : Bool := 0 < errors.length
  match policy with
  | .successOnAllEventsSuccess => !hasError && hasSuccess
  | .successForPartialSuccess => hasSuccess
  | .failureForPartialError => hasError
  | .failureForAllEventsFailure => !hasSuccess && hasError

def contextEvaluation (policy : EventExecutionEvaluationState) (result : ResultSet)
    (errors : List PipelineError) (context : EvaluationContext) : Bool :=
  let status := policy.evaluate result errors
  match context, policy with
  | .success, .successOnAllEventsSuccess | .success, .successForPartialSuccess => status
  | .success, _ => !status
  | .failure, .failureForAllEventsFailure | .failure, .failureForPartialError => status
  | .failure, _ => !status

theorem contextEvaluation_success (policy : EventExecutionEvaluationState)
    (result : ResultSet) (errors : List PipelineError) :
    policy.contextEvaluation result errors .success =
      !policy.contextEvaluation result errors .failure := by
  cases policy <;> simp [contextEvaluation]

/-- When anything has been recorded, errors decide under two of the policies
and the other two never report a failure. -/
theorem contextEvaluation_failure (policy : EventExecutionEvaluationState)
    {result : ResultSet} (recorded : 0 < result.length) (errors : List PipelineError) :
    policy.contextEvaluation result errors .failure =
      match policy with
      | .successOnAllEventsSuccess | .failureForPartialError => decide (0 < errors.length)
      | .successForPartialSuccess | .failureForAllEventsFailure => false := by
  cases policy <;> simp [contextEvaluation, evaluate, recorded]

end EventExecutionEvaluationState

end EventPipeline
