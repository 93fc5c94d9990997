import EventPipeline.Execution.Context

/-! # Recording one future

A future is recorded when its result can be made, and copied if it is an error. What ends the
recording early leaves at most a cancelled state and a result without its error.
-/

namespace EventPipeline

/-- What is recorded of a future, with the descriptor it asks to switch to. -/
def Outcome.receive (outcome : Outcome) : Except PyError (EventResult × Option Int) :=
  match outcome.result with
  | .error error => .error error
  | .ok (result, switch) =>
      if result.error then result.asDict.1.map fun copy => (copy, switch)
      else .ok (result, switch)

/-- The event of the future asks to switch to another task. -/
def Outcome.asksToSwitch (outcome : Outcome) : Bool :=
  match outcome.receive with
  | .ok (_, some _) => true
  | _ => false

theorem RaisedException.eventResult_ok {exception : RaisedException} {id : ResultId}
    {result : EventResult} (made : exception.eventResult id = .ok result) :
    exception.params.read.toOption.isSome = true ∧ exception.resultError = none ∧
      result.id = id ∧ result.error = true ∧ result.copyError = exception.copyError := by
  rw [RaisedException.eventResult] at made
  cases read : exception.params.read with
  | error error =>
      rw [read] at made
      cases made
  | ok fields =>
      rw [read] at made
      cases refused : exception.resultError with
      | some text =>
          simp only [refused] at made
          cases made
      | none =>
          simp only [refused] at made
          cases made
          exact ⟨rfl, rfl, rfl, rfl, rfl⟩

theorem RaisedException.content_eventResult {exception : RaisedException} {id : ResultId}
    {result : EventResult} (made : exception.eventResult id = .ok result) :
    result.content = .value exception.text := by
  rw [RaisedException.eventResult] at made
  cases read : exception.params.read with
  | error error =>
      rw [read] at made
      cases made
  | ok fields =>
      rw [read] at made
      cases refused : exception.resultError with
      | some text =>
          simp only [refused] at made
          cases made
      | none =>
          simp only [refused] at made
          cases made
          rfl

theorem RaisedException.eventResult_of_map {exception : RaisedException} {id : ResultId}
    {result : EventResult} {switch : Option Int}
    (made : (exception.eventResult id).map (fun result => (result, none)) =
      .ok (result, switch)) : exception.eventResult id = .ok result ∧ switch = none := by
  cases own : exception.eventResult id with
  | error error =>
      rw [own] at made
      cases made
  | ok other =>
      rw [own] at made
      cases made
      exact ⟨rfl, rfl⟩

theorem Outcome.cancels_of_result {outcome : Outcome} {result : EventResult}
    {switch : Option Int} (made : outcome.result = .ok (result, switch)) :
    outcome.cancels = outcome.stops := by
  have read : ∀ {exception : RaisedException} {id},
      (exception.eventResult id).map (fun result => (result, none)) = .ok (result, switch) →
      (exception.stopProcessing && exception.params.read.toOption.isSome) =
        exception.stopProcessing := by
    intro exception id made
    have ⟨own, _⟩ := RaisedException.eventResult_of_map made
    rw [(RaisedException.eventResult_ok own).1, Bool.and_true]
  cases outcome with
  | returned result => rfl
  | switched descriptor result => rfl
  | raised exception id => exact read made
  | untestable result exception id => exact read made

theorem Outcome.error_of_result {outcome : Outcome} {result : EventResult}
    {switch : Option Int} (made : outcome.result = .ok (result, switch)) :
    result.error = outcome.isError := by
  cases outcome with
  | returned delivered =>
      simp only [Outcome.result] at made
      split at made <;> cases made <;> rfl
  | switched descriptor delivered =>
      cases made
      rfl
  | raised exception id | untestable lost exception id =>
      have ⟨own, _⟩ := RaisedException.eventResult_of_map made
      exact (RaisedException.eventResult_ok own).2.2.2.1

/-- Only an event that returns or raises a request asks to switch: it does not stop. -/
theorem Outcome.stops_of_result {outcome : Outcome} {result : EventResult} {descriptor : Int}
    (made : outcome.result = .ok (result, some descriptor)) : outcome.stops = false := by
  cases outcome with
  | returned result => rfl
  | switched next result => rfl
  | raised exception id | untestable lost exception id =>
      have ⟨_, silent⟩ := RaisedException.eventResult_of_map made
      cases silent

section Received

variable {outcome : Outcome} {result : EventResult} {switch : Option Int}

theorem Outcome.result_of_receive (received : outcome.receive = .ok (result, switch)) :
    outcome.result = .ok (result, switch) ∧ (result.error = true → result.copyError = none) := by
  rw [Outcome.receive] at received
  cases made : outcome.result with
  | error error =>
      rw [made] at received
      cases received
  | ok answer =>
      obtain ⟨first, descriptor⟩ := answer
      rw [made] at received
      cases failed : first.error with
      | false =>
          simp only [failed, Bool.false_eq_true, if_false, Except.ok.injEq,
            Prod.mk.injEq] at received
          obtain ⟨rfl, rfl⟩ := received
          exact ⟨rfl, by simp [failed]⟩
      | true =>
          cases copyError : first.copyError with
          | some text =>
              simp only [failed, if_true, EventResult.asDict, copyError] at received
              cases received
          | none =>
              simp only [failed, if_true, EventResult.asDict, copyError] at received
              cases received
              exact ⟨rfl, fun _ => copyError⟩

theorem Outcome.receive_of_result (made : outcome.result = .ok (result, switch))
    (copies : result.error = true → result.copyError = none) :
    outcome.receive = .ok (result, switch) := by
  rw [Outcome.receive, made]
  cases failed : result.error with
  | false => simp only [failed, Bool.false_eq_true, if_false]
  | true =>
      simp only [failed, if_true, EventResult.asDict, copies failed]
      rfl

end Received

namespace EventExecutionContext

def recorded (context : EventExecutionContext) (result : EventResult) :
    EventExecutionContext :=
  { context with
    executionResult :=
      context.executionResult.add (if result.error then result.asDict.2 else result)
    errors := context.errors ++
      if result.error then [⟨result.content, result.taskId, some result⟩] else [] }

theorem record_of_copies (context : EventExecutionContext) {result : EventResult}
    (copies : result.error = true → result.copyError = none) :
    context.record result = (context.recorded result, none) := by
  rw [record, recorded]
  cases failed : result.error with
  | false => simp
  | true => simp [EventResult.asDict, copies failed]

section Received

variable {heap : Heap} {context : EventExecutionContext} {outcome : Outcome}
  {result : EventResult} {switch : Option Int}

/-- A stop has cancelled the context before its result is recorded. -/
def stoppedBy (context : EventExecutionContext) (outcome : Outcome) : EventExecutionContext :=
  if outcome.stops then context.cancel else context

theorem recordOutcome_of_receive (received : outcome.receive = .ok (result, switch)) :
    context.recordOutcome heap outcome =
      match switch with
      | none => ((context.stoppedBy outcome).recorded result, none)
      | some descriptor =>
          ((((context.stoppedBy outcome).recorded result).switchTo heap descriptor).1,
            some (((context.stoppedBy outcome).recorded result).switchTo heap descriptor).2) := by
  obtain ⟨made, copies⟩ := Outcome.result_of_receive received
  rw [recordOutcome, Outcome.cancels_of_result made, made]
  simp only [record_of_copies _ copies, stoppedBy]
  cases switch <;> rfl

/-- What is left of the context when the loop over the futures ends with an error. -/
structure Interrupted (before after : EventExecutionContext) (outcome : Outcome) : Prop where
  taskProfiles : after.taskProfiles = before.taskProfiles
  previousContext : after.previousContext = before.previousContext
  nextContext : after.nextContext = before.nextContext
  state : after.state = if outcome.cancels then .cancelled else before.state
  errors : after.errors = before.errors
  executionResult : after.executionResult =
    match outcome.result with
    | .error _ => before.executionResult
    | .ok (result, _) => before.executionResult.add result.asDict.2

theorem recordOutcome_of_refused {error : PyError} (refused : outcome.receive = .error error) :
    (context.recordOutcome heap outcome).2 = some (.error error) ∧
      Interrupted context (context.recordOutcome heap outcome).1 outcome := by
  rw [Outcome.receive] at refused
  cases made : outcome.result with
  | error reason =>
      rw [made] at refused
      cases refused
      simp only [recordOutcome, made]
      refine ⟨trivial, ?_⟩
      cases cancels : outcome.cancels <;>
        exact ⟨rfl, rfl, rfl, by rw [cancels]; rfl, rfl, by rw [made]; rfl⟩
  | ok answer =>
      obtain ⟨result, switch⟩ := answer
      rw [made] at refused
      cases failed : result.error with
      | false =>
          simp only [failed, Bool.false_eq_true, if_false] at refused
          cases refused
      | true =>
          simp only [failed, if_true] at refused
          cases copied : result.asDict.1 with
          | ok copy =>
              rw [copied] at refused
              cases refused
          | error reason =>
              rw [copied] at refused
              cases refused
              simp only [recordOutcome, made, record, failed, if_true, copied]
              refine ⟨trivial, ?_⟩
              cases cancels : outcome.cancels <;>
                exact ⟨rfl, rfl, rfl, by rw [cancels]; rfl, rfl, by rw [made]; rfl⟩

end Received

end EventExecutionContext

end EventPipeline
