import EventPipeline.Execution.Context

/-! # Calling an event

An event is called by an executor. It may be bypassed; otherwise `process` is tried, again and
again when the event has a retry policy, and `on_success` or `on_failure` makes a result of how
that ends or raises `StopProcessingError`, as the flags of the event say. Every result is saved in
the backend of the results when it is made, which may raise.
-/

namespace EventPipeline

/-- The exceptions that are told apart around an event. `message` is the text of the exception,
and the fields of the last constructor are those that a context reads. -/
inductive EventException
  | switchTask (message : String) (nextTaskDescriptor : Int) (result : EventResult)
  | maxRetry (message : String) (exception : Option EventException)
  | other (className message : String) (fields : RaisedException)

/-- The second value of what `process` returns. -/
inductive ExecutionResult
  | none
  | value (text : String)
  | exception (exception : EventException)

/-- An exception that making a result raises: the backend of the results cannot be imported or
connected to, or it does not take the result. -/
structure ResultError where
  className : String
  message : String
  fields : RaisedException
deriving DecidableEq, Repr

/-- How one call of `process` ends. What it returns may be no pair, so that unpacking it
raises, or a pair whose status raises when it is tested for its truth. -/
inductive Attempt
  | returned (status : Bool) (result : ExecutionResult)
  | malformed (exception : EventException)
  | untestable (exception : EventException)
  | raised (exception : EventException)

structure Argument where
  text : String
  truthy : Bool
deriving DecidableEq, Repr

abbrev CallKwargs := List (String × Argument)

structure RetryPolicy where
  maxAttempts : Int
  retryOnExceptions : List String := []
deriving DecidableEq, Repr

/-- An event: its class, its flags, and what the methods do that its class defines. `process` is
given the number of calls before. `resultId` is the identity of the result that it makes. -/
structure EventBase where
  name : String
  taskId : TaskId
  stopOnException : Bool := false
  stopOnSuccess : Bool := false
  stopOnError : Bool := false
  runBypassEventChecks : Bool := false
  retryPolicy : Option RetryPolicy := none
  canBypassCurrentEvent : Except EventException (Bool × String) := .ok (false, "None")
  process : CallKwargs → Nat → Attempt
  initArgs : Option String := none
  callArgs : CallKwargs → Option String := fun _ => none
  resultId : ResultId := 0
  resultError : EventResult → Option ResultError := fun _ => none
  /-- What copying a result with this content raises. -/
  copyError : CallKwargs → Content → Option String := fun _ _ => none

namespace EventException

def className : EventException → String
  | .switchTask _ _ _ => "SwitchTask"
  | .maxRetry _ _ => "MaxRetryError"
  | .other className _ _ => className

def message : EventException → String
  | .switchTask message _ _ | .maxRetry message _ | .other _ message _ => message

def content : EventException → Content
  | .switchTask _ nextTaskDescriptor _ => .switchTask nextTaskDescriptor
  | .maxRetry message _ | .other _ message _ => .exception message

/-- An exception that is not one of this library's: it has no `params`. -/
def builtin (className message : String) : EventException :=
  .other className message { stopProcessing := false, params := .missing, text := message }

def ofResult (error : ResultError) : EventException :=
  .other error.className error.message error.fields

end EventException

namespace ExecutionResult

def content : ExecutionResult → Content
  | .none => .none
  | .value text => .value text
  | .exception error => error.content

def text : ExecutionResult → String
  | .none => "None"
  | .value text => text
  | .exception error => error.message

end ExecutionResult

/-! ## Retries -/

/-- `is_retryable` of an event that has a policy. -/
def RetryPolicy.isRetryable (policy : RetryPolicy) (exception : EventException) : Bool :=
  policy.retryOnExceptions.isEmpty || policy.retryOnExceptions.contains exception.className

def exhausted (attempt : Nat) (exception : Option EventException) : EventException :=
  let reason := (exception.map EventException.message).getD "None"
  .maxRetry ("Max retries exceeded: " ++ toString attempt ++
    " (Caused by 'Retryable event is already exhausted: actual error:" ++ reason ++ "')") exception

/-- The loop of `retry`. When `process` raises `MaxRetryError` the loop is left and `retry`
returns `None`, which cannot be unpacked. -/
def retryLoop (policy : RetryPolicy) (process : Nat → Attempt) (retryCount : Nat)
    (exceptionCausingRetry : Option EventException) : Attempt :=
  if policy.maxAttempts ≤ retryCount then
    .raised (exhausted retryCount exceptionCausingRetry)
  else
    match process retryCount with
    | .raised (.maxRetry _ _) =>
        .malformed (.builtin "TypeError" "cannot unpack non-iterable NoneType object")
    | .raised exception =>
        if policy.isRetryable exception then
          retryLoop policy process (retryCount + 1) (exceptionCausingRetry <|> some exception)
        else .raised exception
    | attempt => attempt
termination_by (policy.maxAttempts - retryCount).toNat

namespace EventBase

def retry (event : EventBase) (kwargs : CallKwargs) : Attempt :=
  match event.retryPolicy with
  | none => event.process kwargs 0
  | some policy => retryLoop policy (event.process kwargs) 0 none

/-! ## The call -/

def resultWith (event : EventBase) (kwargs : CallKwargs) (error : Bool) (content : Content) :
    EventResult where
  id := event.resultId
  error := error
  eventName := event.name
  content := content
  taskId := some event.taskId
  initParams := event.initArgs
  callParams := event.callArgs kwargs
  copyError := event.copyError kwargs content

def eventResult (event : EventBase) (kwargs : CallKwargs) (error : Bool)
    (content : ExecutionResult) : Except EventException EventResult :=
  match event.resultError (event.resultWith kwargs error content.content) with
  | some refused => .error (.ofResult refused)
  | none => .ok (event.resultWith kwargs error content.content)

/-- The context makes a result of the exception in its turn, with the same backend. -/
def stopProcessingError (event : EventBase) (kwargs : CallKwargs) (message : String) :
    EventException :=
  .other "StopProcessingError" message
    { stopProcessing := true
      params := .dictionary (some event.name) (some event.taskId) event.initArgs
        (event.callArgs kwargs)
      text := message
      resultError := (event.resultError (event.resultWith kwargs true (.value message))).map
        ResultError.message
      copyError := event.copyError kwargs (.value message) }

def onSuccess (event : EventBase) (kwargs : CallKwargs) (executionResult : ExecutionResult) :
    Except EventException EventResult :=
  if event.stopOnSuccess then .error (event.stopProcessingError kwargs executionResult.text)
  else event.eventResult kwargs false executionResult

/-- `on_failure` behind its look at exceptions. -/
def failWith (event : EventBase) (kwargs : CallKwargs) (executionResult : ExecutionResult) :
    Except EventException EventResult :=
  if event.stopOnError then .error (event.stopProcessingError kwargs executionResult.text)
  else event.eventResult kwargs true executionResult

def onFailure (event : EventBase) (kwargs : CallKwargs) :
    ExecutionResult → Except EventException EventResult
  | .exception exception =>
      if event.stopOnException then
        .error (event.stopProcessingError kwargs
          ("Error occurred while processing event '" ++ event.name ++ "'"))
      else
        match exception with
        | .maxRetry _ none => event.failWith kwargs .none
        | .maxRetry _ (some cause) => event.failWith kwargs (.exception cause)
        | other => event.failWith kwargs (.exception other)
  | executionResult => event.failWith kwargs executionResult

/-- `__call__` when the event is not bypassed. -/
def execute (event : EventBase) (kwargs : CallKwargs) : Except EventException EventResult :=
  match event.retry kwargs with
  | .returned true executionResult => event.onSuccess kwargs executionResult
  | .returned false executionResult => event.onFailure kwargs executionResult
  | .malformed exception | .raised exception => event.onFailure kwargs (.exception exception)
  | .untestable exception => .error exception

def call (event : EventBase) (kwargs : CallKwargs) : Except EventException EventResult :=
  if event.runBypassEventChecks then
    match event.canBypassCurrentEvent with
    | .error exception => .error exception
    | .ok (true, data) =>
        event.onSuccess kwargs (.value
          ("\x7b'status': 1, 'skip_event_execution': True, 'data': " ++ data ++ "\x7d"))
    | .ok (false, _) => event.execute kwargs
  else event.execute kwargs

/-! ## How a call ends -/

/-- What the handlers of an event end with: a result of the event, or an exception that is
neither a request to switch nor an exhausted retry. -/
def Ends (event : EventBase) (kwargs : CallKwargs) :
    Except EventException EventResult → Prop
  | .ok result => ∃ error content, result = event.resultWith kwargs error content
  | .error exception => ∃ className message fields, exception = .other className message fields

theorem Ends.result {event : EventBase} {kwargs : CallKwargs} {result : EventResult}
    {ended : Except EventException EventResult} (ends : event.Ends kwargs ended)
    (same : ended = .ok result) :
    ∃ error content, result = event.resultWith kwargs error content := by
  rw [same] at ends
  exact ends

theorem ends_eventResult (event : EventBase) (kwargs : CallKwargs) (error : Bool)
    (content : ExecutionResult) : event.Ends kwargs (event.eventResult kwargs error content) := by
  unfold eventResult
  split
  · exact ⟨_, _, _, rfl⟩
  · exact ⟨_, _, rfl⟩

theorem ends_onSuccess (event : EventBase) (kwargs : CallKwargs) (result : ExecutionResult) :
    event.Ends kwargs (event.onSuccess kwargs result) := by
  unfold onSuccess
  split
  · exact ⟨_, _, _, rfl⟩
  · exact event.ends_eventResult kwargs false result

theorem ends_failWith (event : EventBase) (kwargs : CallKwargs) (result : ExecutionResult) :
    event.Ends kwargs (event.failWith kwargs result) := by
  unfold failWith
  split
  · exact ⟨_, _, _, rfl⟩
  · exact event.ends_eventResult kwargs true result

theorem ends_onFailure (event : EventBase) (kwargs : CallKwargs) (result : ExecutionResult) :
    event.Ends kwargs (event.onFailure kwargs result) := by
  cases result with
  | none | value text => exact event.ends_failWith kwargs _
  | exception error =>
      simp only [onFailure]
      split
      · exact ⟨_, _, _, rfl⟩
      · split <;> exact event.ends_failWith kwargs _

/-- What the check of an event raises. It does not depend on the arguments of the call. -/
def bypassError (event : EventBase) : Option EventException :=
  if event.runBypassEventChecks then
    match event.canBypassCurrentEvent with
    | .error exception => some exception
    | .ok _ => none
  else none

theorem call_of_bypassError {event : EventBase} {exception : EventException}
    (raised : event.bypassError = some exception) (kwargs : CallKwargs) :
    event.call kwargs = .error exception := by
  unfold bypassError at raised
  unfold call
  split at raised
  · rename_i checks
    rw [if_pos checks]
    split at raised
    · rename_i found
      cases raised
      rw [found]
    · cases raised
  · cases raised

theorem result_of_call {event : EventBase} {kwargs : CallKwargs} {result : EventResult}
    (called : event.call kwargs = .ok result) :
    ∃ error content, result = event.resultWith kwargs error content := by
  have executed : event.execute kwargs = .ok result →
      ∃ error content, result = event.resultWith kwargs error content := by
    intro called
    unfold execute at called
    split at called
    · exact (event.ends_onSuccess kwargs _).result called
    · exact (event.ends_onFailure kwargs _).result called
    · exact (event.ends_onFailure kwargs _).result called
    · exact (event.ends_onFailure kwargs _).result called
    · cases called
  unfold call at called
  split at called
  · split at called
    · cases called
    · exact (event.ends_onSuccess kwargs _).result called
    · exact executed called
  · exact executed called

end EventBase

end EventPipeline
