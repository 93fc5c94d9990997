import EventPipeline.Execution.CallOutcome
import EventPipeline.Executors.Transparency

/-! # Events that go to another task

`goto` makes a result and raises it with `SwitchTask`. The exception passes through `retry`, which
retries on it like on any other, and through `__call__`, which makes a failure of it: the result
that `goto` has made is lost, and the new one holds the exception.
-/

namespace EventPipeline

/-- The arguments of `goto`, with the reason as `repr` shows it. -/
structure GotoRequest where
  descriptor : Nat
  resultStatus : Bool
  result : ExecutionResult
  reason : String := "'manual'"
  executeOnEventMethod : Bool := true

namespace EventBase

variable {Double : Type} (timing : RetryTiming Double) (event : EventBase) (kwargs : CallKwargs)

/-- The result that `goto` makes, unless a flag of the event stops the processing. -/
def gotoResult (request : GotoRequest) : Except EventException EventResult :=
  if request.executeOnEventMethod then
    if request.resultStatus then event.onSuccess kwargs request.result
    else event.onFailure kwargs request.result
  else event.eventResult kwargs (!request.resultStatus) request.result

/-- `goto`, which always raises. -/
def goto (request : GotoRequest) : EventException :=
  match event.gotoResult kwargs request with
  | .error exception => exception
  | .ok result =>
      .switchTask ("Task switched to " ++ toString request.descriptor ++ " (Caused by " ++
        request.reason ++ ")") request.descriptor result

/-- How often `process` is called when the event is not bypassed. -/
def processCalls : Nat :=
  match event.retryPolicy with
  | none => 1
  | some policy =>
      (retryFresh timing.clock (timing.policy policy) fun attempt =>
        (event.process kwargs attempt).outcome).calls

/-- What the future of the event is to its context. -/
def delivers : Outcome :=
  match event.callTimed timing kwargs with
  | .ok result => .returned result
  | .error exception => exception.outcome event.resultId

/-- The event is not bypassed, and its first attempt calls `goto`. A policy retries on every
exception. -/
structure GoesTo (request : GotoRequest) : Prop where
  attempts : event.runBypassEventChecks = false ∨
    ∃ data, event.canBypassCurrentEvent = .ok (false, data)
  policy : ∀ policy, event.retryPolicy = some policy →
    policy.retryOnExceptions = [] ∧ 1 ≤ policy.maxAttempts
  process : event.process kwargs 0 = .raised (event.goto kwargs request)

def AttemptsOnce : Prop :=
  ∀ policy, event.retryPolicy = some policy → policy.maxAttempts = 1

end EventBase

/-! ## The exception -/

namespace EventBase

variable {event : EventBase} {kwargs : CallKwargs} {request : GotoRequest}

theorem ends_gotoResult (event : EventBase) (kwargs : CallKwargs) (request : GotoRequest) :
    event.Ends kwargs (event.gotoResult kwargs request) := by
  rw [gotoResult]
  split
  · split
    · exact event.ends_onSuccess kwargs _
    · exact event.ends_onFailure kwargs _
  · exact event.ends_eventResult kwargs _ _

theorem goto_cases (event : EventBase) (kwargs : CallKwargs) (request : GotoRequest) :
    (∃ message result,
      event.goto kwargs request = .switchTask message request.descriptor result) ∨
    ∃ className message fields, event.goto kwargs request = .other className message fields := by
  have ends := event.ends_gotoResult kwargs request
  rw [goto]
  cases made : event.gotoResult kwargs request with
  | error exception =>
      rw [made] at ends
      exact .inr ends
  | ok result => exact .inl ⟨_, _, rfl⟩

theorem goto_ne_maxRetry (event : EventBase) (kwargs : CallKwargs) (request : GotoRequest)
    (message : String) (inner : Option EventException) :
    event.goto kwargs request ≠ .maxRetry message inner := by
  rcases event.goto_cases kwargs request with ⟨_, _, raised⟩ | ⟨_, _, _, raised⟩
  · rw [raised]
    nofun
  · rw [raised]
    nofun

/-- What a failure hands over: `on_failure` replaces a `MaxRetryError` by its cause. -/
def handed (request : GotoRequest) : ExecutionResult :=
  if request.executeOnEventMethod then (FinalOutcome.failed request.result).result
  else request.result

theorem gotoResult_of_failure (failed : request.resultStatus = false)
    (calm : event.stopOnException = false) (quiet : event.stopOnError = false) :
    event.gotoResult kwargs request = event.eventResult kwargs true (handed request) := by
  rw [gotoResult, handed, failed]
  split
  · obtain ⟨message, ended⟩ := event.onFailure_failed kwargs request.result
    have continues : (FinalOutcome.failed request.result).stopsAt event = false := by
      rw [FinalOutcome.stopsAt.eq_def]
      cases request.result <;> simp [calm, quiet]
    rw [endWith_of_testable event kwargs (by rintro exception ⟨⟩),
      if_neg (by simp [continues])] at ended
    exact ended
  · rfl

theorem unwrapped_goto (event : EventBase) (kwargs : CallKwargs) (request : GotoRequest) :
    FinalOutcome.unwrapped (event.goto kwargs request) =
      .exception (event.goto kwargs request) := by
  cases raised : event.goto kwargs request with
  | switchTask message descriptor result => rfl
  | maxRetry message inner => exact absurd raised (event.goto_ne_maxRetry kwargs request _ _)
  | other className message fields => rfl

end EventBase

/-! ## The attempts -/

section Attempts

variable {Double : Type} {timing : RetryTiming Double}

theorem sleepForBackoff_first {clock : BackoffClock Double}
    (zero : clock.lessEq (.int 0) (.int 0) = true) (policy : BackoffPolicy Double) :
    policy.sleepForBackoff clock 1 = .ok (.int 0) := by
  rw [BackoffPolicy.sleepForBackoff, BackoffPolicy.getBackoffTime, if_pos (Nat.le_refl 1)]
  simp only [bind, Except.bind, zero, if_true]
  rfl

theorem calls_pos {Value : Type} {clock : BackoffClock Double} {policy : BackoffPolicy Double}
    {process : Nat → Except EventException Value} {retryCount : Nat}
    {cause : Option EventException} (left : retryCount < policy.maxAttempts) :
    0 < (retryTrace clock policy process retryCount cause).calls := by
  rw [retryTrace, if_neg (by omega)]
  split
  · exact Nat.one_pos
  · exact Nat.one_pos
  · split
    · split
      · exact Nat.one_pos
      · exact Nat.succ_pos _
    · exact Nat.one_pos

namespace EventBase

variable {event : EventBase} {kwargs : CallKwargs} {request : GotoRequest}

theorem GoesTo.continues (goes : event.GoesTo kwargs request)
    (zero : timing.clock.lessEq (.int 0) (.int 0) = true) {policy : RetryPolicy}
    (set : event.retryPolicy = some policy) :
    Continues timing policy (event.process kwargs) 0 := by
  refine ⟨_, goes.process, event.goto_ne_maxRetry kwargs request, ?_, .int 0,
    sleepForBackoff_first zero _⟩
  rw [RetryPolicy.isRetryable, (goes.policy policy set).1]
  rfl

/-- `goto` is not followed by another attempt exactly when the policy allows no other. -/
theorem GoesTo.processCalls_eq_one_iff (goes : event.GoesTo kwargs request)
    (zero : timing.clock.lessEq (.int 0) (.int 0) = true) :
    event.processCalls timing kwargs = 1 ↔ event.AttemptsOnce := by
  rw [processCalls, AttemptsOnce]
  cases set : event.retryPolicy with
  | none => exact iff_of_true rfl nofun
  | some policy =>
      obtain ⟨exception, raised, plain, retries, backoff, slept⟩ := goes.continues zero set
      have positive : (0 : Nat) < (timing.policy policy).maxAttempts :=
        (goes.policy policy set).2
      have outcome : (event.process kwargs 0).outcome = .error exception := by rw [raised]; rfl
      have unrolled := @retryTrace_slept Double Attempt timing.clock (timing.policy policy)
        (fun attempt => (event.process kwargs attempt).outcome) 0 none positive exception outcome
        plain retries backoff slept
      simp only [Option.some_inj, forall_eq', retryFresh, unrolled]
      constructor
      · intro single
        by_contra several
        have left : ((0 + 1 : Nat) : Int) < (timing.policy policy).maxAttempts := by
          have allowed := (goes.policy policy set).2
          have same : (timing.policy policy).maxAttempts = policy.maxAttempts := rfl
          omega
        have more := @calls_pos Double Attempt timing.clock (timing.policy policy)
          (fun attempt => (event.process kwargs attempt).outcome) (0 + 1)
          (none <|> some exception) left
        omega
      · intro once
        have spent : (timing.policy policy).maxAttempts ≤ ((0 + 1 : Nat) : Int) := by
          have same : (timing.policy policy).maxAttempts = policy.maxAttempts := rfl
          omega
        rw [retryTrace_exhausted spent]

theorem GoesTo.callTimed_eq (goes : event.GoesTo kwargs request)
    (zero : timing.clock.lessEq (.int 0) (.int 0) = true) (once : event.AttemptsOnce) :
    ∃ message, event.callTimed timing kwargs =
      if event.stopOnException || event.stopOnError then
        .error (event.stopProcessingError kwargs message)
      else event.eventResult kwargs true (.exception (event.goto kwargs request)) := by
  cases set : event.retryPolicy with
  | none =>
      have ends : event.EndsWith timing kwargs (.raised (event.goto kwargs request)) := by
        have single := @AttemptsEndWith.once Double timing event kwargs set
        rw [goes.process] at single
        exact .attempted goes.attempts single
      obtain ⟨message, ended⟩ := event.callTimed_of_endsWith timing kwargs ends
      refine ⟨message, ended.trans ?_⟩
      rw [endWith_of_testable event kwargs (by rintro exception ⟨⟩)]
      simp only [made, FinalOutcome.result, event.unwrapped_goto]
      rfl
  | some policy =>
      have one := once policy set
      have ends : event.EndsWith timing kwargs
          (.exhausted (some (event.goto kwargs request))) := by
        apply EndsWith.attempted goes.attempts
        apply AttemptsEndWith.exhausted set ?_ (goes.policy policy set).2 goes.process
        intro number allowed
        obtain rfl : number = 0 := by omega
        exact goes.continues zero set
      obtain ⟨message, ended⟩ := event.callTimed_of_endsWith timing kwargs ends
      exact ⟨message, ended⟩

def stopsAtFailure (event : EventBase) : Bool :=
  event.stopOnException || event.stopOnError

theorem GoesTo.delivers_of_stops (goes : event.GoesTo kwargs request)
    (zero : timing.clock.lessEq (.int 0) (.int 0) = true) (once : event.AttemptsOnce)
    (stops : event.stopsAtFailure = true) :
    ∃ message, event.delivers timing kwargs =
      (event.stopProcessingError kwargs message).outcome event.resultId := by
  obtain ⟨message, called⟩ := goes.callTimed_eq zero once
  rw [stopsAtFailure] at stops
  rw [if_pos stops] at called
  exact ⟨message, by rw [delivers, called]⟩

theorem GoesTo.delivers_of_quiet (goes : event.GoesTo kwargs request)
    (zero : timing.clock.lessEq (.int 0) (.int 0) = true) (once : event.AttemptsOnce)
    (quiet : event.stopsAtFailure = false) :
    event.delivers timing kwargs =
      match event.resultError
        (event.resultWith kwargs true (event.goto kwargs request).content) with
      | some refused => .raised refused.fields event.resultId
      | none => .returned (event.resultWith kwargs true (event.goto kwargs request).content) := by
  obtain ⟨message, called⟩ := goes.callTimed_eq zero once
  rw [stopsAtFailure] at quiet
  rw [if_neg (by rw [quiet]; exact Bool.false_ne_true)] at called
  rw [delivers, called, eventResult]
  simp only [ExecutionResult.content]
  cases event.resultError (event.resultWith kwargs true (event.goto kwargs request).content) <;>
    rfl

end EventBase

end Attempts

end EventPipeline
