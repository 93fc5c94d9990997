import EventPipeline.Execution.RetryTrace
import Mathlib.Data.Nat.Find

/-! # How a call of an event ends

The call of an event with the back-offs of its retries. How it ends is determined by the flags of
the event, by how its attempts end and by the backend that saves its result. A failure that is an
exception counts as an exception even when `process` returns it, and `MaxRetryError` is replaced by
the exception that caused it.
-/

namespace EventPipeline

/-- The fields of the retry policy of an event that decide its back-offs, and the clock. -/
structure RetryTiming (Double : Type) where
  clock : BackoffClock Double
  backoffFactor : PyNumber Double
  maxBackoff : PyNumber Double

def RetryTiming.policy {Double : Type} (timing : RetryTiming Double) (policy : RetryPolicy) :
    BackoffPolicy Double :=
  ⟨policy, timing.backoffFactor, timing.maxBackoff⟩

/-- How the attempts of an event end. `exhausted` holds the first exception. -/
inductive FinalOutcome
  | bypassed (data : String)
  | succeeded (result : ExecutionResult)
  | failed (result : ExecutionResult)
  | raised (exception : EventException)
  | exhausted (first : Option EventException)
  | untestable (exception : EventException)

/-- What `process` returns cannot be unpacked, or it is a success or a failure. -/
def FinalOutcome.ofAttempt : Attempt → FinalOutcome
  | .returned true result => .succeeded result
  | .returned false result => .failed result
  | .malformed exception | .raised exception => .raised exception
  | .untestable exception => .untestable exception

def FinalOutcome.ofEnding : RetryEnd Attempt → FinalOutcome
  | .returned attempt => .ofAttempt attempt
  | .returnedNone => .raised (.builtin "TypeError" "cannot unpack non-iterable NoneType object")
  | .raised exception => .raised exception
  | .maxRetryError _ exception => .exhausted exception

namespace EventBase

variable {Double : Type} (timing : RetryTiming Double) (event : EventBase) (kwargs : CallKwargs)

/-- `retry` with its back-offs. -/
def retryTimed : Attempt :=
  match event.retryPolicy with
  | none => event.process kwargs 0
  | some policy =>
      (retryFresh timing.clock (timing.policy policy) fun attempt =>
        (event.process kwargs attempt).outcome).attempt

/-- What `__call__` makes of the attempts. -/
def conclude : Attempt → Except EventException EventResult
  | .returned true executionResult => event.onSuccess kwargs executionResult
  | .returned false executionResult => event.onFailure kwargs executionResult
  | .malformed exception | .raised exception => event.onFailure kwargs (.exception exception)
  | .untestable exception => .error exception

def skipped (data : String) : ExecutionResult :=
  .value ("\x7b'status': 1, 'skip_event_execution': True, 'data': " ++ data ++ "\x7d")

/-- `__call__` with the back-offs of the retries. -/
def callTimed : Except EventException EventResult :=
  if event.runBypassEventChecks then
    match event.canBypassCurrentEvent with
    | .error exception => .error exception
    | .ok (true, data) => event.onSuccess kwargs (skipped data)
    | .ok (false, _) => event.conclude kwargs (event.retryTimed timing kwargs)
  else event.conclude kwargs (event.retryTimed timing kwargs)

/-- When every back-off is accepted, this is the call without back-offs. -/
theorem callTimed_eq_call
    (accepts : ∀ policy, event.retryPolicy = some policy →
      ∀ attempt, (timing.policy policy).Accepts timing.clock attempt) :
    event.callTimed timing kwargs = event.call kwargs := by
  have retried : event.retryTimed timing kwargs = event.retry kwargs := by
    rw [retryTimed, retry]
    cases declared : event.retryPolicy with
    | none => rfl
    | some policy =>
        exact attempt_retryTrace (accepts policy declared) (event.process kwargs) 0 none
  have executed : event.conclude kwargs (event.retryTimed timing kwargs) =
      event.execute kwargs := by
    rw [retried, execute]
    cases event.retry kwargs with
    | returned status result => cases status <;> rfl
    | malformed exception | raised exception | untestable exception => rfl
  rw [callTimed, call, executed]
  rfl

/-! ## The outcome that decides -/

def attemptsEnd : FinalOutcome :=
  match event.retryPolicy with
  | none => .ofAttempt (event.process kwargs 0)
  | some policy =>
      .ofEnding (retryFresh timing.clock (timing.policy policy) fun attempt =>
        (event.process kwargs attempt).outcome).ending

def finalOutcome : Except EventException FinalOutcome :=
  if event.runBypassEventChecks then
    match event.canBypassCurrentEvent with
    | .error exception => .error exception
    | .ok (true, data) => .ok (.bypassed data)
    | .ok (false, _) => .ok (event.attemptsEnd timing kwargs)
  else .ok (event.attemptsEnd timing kwargs)

end EventBase

namespace FinalOutcome

def isSuccess : FinalOutcome → Bool
  | .bypassed _ | .succeeded _ => true
  | .failed _ | .raised _ | .exhausted _ | .untestable _ => false

def stopsAt (event : EventBase) : FinalOutcome → Bool
  | .bypassed _ | .succeeded _ => event.stopOnSuccess
  | .failed (.exception _) | .raised _ | .exhausted _ =>
      event.stopOnException || event.stopOnError
  | .failed _ => event.stopOnError
  | .untestable _ => false

/-- `MaxRetryError` stands for the exception that caused it. -/
def unwrapped : EventException → ExecutionResult
  | .maxRetry _ none => .none
  | .maxRetry _ (some cause) => .exception cause
  | .switchTask message descriptor result => .exception (.switchTask message descriptor result)
  | .other className message fields => .exception (.other className message fields)

def result : FinalOutcome → ExecutionResult
  | .bypassed data => EventBase.skipped data
  | .succeeded result => result
  | .failed (.exception exception) | .raised exception => unwrapped exception
  | .failed result => result
  | .exhausted none | .untestable _ => .none
  | .exhausted (some first) => .exception first

end FinalOutcome

/-! ## The outcome, read off the attempts -/

section Attempts

variable {Double : Type} (timing : RetryTiming Double) (policy : RetryPolicy)
  (attempts : Nat → Attempt)

/-- The attempt is retried on: if there is another one left, it follows. -/
def Continues (number : Nat) : Prop :=
  ∃ exception, attempts number = .raised exception ∧
    (∀ message inner, exception ≠ .maxRetry message inner) ∧
    policy.isRetryable exception = true ∧
    ∃ backoff, (timing.policy policy).sleepForBackoff timing.clock (number + 1) = .ok backoff

def lastOutcome (number : Nat) : FinalOutcome :=
  match attempts number with
  | .raised (.maxRetry _ _) =>
      .raised (.builtin "TypeError" "cannot unpack non-iterable NoneType object")
  | .raised exception =>
      if policy.isRetryable exception then
        match (timing.policy policy).sleepForBackoff timing.clock (number + 1) with
        | .error raised => .raised raised
        | .ok _ => .raised exception
      else .raised exception
  | attempt => .ofAttempt attempt

end Attempts

namespace EventBase

variable {Double : Type} (timing : RetryTiming Double) (event : EventBase) (kwargs : CallKwargs)

/-- The outcome of a sequence of attempts: the first attempt that is not retried on decides, if
there is one among those that the policy allows. -/
inductive AttemptsEndWith : FinalOutcome → Prop
  | once (unset : event.retryPolicy = none) :
      AttemptsEndWith (.ofAttempt (event.process kwargs 0))
  | decided {policy : RetryPolicy} (set : event.retryPolicy = some policy) {number : Nat}
      (allowed : number < policy.maxAttempts)
      (before : ∀ earlier < number, Continues timing policy (event.process kwargs) earlier)
      (last : ¬Continues timing policy (event.process kwargs) number) :
      AttemptsEndWith (lastOutcome timing policy (event.process kwargs) number)
  | exhausted {policy : RetryPolicy} (set : event.retryPolicy = some policy)
      (every : ∀ number : Nat, number < policy.maxAttempts →
        Continues timing policy (event.process kwargs) number)
      {first : EventException} (allowed : 1 ≤ policy.maxAttempts)
      (raised : event.process kwargs 0 = .raised first) :
      AttemptsEndWith (.exhausted (some first))
  | unattempted {policy : RetryPolicy} (set : event.retryPolicy = some policy)
      (spent : policy.maxAttempts ≤ 0) : AttemptsEndWith (.exhausted none)

/-- The outcome of a call whose check of the event does not raise. -/
inductive EndsWith : FinalOutcome → Prop
  | bypassed {data : String} (checks : event.runBypassEventChecks = true)
      (skips : event.canBypassCurrentEvent = .ok (true, data)) : EndsWith (.bypassed data)
  | attempted {outcome : FinalOutcome}
      (attempts : event.runBypassEventChecks = false ∨
        ∃ data, event.canBypassCurrentEvent = .ok (false, data))
      (ends : event.AttemptsEndWith timing kwargs outcome) : EndsWith outcome

end EventBase

/-! ## What the loop makes of the attempts -/

section Loop

variable {Double : Type} {timing : RetryTiming Double} {policy : RetryPolicy}
  {attempts : Nat → Attempt}

def endsFrom (timing : RetryTiming Double) (policy : RetryPolicy) (attempts : Nat → Attempt)
    (number : Nat) (cause : Option EventException) : FinalOutcome :=
  .ofEnding (retryTrace timing.clock (timing.policy policy)
    (fun attempt => (attempts attempt).outcome) number cause).ending

theorem endsFrom_spent {number : Nat} (spent : policy.maxAttempts ≤ number)
    (cause : Option EventException) :
    endsFrom timing policy attempts number cause = .exhausted cause := by
  have exhausted : (timing.policy policy).maxAttempts ≤ number := spent
  rw [endsFrom, retryTrace_exhausted exhausted]
  rfl

theorem endsFrom_continues {number : Nat} (left : number < policy.maxAttempts)
    {exception : EventException} (raised : attempts number = .raised exception)
    (continues : Continues timing policy attempts number) (cause : Option EventException) :
    endsFrom timing policy attempts number cause =
      endsFrom timing policy attempts (number + 1) (cause <|> some exception) := by
  obtain ⟨found, same, plain, retries, backoff, slept⟩ := continues
  rw [raised, Attempt.raised.injEq] at same
  subst same
  have here : number < (timing.policy policy).maxAttempts := left
  have outcome : (attempts number).outcome = .error exception := by rw [raised]; rfl
  rw [endsFrom, retryTrace_slept here outcome plain retries slept]
  rfl

theorem lastOutcome_refused {number : Nat} {exception refused : EventException}
    (raised : attempts number = .raised exception)
    (plain : ∀ message inner, exception ≠ .maxRetry message inner)
    (retries : policy.isRetryable exception = true)
    (slept : (timing.policy policy).sleepForBackoff timing.clock (number + 1) = .error refused) :
    lastOutcome timing policy attempts number = .raised refused := by
  rw [lastOutcome, raised]
  cases exception with
  | maxRetry message inner => exact absurd rfl (plain message inner)
  | switchTask message descriptor result => simp only [if_pos retries, slept]
  | other className message fields => simp only [if_pos retries, slept]

theorem lastOutcome_raised {number : Nat} {exception : EventException}
    (raised : attempts number = .raised exception)
    (plain : ∀ message inner, exception ≠ .maxRetry message inner)
    (final : ¬policy.isRetryable exception = true) :
    lastOutcome timing policy attempts number = .raised exception := by
  rw [lastOutcome, raised]
  cases exception with
  | maxRetry message inner => exact absurd rfl (plain message inner)
  | switchTask message descriptor result => exact if_neg final
  | other className message fields => exact if_neg final

theorem endsFrom_last {number : Nat} (left : number < policy.maxAttempts)
    (last : ¬Continues timing policy attempts number) (cause : Option EventException) :
    endsFrom timing policy attempts number cause =
      lastOutcome timing policy attempts number := by
  have here : number < (timing.policy policy).maxAttempts := left
  cases attempt : attempts number with
  | returned status result =>
      have outcome := congrArg Attempt.outcome attempt
      rw [endsFrom, retryTrace_returned here outcome, lastOutcome, attempt]
      rfl
  | malformed exception | untestable exception =>
      have outcome := congrArg Attempt.outcome attempt
      rw [endsFrom, retryTrace_returned here outcome, lastOutcome, attempt]
      rfl
  | raised exception =>
      have outcome := congrArg Attempt.outcome attempt
      by_cases wrapped : ∃ message inner, exception = .maxRetry message inner
      · obtain ⟨message, inner, rfl⟩ := wrapped
        rw [endsFrom, retryTrace_maxRetry here outcome, lastOutcome, attempt]
        rfl
      have plain : ∀ message inner, exception ≠ .maxRetry message inner :=
        fun message inner same => wrapped ⟨message, inner, same⟩
      by_cases retries : policy.isRetryable exception = true
      · -- only the back-off can end the retry here
        cases slept : (timing.policy policy).sleepForBackoff timing.clock (number + 1) with
        | ok backoff => exact absurd ⟨exception, attempt, plain, retries, backoff, slept⟩ last
        | error refused =>
            rw [endsFrom, retryTrace_refused here outcome plain retries slept,
              lastOutcome_refused attempt plain retries slept]
            rfl
      · rw [endsFrom, retryTrace_raised here outcome plain retries,
          lastOutcome_raised attempt plain retries]
        rfl

theorem endsFrom_decided {number distance : Nat}
    (before : ∀ attempt, number ≤ attempt → attempt < number + distance →
      Continues timing policy attempts attempt)
    (left : (number + distance : Nat) < policy.maxAttempts)
    (last : ¬Continues timing policy attempts (number + distance))
    (cause : Option EventException) :
    endsFrom timing policy attempts number cause =
      lastOutcome timing policy attempts (number + distance) := by
  induction distance generalizing number cause with
  | zero => exact endsFrom_last left last cause
  | succ distance induction =>
      have continues := before number (by omega) (by omega)
      have ⟨exception, raised, _⟩ := continues
      have next : number + 1 + distance = number + (distance + 1) := by omega
      rw [endsFrom_continues (by omega) raised continues, ← next]
      apply induction
      · intro attempt lower upper
        exact before attempt (by omega) (by omega)
      · rw [next]
        exact left
      · rw [next]
        exact last

theorem endsFrom_exhausted {number : Nat}
    (every : ∀ attempt : Nat, number ≤ attempt → attempt < policy.maxAttempts →
      Continues timing policy attempts attempt) (cause : EventException) :
    endsFrom timing policy attempts number (some cause) = .exhausted (some cause) := by
  induction remaining : (policy.maxAttempts - number).toNat generalizing number with
  | zero => exact endsFrom_spent (by omega) _
  | succ remaining induction =>
      have left : (number : Int) < policy.maxAttempts := by omega
      have continues := every number (Nat.le_refl number) left
      have ⟨exception, raised, _⟩ := continues
      rw [endsFrom_continues left raised continues]
      apply induction
      · intro attempt lower
        exact every attempt (by omega)
      · omega

end Loop

namespace EventBase

variable {Double : Type} {timing : RetryTiming Double} {event : EventBase} {kwargs : CallKwargs}

theorem attemptsEnd_of_policy {policy : RetryPolicy} (set : event.retryPolicy = some policy) :
    event.attemptsEnd timing kwargs = endsFrom timing policy (event.process kwargs) 0 none := by
  rw [attemptsEnd, set]
  rfl

theorem attemptsEnd_of_attemptsEndWith {outcome : FinalOutcome}
    (ends : event.AttemptsEndWith timing kwargs outcome) :
    event.attemptsEnd timing kwargs = outcome := by
  cases ends with
  | once unset => rw [attemptsEnd, unset]
  | @decided policy set number allowed before last =>
      rw [attemptsEnd_of_policy set]
      have start : 0 + number = number := Nat.zero_add number
      rw [← start] at allowed last ⊢
      exact endsFrom_decided (fun attempt _ upper => before attempt (by omega)) allowed last none
  | @exhausted policy set every first allowed raised =>
      rw [attemptsEnd_of_policy set,
        endsFrom_continues (by omega) raised (every 0 (by omega))]
      exact endsFrom_exhausted (fun attempt _ => every attempt) first
  | unattempted set spent =>
      rw [attemptsEnd_of_policy set]
      exact endsFrom_spent spent none

theorem exists_attemptsEndWith (timing : RetryTiming Double) (event : EventBase)
    (kwargs : CallKwargs) : ∃ outcome, event.AttemptsEndWith timing kwargs outcome := by
  cases set : event.retryPolicy with
  | none => exact ⟨_, .once set⟩
  | some policy =>
      by_cases ended : ∃ number : Nat, number < policy.maxAttempts ∧
          ¬Continues timing policy (event.process kwargs) number
      · classical
        obtain ⟨allowed, last⟩ := Nat.find_spec ended
        apply Exists.intro
        apply AttemptsEndWith.decided set allowed ?_ last
        intro earlier before
        by_contra stops
        exact Nat.find_min ended before ⟨by omega, stops⟩
      · have every : ∀ number : Nat, number < policy.maxAttempts →
            Continues timing policy (event.process kwargs) number := by
          intro number allowed
          by_contra stops
          exact ended ⟨number, allowed, stops⟩
        by_cases allowed : 1 ≤ policy.maxAttempts
        · obtain ⟨first, raised, -⟩ := every 0 (by omega)
          exact ⟨_, .exhausted set every allowed raised⟩
        · exact ⟨_, .unattempted set (by omega)⟩

theorem attemptsEndWith_iff {outcome : FinalOutcome} :
    event.AttemptsEndWith timing kwargs outcome ↔ event.attemptsEnd timing kwargs = outcome := by
  constructor
  · exact attemptsEnd_of_attemptsEndWith
  · rintro rfl
    obtain ⟨outcome, ends⟩ := exists_attemptsEndWith timing event kwargs
    rw [attemptsEnd_of_attemptsEndWith ends]
    exact ends

theorem endsWith_iff {outcome : FinalOutcome} :
    event.EndsWith timing kwargs outcome ↔ event.finalOutcome timing kwargs = .ok outcome := by
  rw [finalOutcome]
  constructor
  · intro ends
    cases ends with
    | bypassed checks skips => rw [if_pos checks, skips]
    | attempted attempts ends =>
        rw [attemptsEndWith_iff] at ends
        rw [ends]
        rcases attempts with unchecked | ⟨data, kept⟩
        · rw [if_neg (by simp [unchecked])]
        · rw [kept]
          exact ite_self _
  · intro final
    by_cases checks : event.runBypassEventChecks = true
    · rw [if_pos checks] at final
      cases skips : event.canBypassCurrentEvent with
      | error exception =>
          rw [skips] at final
          cases final
      | ok answer =>
          obtain ⟨skipped, data⟩ := answer
          rw [skips] at final
          cases skipped with
          | true =>
              cases final
              exact .bypassed checks skips
          | false =>
              cases final
              exact .attempted (.inr ⟨data, skips⟩) (attemptsEndWith_iff.mpr rfl)
    · rw [if_neg checks] at final
      cases final
      exact .attempted (.inl (by simpa using checks)) (attemptsEndWith_iff.mpr rfl)

end EventBase

/-! ## The call -/

namespace EventBase

variable {Double : Type} (timing : RetryTiming Double) (event : EventBase) (kwargs : CallKwargs)

def made (outcome : FinalOutcome) : EventResult :=
  event.resultWith kwargs (!outcome.isSuccess) outcome.result.content

def endWith (outcome : FinalOutcome) (message : String) : Except EventException EventResult :=
  match outcome with
  | .untestable exception => .error exception
  | outcome =>
      if outcome.stopsAt event then .error (event.stopProcessingError kwargs message)
      else
        match event.resultError (event.made kwargs outcome) with
        | some refused => .error (.ofResult refused)
        | none => .ok (event.made kwargs outcome)

theorem endWith_of_testable {outcome : FinalOutcome}
    (testable : ∀ exception, outcome ≠ .untestable exception) (message : String) :
    event.endWith kwargs outcome message =
      if outcome.stopsAt event then .error (event.stopProcessingError kwargs message)
      else
        match event.resultError (event.made kwargs outcome) with
        | some refused => .error (.ofResult refused)
        | none => .ok (event.made kwargs outcome) := by
  cases outcome with
  | untestable exception => exact absurd rfl (testable exception)
  | bypassed data | succeeded result | failed result | raised exception | exhausted first => rfl

theorem onFailure_exception (exception : EventException) :
    ∃ message, event.onFailure kwargs (.exception exception) =
      event.endWith kwargs (.raised exception) message := by
  have unwraps : event.onFailure kwargs (.exception exception) =
      if event.stopOnException then
        .error (event.stopProcessingError kwargs
          ("Error occurred while processing event '" ++ event.name ++ "'"))
      else event.failWith kwargs (FinalOutcome.unwrapped exception) := by
    cases exception with
    | switchTask message descriptor result => rfl
    | maxRetry message inner => cases inner <;> rfl
    | other className message fields => rfl
  rw [unwraps]
  simp only [failWith, endWith, FinalOutcome.stopsAt]
  by_cases stops : event.stopOnException = true
  · simp only [stops, Bool.true_or, if_true]
    exact ⟨_, rfl⟩
  · simp only [Bool.not_eq_true] at stops
    simp only [stops, Bool.false_or, Bool.false_eq_true, if_false]
    exact ⟨_, rfl⟩

theorem onFailure_failed (result : ExecutionResult) :
    ∃ message, event.onFailure kwargs result = event.endWith kwargs (.failed result) message := by
  cases result with
  | none => exact ⟨_, rfl⟩
  | value text => exact ⟨_, rfl⟩
  | exception exception => exact event.onFailure_exception kwargs exception

theorem conclude_attempt (attempt : Attempt) :
    ∃ message, event.conclude kwargs attempt =
      event.endWith kwargs (.ofAttempt attempt) message := by
  cases attempt with
  | returned status result =>
      cases status with
      | true => exact ⟨_, rfl⟩
      | false => exact event.onFailure_failed kwargs result
  | malformed exception => exact event.onFailure_exception kwargs exception
  | raised exception => exact event.onFailure_exception kwargs exception
  | untestable exception => exact ⟨"", rfl⟩

theorem conclude_ending {Value : Type} (run : RetryRun Value Attempt) :
    ∃ message, event.conclude kwargs run.attempt =
      event.endWith kwargs (.ofEnding run.ending) message := by
  rw [RetryRun.attempt]
  cases run.ending with
  | returned attempt => exact event.conclude_attempt kwargs attempt
  | returnedNone =>
      exact event.onFailure_exception kwargs
        (.builtin "TypeError" "cannot unpack non-iterable NoneType object")
  | raised exception => exact event.onFailure_exception kwargs exception
  | maxRetryError attempt exception =>
      -- `on_failure` replaces the error by its cause
      obtain ⟨message, failed⟩ := event.onFailure_exception kwargs (exhausted attempt exception)
      apply Exists.intro message
      rw [conclude, failed]
      cases exception <;> rfl

theorem conclude_retryTimed :
    ∃ message, event.conclude kwargs (event.retryTimed timing kwargs) =
      event.endWith kwargs (event.attemptsEnd timing kwargs) message := by
  rw [retryTimed, attemptsEnd]
  cases event.retryPolicy with
  | none => exact event.conclude_attempt kwargs _
  | some policy => exact event.conclude_ending kwargs _

theorem callTimed_of_endsWith {outcome : FinalOutcome}
    (ends : event.EndsWith timing kwargs outcome) :
    ∃ message, event.callTimed timing kwargs = event.endWith kwargs outcome message := by
  rw [callTimed]
  cases ends with
  | bypassed checks skips =>
      rw [if_pos checks, skips]
      exact ⟨_, rfl⟩
  | attempted attempts ends =>
      have concluded := event.conclude_retryTimed timing kwargs
      rw [attemptsEndWith_iff.mp ends] at concluded
      rcases attempts with unchecked | ⟨data, kept⟩
      · rw [if_neg (by simp [unchecked])]
        exact concluded
      · rw [kept]
        simp only [ite_self]
        exact concluded

theorem callTimed_of_bypassError {exception : EventException}
    (raised : event.bypassError = some exception) :
    event.callTimed timing kwargs = .error exception := by
  rw [bypassError] at raised
  rw [callTimed]
  by_cases checks : event.runBypassEventChecks = true
  · rw [if_pos checks] at raised ⊢
    cases skips : event.canBypassCurrentEvent with
    | error error =>
        rw [skips] at raised
        cases raised
        rfl
    | ok answer =>
        rw [skips] at raised
        cases raised
  · rw [if_neg checks] at raised
    cases raised

theorem finalOutcome_of_bypassError (quiet : event.bypassError = none) :
    ∃ outcome, event.finalOutcome timing kwargs = .ok outcome := by
  rw [bypassError] at quiet
  rw [finalOutcome]
  by_cases checks : event.runBypassEventChecks = true
  · rw [if_pos checks] at quiet ⊢
    cases skips : event.canBypassCurrentEvent with
    | error error =>
        rw [skips] at quiet
        cases quiet
    | ok answer =>
        obtain ⟨skipped, data⟩ := answer
        cases skipped <;> exact ⟨_, rfl⟩
  · rw [if_neg checks]
    exact ⟨_, rfl⟩

/-- Making the result of the outcome raises a `StopProcessingError`: the backend cannot be
imported or connected to. -/
def StopsInBackend (outcome : FinalOutcome) : Prop :=
  ∃ refused, event.resultError (event.made kwargs outcome) = some refused ∧
    refused.className = "StopProcessingError"

/-- How a call ends whose status can be tested. -/
structure Determined (outcome : FinalOutcome) : Prop where
  stops : (∃ exception, event.callTimed timing kwargs = .error exception ∧
      exception.className = "StopProcessingError") ↔
    outcome.stopsAt event = true ∨ event.StopsInBackend kwargs outcome
  stopped : outcome.stopsAt event = true → ∃ message, event.callTimed timing kwargs =
    .error (event.stopProcessingError kwargs message)
  refused : outcome.stopsAt event = false → ∀ refused,
    event.resultError (event.made kwargs outcome) = some refused →
      event.callTimed timing kwargs = .error (.ofResult refused)
  returns : outcome.stopsAt event = false →
    event.resultError (event.made kwargs outcome) = none →
      ∃ result, event.callTimed timing kwargs = .ok result ∧
        result.error = !outcome.isSuccess ∧ result.content = outcome.result.content ∧
        result.taskId = some event.taskId ∧ result.eventName = event.name

theorem determined_of_endsWith {outcome : FinalOutcome}
    (ends : event.EndsWith timing kwargs outcome)
    (testable : ∀ exception, outcome ≠ .untestable exception) :
    event.Determined timing kwargs outcome := by
  obtain ⟨message, ended⟩ := event.callTimed_of_endsWith timing kwargs ends
  rw [event.endWith_of_testable kwargs testable] at ended
  cases stops : outcome.stopsAt event with
  | true =>
      rw [if_pos stops] at ended
      constructor
      · exact iff_of_true ⟨_, ended, rfl⟩ (.inl stops)
      · exact fun _ => ⟨message, ended⟩
      · rw [stops]
        nofun
      · rw [stops]
        nofun
  | false =>
      rw [if_neg (by simp [stops])] at ended
      cases saved : event.resultError (event.made kwargs outcome) with
      | some refused =>
          rw [saved] at ended
          constructor
          · constructor
            · rintro ⟨exception, raised, name⟩
              rw [ended] at raised
              cases raised
              exact .inr ⟨refused, saved, name⟩
            · rintro (stopped | ⟨other, raised, name⟩)
              · rw [stops] at stopped
                cases stopped
              · rw [saved, Option.some_inj] at raised
                exact ⟨_, ended, raised ▸ name⟩
          · rw [stops]
            nofun
          · rintro - other raised
            rw [saved, Option.some_inj] at raised
            rw [ended, raised]
          · intro _ accepted
            rw [saved] at accepted
            cases accepted
      | none =>
          rw [saved] at ended
          constructor
          · apply iff_of_false
            · rintro ⟨exception, raised, -⟩
              rw [ended] at raised
              cases raised
            · rintro (stopped | ⟨other, raised, -⟩)
              · rw [stops] at stopped
                cases stopped
              · rw [saved] at raised
                cases raised
          · rw [stops]
            nofun
          · intro _ other raised
            rw [saved] at raised
            cases raised
          · exact fun _ _ => ⟨_, ended, rfl, rfl, rfl, rfl⟩

end EventBase

def returnsException : EventBase where
  name := "A"
  taskId := 0
  stopOnException := true
  process := fun _ _ => .returned false (.exception valueError)

end EventPipeline
