import EventPipeline.Execution.EventCall
import Mathlib.Algebra.Group.Int.Defs
import Mathlib.Algebra.Group.Nat.Defs
import Mathlib.Data.List.Range

/-! # What a retry does

The loop of `retry` with the signals that it emits and the back-offs for which it sleeps. A failed
attempt is followed by a back-off that doubles each time; with a factor that is a float, the power
of two is converted to a float, which fails from `2 ** 1024` on.
-/

namespace EventPipeline

/-- A number of Python: an integer, or a float. -/
inductive PyNumber (Double : Type)
  | int (value : Int)
  | float (value : Double)
deriving DecidableEq, Repr

def PyNumber.exact : PyNumber Rat → Rat
  | .int value => value
  | .float value => value

/-- What `retry` uses of floats and of `time.sleep`. -/
structure BackoffClock (Double : Type) where
  /-- The float of a natural number, unless it is too large. -/
  toFloat : Nat → Option Double
  toFloat_two_pow : ∀ exponent, (toFloat (2 ^ exponent)).isSome = true ↔ exponent < 1024
  times : Double → Double → Double
  less : PyNumber Double → PyNumber Double → Bool
  lessEq : PyNumber Double → PyNumber Double → Bool
  /-- What `time.sleep` raises, if anything. -/
  sleep : PyNumber Double → Option EventException

structure BackoffPolicy (Double : Type) extends RetryPolicy where
  backoffFactor : PyNumber Double
  maxBackoff : PyNumber Double

def intTooLarge : EventException :=
  .builtin "OverflowError" "int too large to convert to float"

namespace BackoffPolicy

variable {Double : Type}

/-- `backoff_factor * (2 ** (retry_count - 1))` -/
def scaled (clock : BackoffClock Double) (policy : BackoffPolicy Double) (retryCount : Nat) :
    Except EventException (PyNumber Double) :=
  match policy.backoffFactor with
  | .int factor => .ok (.int (factor * 2 ^ (retryCount - 1)))
  | .float factor =>
      match clock.toFloat (2 ^ (retryCount - 1)) with
      | none => .error intTooLarge
      | some power => .ok (.float (clock.times factor power))

def getBackoffTime (clock : BackoffClock Double) (policy : BackoffPolicy Double)
    (retryCount : Nat) : Except EventException (PyNumber Double) :=
  if retryCount ≤ 1 then .ok (.int 0)
  else do
    let backoffValue ← policy.scaled clock retryCount
    return if clock.less policy.maxBackoff backoffValue then policy.maxBackoff else backoffValue

/-- `_sleep_for_backoff`: it sleeps unless `backoff <= 0`. -/
def sleepForBackoff (clock : BackoffClock Double) (policy : BackoffPolicy Double)
    (retryCount : Nat) : Except EventException (PyNumber Double) := do
  let backoff ← policy.getBackoffTime clock retryCount
  if clock.lessEq backoff (.int 0) then return .int 0
  match clock.sleep backoff with
  | some exception => throw exception
  | none => return backoff

/-- The back-off behind a failed attempt can be computed and slept for: the factor is no float, or
the attempt is one of the first 1024; and `time.sleep` accepts a back-off that is not `<= 0`. -/
def Accepts (clock : BackoffClock Double) (policy : BackoffPolicy Double) (attempt : Nat) :
    Prop :=
  ((∃ factor, policy.backoffFactor = .int factor) ∨ attempt ≤ 1024) ∧
    ∀ backoff, policy.getBackoffTime clock attempt = .ok backoff →
      clock.lessEq backoff (.int 0) = false → clock.sleep backoff = none

end BackoffPolicy

/-! ## The loop -/

/-- The signals that are emitted, without the event and its context. -/
inductive RetrySignal (Double : Type)
  | eventExecutionRetry (backoff : PyNumber Double) (retryCount : Nat) (maxAttempts : Int)
  | eventExecutionRetryDone (maxAttempts : Int)
deriving DecidableEq, Repr

/-- How `retry` ends. `None` is returned when `process` raises `MaxRetryError`. -/
inductive RetryEnd (Value : Type)
  | returned (value : Value)
  | returnedNone
  | raised (exception : EventException)
  | maxRetryError (attempt : Nat) (exception : Option EventException)

/-- A retry: how it ends, how often `process` is called, and the signals. -/
structure RetryRun (Double Value : Type) where
  ending : RetryEnd Value
  calls : Nat
  signals : List (RetrySignal Double)

section Loop

variable {Double Value : Type}

/-- The loop of `retry`. `process` is given the number of calls before. -/
def retryTrace (clock : BackoffClock Double) (policy : BackoffPolicy Double)
    (process : Nat → Except EventException Value) (retryCount : Nat)
    (exceptionCausingRetry : Option EventException) : RetryRun Double Value :=
  if policy.maxAttempts ≤ retryCount then
    ⟨.maxRetryError retryCount exceptionCausingRetry, 0,
      [.eventExecutionRetryDone policy.maxAttempts]⟩
  else
    match process retryCount with
    | .ok value => ⟨.returned value, 1, []⟩
    | .error (.maxRetry _ _) => ⟨.returnedNone, 1, []⟩
    | .error exception =>
        if policy.isRetryable exception then
          match policy.sleepForBackoff clock (retryCount + 1) with
          | .error raised => ⟨.raised raised, 1, []⟩
          | .ok backoff =>
              let rest := retryTrace clock policy process (retryCount + 1)
                (exceptionCausingRetry <|> some exception)
              ⟨rest.ending, rest.calls + 1,
                .eventExecutionRetry backoff (retryCount + 1) policy.maxAttempts ::
                  rest.signals⟩
        else ⟨.raised exception, 1, []⟩
termination_by (policy.maxAttempts - retryCount).toNat

def retryFresh (clock : BackoffClock Double) (policy : BackoffPolicy Double)
    (process : Nat → Except EventException Value) : RetryRun Double Value :=
  retryTrace clock policy process 0 none

/-! ## The promise -/

/-- An exception that the policy retries on. -/
def Retries (policy : BackoffPolicy Double) : Except EventException Value → Prop
  | .ok _ => False
  | .error exception => policy.isRetryable exception = true

/-- The first outcome that is not retried on, counted from one. -/
def FirstFinal (policy : BackoffPolicy Double) (process : Nat → Except EventException Value)
    (index : Nat) : Prop :=
  1 ≤ index ∧ ¬Retries policy (process (index - 1)) ∧
    ∀ earlier < index - 1, Retries policy (process earlier)

def RetryEnd.ofOutcome : Except EventException Value → RetryEnd Value
  | .ok value => .returned value
  | .error exception => .raised exception

def RetrySignal.retryCount? : RetrySignal Double → Option Nat
  | .eventExecutionRetry _ retryCount _ => some retryCount
  | .eventExecutionRetryDone _ => none

def RetryRun.retried (run : RetryRun Double Value) : List Nat :=
  run.signals.filterMap RetrySignal.retryCount?

def RetryRun.done (run : RetryRun Double Value) : Nat :=
  run.signals.countP fun signal => signal.retryCount?.isNone

/-- The attempts that are promised: up to the first outcome that is not retried on, or as many as
the policy allows. -/
def MakesPromisedAttempts (policy : BackoffPolicy Double)
    (process : Nat → Except EventException Value) (run : RetryRun Double Value) : Prop :=
  (∀ index, FirstFinal policy process index → index ≤ policy.maxAttempts →
    run.calls = index ∧ run.ending = .ofOutcome (process (index - 1)) ∧
      run.retried = List.range' 1 (index - 1) ∧ run.done = 0) ∧
  ((∀ index, FirstFinal policy process index → policy.maxAttempts < index) →
    run.calls = policy.maxAttempts ∧ run.retried = List.range' 1 policy.maxAttempts.toNat ∧
      run.done = 1 ∧ ∃ attempt exception, run.ending = .maxRetryError attempt (some exception) ∧
        attempt = policy.maxAttempts ∧ process 0 = .error exception)

/-! ## Back-offs -/

section Backoff

variable (clock : BackoffClock Double) (policy : BackoffPolicy Double)

theorem scaled_ok_iff {attempt : Nat} (later : 1 < attempt) :
    (∃ value, policy.scaled clock attempt = .ok value) ↔
      (∃ factor, policy.backoffFactor = .int factor) ∨ attempt ≤ 1024 := by
  rw [BackoffPolicy.scaled]
  cases policy.backoffFactor with
  | int factor => exact iff_of_true ⟨_, rfl⟩ (.inl ⟨factor, rfl⟩)
  | float factor =>
      have converted := clock.toFloat_two_pow (attempt - 1)
      have bound : attempt - 1 < 1024 ↔ attempt ≤ 1024 := by omega
      rw [bound] at converted
      have noInt : ¬∃ value, PyNumber.float factor = .int value := by
        rintro ⟨_, ⟨⟩⟩
      rw [or_iff_right noInt, ← converted]
      cases clock.toFloat (2 ^ (attempt - 1)) with
      | none =>
          apply iff_of_false
          · rintro ⟨_, ⟨⟩⟩
          · exact Bool.false_ne_true
      | some power => exact iff_of_true ⟨_, rfl⟩ rfl

theorem getBackoffTime_ok_iff (attempt : Nat) :
    (∃ value, policy.getBackoffTime clock attempt = .ok value) ↔
      (∃ factor, policy.backoffFactor = .int factor) ∨ attempt ≤ 1024 := by
  rw [BackoffPolicy.getBackoffTime]
  by_cases first : attempt ≤ 1
  · rw [if_pos first]
    exact iff_of_true ⟨_, rfl⟩ (.inr (by omega))
  · rw [if_neg first, ← scaled_ok_iff clock policy (by omega)]
    cases policy.scaled clock attempt with
    | error error =>
        apply iff_of_false
        · rintro ⟨_, ⟨⟩⟩
        · rintro ⟨_, ⟨⟩⟩
    | ok value => exact iff_of_true ⟨_, rfl⟩ ⟨_, rfl⟩

theorem sleepForBackoff_ok_iff (attempt : Nat) :
    (∃ backoff, policy.sleepForBackoff clock attempt = .ok backoff) ↔
      policy.Accepts clock attempt := by
  rw [BackoffPolicy.Accepts, ← getBackoffTime_ok_iff clock policy attempt,
    BackoffPolicy.sleepForBackoff]
  cases policy.getBackoffTime clock attempt with
  | error error =>
      apply iff_of_false
      · rintro ⟨_, ⟨⟩⟩
      · rintro ⟨⟨_, ⟨⟩⟩, _⟩
  | ok value =>
      simp only [bind, Except.bind, Except.ok.injEq, exists_eq', true_and, forall_eq']
      by_cases none : clock.lessEq value (.int 0) = true
      · rw [if_pos none]
        exact iff_of_true ⟨_, rfl⟩ fun some => absurd none (by simp [some])
      · rw [if_neg none]
        rw [Bool.not_eq_true] at none
        rw [forall_prop_of_true none]
        cases clock.sleep value with
        | none => exact iff_of_true ⟨_, rfl⟩ rfl
        | some exception =>
            apply iff_of_false
            · rintro ⟨_, ⟨⟩⟩
            · rintro ⟨⟩

end Backoff

/-! ## One round -/

section Rounds

variable {clock : BackoffClock Double} {policy : BackoffPolicy Double}
  {process : Nat → Except EventException Value} {retryCount : Nat}
  {cause : Option EventException}

theorem retryTrace_exhausted (spent : policy.maxAttempts ≤ retryCount) :
    retryTrace clock policy process retryCount cause =
      ⟨.maxRetryError retryCount cause, 0, [.eventExecutionRetryDone policy.maxAttempts]⟩ := by
  rw [retryTrace, if_pos spent]

theorem retryTrace_returned (left : retryCount < policy.maxAttempts) {value : Value}
    (outcome : process retryCount = .ok value) :
    retryTrace clock policy process retryCount cause = ⟨.returned value, 1, []⟩ := by
  rw [retryTrace, if_neg (by omega), outcome]

theorem retryTrace_maxRetry (left : retryCount < policy.maxAttempts) {message : String}
    {inner : Option EventException}
    (outcome : process retryCount = .error (.maxRetry message inner)) :
    retryTrace clock policy process retryCount cause = ⟨.returnedNone, 1, []⟩ := by
  rw [retryTrace, if_neg (by omega), outcome]

theorem retryTrace_raised (left : retryCount < policy.maxAttempts) {exception : EventException}
    (outcome : process retryCount = .error exception)
    (plain : ∀ message inner, exception ≠ .maxRetry message inner)
    (final : ¬policy.isRetryable exception = true) :
    retryTrace clock policy process retryCount cause = ⟨.raised exception, 1, []⟩ := by
  rw [retryTrace, if_neg (by omega), outcome]
  cases exception with
  | maxRetry message inner => exact absurd rfl (plain message inner)
  | switchTask message descriptor result => simp only [if_neg final]
  | other className message fields => simp only [if_neg final]

theorem retryTrace_final (left : retryCount < policy.maxAttempts)
    (plain : ∀ message inner, process retryCount ≠ .error (.maxRetry message inner))
    (final : ¬Retries policy (process retryCount)) :
    retryTrace clock policy process retryCount cause =
      ⟨.ofOutcome (process retryCount), 1, []⟩ := by
  cases outcome : process retryCount with
  | ok value => exact retryTrace_returned left outcome
  | error exception =>
      rw [outcome] at plain final
      apply retryTrace_raised left outcome ?_ final
      intro message inner same
      exact plain message inner (congrArg _ same)

theorem retryTrace_slept (left : retryCount < policy.maxAttempts) {exception : EventException}
    (outcome : process retryCount = .error exception)
    (plain : ∀ message inner, exception ≠ .maxRetry message inner)
    (retries : policy.isRetryable exception = true) {backoff : PyNumber Double}
    (slept : policy.sleepForBackoff clock (retryCount + 1) = .ok backoff) :
    let rest := retryTrace clock policy process (retryCount + 1) (cause <|> some exception)
    retryTrace clock policy process retryCount cause =
      ⟨rest.ending, rest.calls + 1,
        .eventExecutionRetry backoff (retryCount + 1) policy.maxAttempts :: rest.signals⟩ := by
  intro rest
  rw [retryTrace, if_neg (by omega), outcome]
  cases exception with
  | maxRetry message inner => exact absurd rfl (plain message inner)
  | switchTask message descriptor result =>
      simp only [if_pos retries, slept]
      rfl
  | other className message fields =>
      simp only [if_pos retries, slept]
      rfl

theorem retryTrace_refused (left : retryCount < policy.maxAttempts) {exception : EventException}
    (outcome : process retryCount = .error exception)
    (plain : ∀ message inner, exception ≠ .maxRetry message inner)
    (retries : policy.isRetryable exception = true) {raised : EventException}
    (refused : policy.sleepForBackoff clock (retryCount + 1) = .error raised) :
    retryTrace clock policy process retryCount cause = ⟨.raised raised, 1, []⟩ := by
  rw [retryTrace, if_neg (by omega), outcome]
  cases exception with
  | maxRetry message inner => exact absurd rfl (plain message inner)
  | switchTask message descriptor result => simp only [if_pos retries, refused]
  | other className message fields => simp only [if_pos retries, refused]

end Rounds

/-! ## Whole retries -/

section Runs

variable {clock : BackoffClock Double} {policy : BackoffPolicy Double}
  {process : Nat → Except EventException Value}

/-- The attempts from one on are retried on, and their back-offs are accepted. -/
def RetriedFrom (clock : BackoffClock Double) (policy : BackoffPolicy Double)
    (process : Nat → Except EventException Value) (retryCount distance : Nat) : Prop :=
  ∀ attempt, retryCount ≤ attempt → attempt < retryCount + distance →
    Retries policy (process attempt) ∧ policy.Accepts clock (attempt + 1)

theorem RetriedFrom.tail {retryCount distance : Nat}
    (retried : RetriedFrom clock policy process retryCount (distance + 1)) :
    RetriedFrom clock policy process (retryCount + 1) distance := by
  intro attempt lower upper
  exact retried attempt (by omega) (by omega)

theorem retryTrace_step
    (plain : ∀ attempt message inner, process attempt ≠ .error (.maxRetry message inner))
    {retryCount distance : Nat} (left : retryCount < policy.maxAttempts)
    (retried : RetriedFrom clock policy process retryCount (distance + 1))
    (cause : Option EventException) :
    ∃ exception, process retryCount = .error exception ∧
      let rest := retryTrace clock policy process (retryCount + 1) (cause <|> some exception)
      let run := retryTrace clock policy process retryCount cause
      run.calls = rest.calls + 1 ∧ run.ending = rest.ending ∧
        run.retried = (retryCount + 1) :: rest.retried ∧ run.done = rest.done := by
  obtain ⟨retries, accepts⟩ := retried retryCount (by omega) (by omega)
  obtain ⟨backoff, slept⟩ := (sleepForBackoff_ok_iff clock policy (retryCount + 1)).mpr accepts
  cases outcome : process retryCount with
  | ok value =>
      rw [outcome] at retries
      exact retries.elim
  | error exception =>
      rw [outcome] at retries
      have different : ∀ message inner, exception ≠ .maxRetry message inner :=
        fun message inner same => plain retryCount message inner (same ▸ outcome)
      refine ⟨exception, rfl, ?_⟩
      intro rest run
      have unrolled : run = _ := retryTrace_slept left outcome different retries slept
      rw [unrolled]
      exact ⟨rfl, rfl, rfl, rfl⟩

theorem retryTrace_of_final
    (plain : ∀ attempt message inner, process attempt ≠ .error (.maxRetry message inner))
    {retryCount distance : Nat} (cause : Option EventException)
    (retried : RetriedFrom clock policy process retryCount distance)
    (left : (retryCount + distance : Nat) < policy.maxAttempts)
    (final : ¬Retries policy (process (retryCount + distance))) :
    let run := retryTrace clock policy process retryCount cause
    run.calls = distance + 1 ∧ run.ending = .ofOutcome (process (retryCount + distance)) ∧
      run.retried = List.range' (retryCount + 1) distance ∧ run.done = 0 := by
  induction distance generalizing retryCount cause with
  | zero =>
      intro run
      have ended : run = _ := retryTrace_final left (plain retryCount) final
      rw [ended]
      exact ⟨rfl, rfl, rfl, rfl⟩
  | succ distance induction =>
      intro run
      obtain ⟨exception, -, calls, ending, numbers, done⟩ :=
        retryTrace_step plain (by omega) retried cause
      have next : retryCount + 1 + distance = retryCount + (distance + 1) := by omega
      have rest := induction (cause <|> some exception) retried.tail
        (by rw [next]; exact left) (by rw [next]; exact final)
      rw [next] at rest
      exact ⟨calls.trans (congrArg (· + 1) rest.1), ending.trans rest.2.1,
        numbers.trans (congrArg ((retryCount + 1) :: ·) rest.2.2.1), done.trans rest.2.2.2⟩

theorem retryTrace_of_exhausted
    (plain : ∀ attempt message inner, process attempt ≠ .error (.maxRetry message inner))
    {retryCount distance : Nat} (cause : EventException)
    (retried : RetriedFrom clock policy process retryCount distance)
    (spent : (retryCount + distance : Nat) = policy.maxAttempts) :
    let run := retryTrace clock policy process retryCount (some cause)
    run.calls = distance ∧ run.retried = List.range' (retryCount + 1) distance ∧ run.done = 1 ∧
      run.ending = .maxRetryError (retryCount + distance) (some cause) := by
  induction distance generalizing retryCount with
  | zero =>
      intro run
      have ended : run = _ := retryTrace_exhausted (by omega)
      rw [ended]
      exact ⟨rfl, rfl, rfl, rfl⟩
  | succ distance induction =>
      intro run
      obtain ⟨exception, -, calls, ending, numbers, done⟩ :=
        retryTrace_step plain (by omega) retried (some cause)
      have next : retryCount + 1 + distance = retryCount + (distance + 1) := by omega
      have rest := induction retried.tail (by rw [next]; exact spent)
      rw [next] at rest
      exact ⟨calls.trans (congrArg (· + 1) rest.1),
        numbers.trans (congrArg ((retryCount + 1) :: ·) rest.2.1), done.trans rest.2.2.1,
        ending.trans rest.2.2.2⟩

/-- A back-off that is not accepted ends the retry without a signal. -/
theorem retried_of_refused
    (plain : ∀ attempt message inner, process attempt ≠ .error (.maxRetry message inner))
    {retryCount distance : Nat} (cause : Option EventException)
    (retried : RetriedFrom clock policy process retryCount distance)
    (left : (retryCount + distance : Nat) < policy.maxAttempts)
    (retries : Retries policy (process (retryCount + distance)))
    (refuses : ¬policy.Accepts clock (retryCount + distance + 1)) :
    (retryTrace clock policy process retryCount cause).retried =
      List.range' (retryCount + 1) distance := by
  induction distance generalizing retryCount cause with
  | zero =>
      cases slept : policy.sleepForBackoff clock (retryCount + 1) with
      | ok backoff =>
          exact absurd ((sleepForBackoff_ok_iff clock policy _).mp ⟨backoff, slept⟩) refuses
      | error raised =>
          cases outcome : process retryCount with
          | ok value =>
              rw [Nat.add_zero, outcome] at retries
              exact retries.elim
          | error exception =>
              rw [Nat.add_zero, outcome] at retries
              have different : ∀ message inner, exception ≠ .maxRetry message inner :=
                fun message inner same => plain retryCount message inner (same ▸ outcome)
              have here : (retryCount : Int) < policy.maxAttempts := left
              rw [retryTrace_refused here outcome different retries slept]
              rfl
  | succ distance induction =>
      obtain ⟨exception, -, -, -, numbers, -⟩ :=
        retryTrace_step plain (by omega) retried cause
      have next : retryCount + 1 + distance = retryCount + (distance + 1) := by omega
      have rest := induction (cause <|> some exception) retried.tail
        (by rw [next]; exact left) (by rw [next]; exact retries) (by rw [next]; exact refuses)
      rw [numbers, rest, List.range'_succ]

theorem retries_of_no_final {bound : Nat}
    (none : ∀ index, FirstFinal policy process index → bound < index) {attempt : Nat}
    (inside : attempt < bound) : Retries policy (process attempt) := by
  induction attempt using Nat.strong_induction_on with
  | _ attempt induction =>
      by_contra final
      have first : FirstFinal policy process (attempt + 1) :=
        ⟨by omega, final, fun earlier before => induction earlier before (by omega)⟩
      have late := none (attempt + 1) first
      omega

theorem exhausts
    (plain : ∀ attempt message inner, process attempt ≠ .error (.maxRetry message inner))
    {distance : Nat} (retried : RetriedFrom clock policy process 0 (distance + 1))
    (spent : (distance + 1 : Nat) = policy.maxAttempts) :
    let run := retryFresh clock policy process
    run.calls = distance + 1 ∧ run.retried = List.range' 1 (distance + 1) ∧ run.done = 1 ∧
      ∃ exception, run.ending = .maxRetryError (distance + 1) (some exception) ∧
        process 0 = .error exception := by
  intro run
  obtain ⟨exception, outcome, calls, ending, numbers, done⟩ :=
    retryTrace_step plain (by omega) retried none
  have next : 0 + 1 + distance = distance + 1 := by omega
  have rest := retryTrace_of_exhausted plain exception retried.tail (by rw [next]; exact spent)
  rw [next] at rest
  exact ⟨calls.trans (congrArg (· + 1) rest.1), numbers.trans (congrArg (1 :: ·) rest.2.1),
    done.trans rest.2.2.1, exception, ending.trans rest.2.2.2, outcome⟩

theorem makesPromisedAttempts_of_accepts (positive : 1 ≤ policy.maxAttempts)
    (plain : ∀ attempt message inner, process attempt ≠ .error (.maxRetry message inner))
    (accepts : ∀ attempt : Nat, 1 ≤ attempt → attempt ≤ policy.maxAttempts →
      (∀ earlier < attempt, Retries policy (process earlier)) → policy.Accepts clock attempt) :
    MakesPromisedAttempts policy process (retryFresh clock policy process) := by
  constructor
  · intro index ⟨counted, final, before⟩ allowed
    have retried : RetriedFrom clock policy process 0 (index - 1) := by
      intro attempt _ upper
      refine ⟨before attempt (by omega), accepts (attempt + 1) (by omega) (by omega) ?_⟩
      exact fun earlier inside => before earlier (by omega)
    have run := retryTrace_of_final plain none retried (by omega) (by simpa using final)
    have last : index - 1 + 1 = index := by omega
    simpa [retryFresh, last] using run
  · intro none
    obtain ⟨distance, spent⟩ : ∃ distance : Nat, (distance + 1 : Nat) = policy.maxAttempts :=
      ⟨(policy.maxAttempts - 1).toNat, by omega⟩
    have always : ∀ {attempt}, attempt < distance + 1 → Retries policy (process attempt) := by
      have late : ∀ index, FirstFinal policy process index → distance + 1 < index := by
        intro index first
        have beyond := none index first
        omega
      intro attempt inside
      exact retries_of_no_final late inside
    have retried : RetriedFrom clock policy process 0 (distance + 1) := by
      intro attempt _ upper
      refine ⟨always (by omega), accepts (attempt + 1) (by omega) (by omega) ?_⟩
      exact fun earlier inside => always (by omega)
    obtain ⟨calls, numbers, done, exception, ending, first⟩ := exhausts plain retried spent
    have whole : policy.maxAttempts.toNat = distance + 1 := by omega
    rw [whole]
    exact ⟨by rw [calls]; exact spent, numbers, done, distance + 1, exception, ending, spent, first⟩

/-- A promise that is kept needs the back-off of every failed attempt: the first one that is
refused ends the retry too early. -/
theorem accepts_of_makesPromisedAttempts
    (plain : ∀ attempt message inner, process attempt ≠ .error (.maxRetry message inner))
    (promise : MakesPromisedAttempts policy process (retryFresh clock policy process))
    (attempt : Nat) (counted : 1 ≤ attempt) (allowed : attempt ≤ policy.maxAttempts)
    (before : ∀ earlier < attempt, Retries policy (process earlier)) :
    policy.Accepts clock attempt := by
  induction attempt using Nat.strong_induction_on with
  | _ attempt induction =>
      by_contra refuses
      have retried : RetriedFrom clock policy process 0 (attempt - 1) := by
        intro earlier _ upper
        refine ⟨before earlier (by omega), induction (earlier + 1) (by omega) (by omega)
          (by omega) fun first inside => before first (by omega)⟩
      have last : 0 + (attempt - 1) + 1 = attempt := by omega
      have numbers := retried_of_refused plain none retried (by omega)
        (before _ (by omega)) (by rw [last]; exact refuses)
      have short := congrArg List.length numbers
      rw [List.length_range'] at short
      by_cases final : ∃ index, FirstFinal policy process index ∧ index ≤ policy.maxAttempts
      · obtain ⟨index, first, reached⟩ := final
        have beyond : attempt ≤ index - 1 := by
          by_contra inside
          exact first.2.1 (before (index - 1) (by omega))
        have long := congrArg List.length (promise.1 index first reached).2.2.1
        rw [List.length_range'] at long
        have same := short.symm.trans long
        omega
      · have late : ∀ index, FirstFinal policy process index → policy.maxAttempts < index := by
          intro index first
          by_contra reached
          exact final ⟨index, first, by omega⟩
        have long := congrArg List.length (promise.2 late).2.1
        rw [List.length_range'] at long
        have same := short.symm.trans long
        omega

end Runs

end Loop

/-! ## The loop without back-offs -/

section Quiet

variable {Double : Type}

/-- What `retry` sees of an attempt. -/
def Attempt.outcome : Attempt → Except EventException Attempt
  | .raised exception => .error exception
  | .returned status result => .ok (.returned status result)
  | .malformed exception => .ok (.malformed exception)
  | .untestable exception => .ok (.untestable exception)

/-- What `__call__` sees of a retry. -/
def RetryRun.attempt (run : RetryRun Double Attempt) : Attempt :=
  match run.ending with
  | .returned attempt => attempt
  | .returnedNone => .malformed (.builtin "TypeError" "cannot unpack non-iterable NoneType object")
  | .raised exception => .raised exception
  | .maxRetryError attempt exception => .raised (exhausted attempt exception)

theorem retryLoop_raised {policy : RetryPolicy} {process : Nat → Attempt} {retryCount : Nat}
    {cause : Option EventException} (left : retryCount < policy.maxAttempts)
    {exception : EventException} (raised : process retryCount = .raised exception)
    (plain : ∀ message inner, exception ≠ .maxRetry message inner) :
    retryLoop policy process retryCount cause =
      if policy.isRetryable exception then
        retryLoop policy process (retryCount + 1) (cause <|> some exception)
      else .raised exception := by
  rw [retryLoop, if_neg (by omega), raised]
  cases exception with
  | maxRetry message inner => exact absurd rfl (plain message inner)
  | switchTask message descriptor result => rfl
  | other className message fields => rfl

/-- When every back-off is accepted, the loop ends as the one without back-offs does. -/
theorem attempt_retryTrace {clock : BackoffClock Double} {policy : BackoffPolicy Double}
    (accepts : ∀ attempt, policy.Accepts clock attempt) (process : Nat → Attempt)
    (retryCount : Nat) (cause : Option EventException) :
    (retryTrace clock policy (fun attempt => (process attempt).outcome) retryCount cause).attempt =
      retryLoop policy.toRetryPolicy process retryCount cause := by
  induction remaining : (policy.maxAttempts - retryCount).toNat
    generalizing retryCount cause with
  | zero =>
      have spent : policy.maxAttempts ≤ retryCount := by omega
      rw [retryTrace_exhausted spent, retryLoop, if_pos spent]
      rfl
  | succ remaining induction =>
      have left : retryCount < policy.maxAttempts := by omega
      cases here : process retryCount with
      | returned status result =>
          have outcome := congrArg Attempt.outcome here
          rw [retryTrace_returned left outcome, retryLoop, if_neg (by omega), here]
          rfl
      | malformed exception | untestable exception =>
          have outcome := congrArg Attempt.outcome here
          rw [retryTrace_returned left outcome, retryLoop, if_neg (by omega), here]
          rfl
      | raised exception =>
          have outcome := congrArg Attempt.outcome here
          by_cases wrapped : ∃ message inner, exception = .maxRetry message inner
          · obtain ⟨message, inner, rfl⟩ := wrapped
            rw [retryTrace_maxRetry left outcome, retryLoop, if_neg (by omega), here]
            rfl
          have plain : ∀ message inner, exception ≠ .maxRetry message inner :=
            fun message inner same => wrapped ⟨message, inner, same⟩
          rw [retryLoop_raised left here plain]
          by_cases retries : policy.isRetryable exception = true
          · obtain ⟨backoff, slept⟩ :=
              (sleepForBackoff_ok_iff clock policy (retryCount + 1)).mpr (accepts _)
            rw [retryTrace_slept left outcome plain retries slept, if_pos retries]
            exact induction (retryCount + 1) _ (by omega)
          · rw [retryTrace_raised left outcome plain retries, if_neg retries]
            rfl

end Quiet

/-- Floats without rounding, and a `time.sleep` that accepts everything. -/
def exactClock : BackoffClock Rat where
  toFloat := fun number => if number.log2 < 1024 then some number else none
  toFloat_two_pow := by
    intro exponent
    rw [Nat.log2_two_pow]
    split
    · rename_i small
      exact iff_of_true rfl small
    · rename_i large
      exact iff_of_false Bool.false_ne_true large
  times := fun first second => first * second
  less := fun first second => first.exact < second.exact
  lessEq := fun first second => first.exact ≤ second.exact
  sleep := fun _ => none

def valueError : EventException := .builtin "ValueError" "failed"

theorem valueError_ne_maxRetry (message : String) (inner : Option EventException) :
    (.error valueError : Except EventException String) ≠ .error (.maxRetry message inner) := by
  simp [valueError, EventException.builtin]

end EventPipeline
