import EventPipeline.Execution.Dispatch

/-! # Evaluation policies

What the policies report once the futures of a context have been recorded.
-/

namespace EventPipeline

namespace EventExecutionContext

/-- What recording one outcome does to a context, unless it raises. -/
structure Records (before : EventExecutionContext) (outcome : Outcome)
    (after : EventExecutionContext) : Prop where
  taskProfiles : after.taskProfiles = before.taskProfiles
  results : 0 < after.executionResult.length
  errors : after.errors.length = before.errors.length + if outcome.isError then 1 else 0

end EventExecutionContext

theorem Outcome.receive_error {outcome : Outcome} {result : EventResult}
    {switch : Option Int} (received : outcome.receive = .ok (result, switch)) :
    result.error = outcome.isError :=
  Outcome.error_of_result (Outcome.result_of_receive received).1

namespace EventExecutionContext

theorem recordOutcome_records {heap : Heap} {before after : EventExecutionContext}
    {outcome : Outcome} (recorded : before.recordOutcome heap outcome = (after, none)) :
    Records before outcome after := by
  rcases received : outcome.receive with error | ⟨result, switch⟩
  · have ended := (@recordOutcome_of_refused heap before outcome error received).1
    rw [recorded] at ended
    cases ended
  · rw [recordOutcome_of_receive received] at recorded
    cases switch with
    | some descriptor => cases recorded
    | none =>
        cases recorded
        refine ⟨(stoppedBy_samePlace before outcome result).taskProfiles,
          ResultSet.length_add_pos _ _, ?_⟩
        have errors : (before.stoppedBy outcome).errors = before.errors := by
          unfold stoppedBy
          split <;> rfl
        simp only [EventExecutionContext.recorded, errors, Outcome.receive_error received]
        split <;> simp

/-- After all futures are recorded, there are as many errors as outcomes that
are errors, and there is a result. -/
theorem processExecutorResults_records {heap : Heap} {outcomes : List Outcome}
    {before after : EventExecutionContext}
    (processed : before.processExecutorResults heap outcomes = (after, none)) :
    after.taskProfiles = before.taskProfiles ∧
      (outcomes ≠ [] → 0 < after.executionResult.length) ∧
      after.errors.length = before.errors.length + outcomes.countP Outcome.isError := by
  induction outcomes generalizing before with
  | nil =>
      cases processed
      simp
  | cons outcome rest induction =>
      simp only [processExecutorResults] at processed
      rcases recorded : before.recordOutcome heap outcome with ⟨middle, _ | interruption⟩
      · rw [recorded] at processed
        have records := recordOutcome_records recorded
        have later := induction processed
        refine ⟨later.1.trans records.taskProfiles, fun _ => ?_, ?_⟩
        · cases rest with
          | nil =>
              cases processed
              exact records.results
          | cons next rest => exact later.2.1 (by simp)
        · rw [later.2.2, records.errors, List.countP_cons]
          omega
      · rw [recorded] at processed
        cases processed

/-- The answers a policy promises for a number of successes and of errors. -/
def MeetsPolicy (policy : EventExecutionEvaluationState) (successes errors : Nat)
    (failed success : Except PyError Bool) : Prop :=
  ∃ answer, failed = .ok answer ∧ success = .ok (!answer) ∧
    match policy with
    | .successOnAllEventsSuccess | .failureForPartialError => answer = true ↔ 0 < errors
    | .successForPartialSuccess | .failureForAllEventsFailure => answer = true ↔ successes = 0

/-- The context of some tasks before the first future is recorded. -/
def executing (profiles : List TaskId) : EventExecutionContext :=
  { taskProfiles := profiles, state := .executing }

/-- A policy means what it says exactly when it is about errors, or when some
future succeeded: errors are recorded as results too. -/
theorem meetsPolicy_iff (heap : Heap) (policies : String → EventExecutionEvaluationState)
    (profiles : List TaskId) (outcomes : List Outcome) (context : EventExecutionContext)
    (policy : EventExecutionEvaluationState)
    (evaluator : (executing profiles).getExecutionStateEvaluator heap policies = some policy)
    (nonempty : outcomes ≠ [])
    (processed : (executing profiles).processExecutorResults heap outcomes = (context, none))
    (running : context.state.isStopped = false) :
    MeetsPolicy policy (outcomes.countP fun outcome => !outcome.isError)
        (outcomes.countP Outcome.isError) (context.executionFailed heap policies)
        (context.executionSuccess heap policies) ↔
      policy = .successOnAllEventsSuccess ∨ policy = .failureForPartialError ∨
        0 < outcomes.countP fun outcome => !outcome.isError := by
  have records := processExecutorResults_records processed
  have same : context.getExecutionStateEvaluator heap policies = some policy := by
    rw [← evaluator]
    simp only [getExecutionStateEvaluator, getLastTaskProfileInChain, records.1]
  have failed : context.executionFailed heap policies =
      .ok (policy.contextEvaluation context.executionResult context.errors .failure) := by
    simp [executionFailed, running, same]
  have success : context.executionSuccess heap policies =
      .ok (!policy.contextEvaluation context.executionResult context.errors .failure) := by
    simp [executionSuccess, running, same,
      EventExecutionEvaluationState.contextEvaluation_success]
  have errors : context.errors.length = outcomes.countP Outcome.isError := by
    simpa [executing] using records.2.2
  rw [failed, success, EventExecutionEvaluationState.contextEvaluation_failure policy
    (records.2.1 nonempty), errors]
  cases policy <;> simp [MeetsPolicy, Nat.pos_iff_ne_zero]

def firstResult (error : Bool) : EventResult :=
  ⟨0, error, "A", .value "done", some 0, none, none, none⟩

theorem meetsPolicy_partialSuccess :
    MeetsPolicy .successForPartialSuccess 1 1
      (executionFailed ⟨[{ event := "A" }]⟩ (fun _ => .successForPartialSuccess)
        ((executing [0]).recorded (firstResult true) |>.recorded
          { firstResult false with id := 1 }))
      (executionSuccess ⟨[{ event := "A" }]⟩ (fun _ => .successForPartialSuccess)
        ((executing [0]).recorded (firstResult true) |>.recorded
          { firstResult false with id := 1 })) :=
  (meetsPolicy_iff ⟨[{ event := "A" }]⟩ (fun _ => .successForPartialSuccess) [0]
    [.returned (firstResult true), .returned { firstResult false with id := 1 }] _
    .successForPartialSuccess rfl (by decide) rfl rfl).mpr (by decide)

/-- One future, which fails, under the policy that asks for one success. -/
theorem not_meetsPolicy_onlyError :
    ¬MeetsPolicy .successForPartialSuccess 0 1
      (executionFailed ⟨[{ event := "A" }]⟩ (fun _ => .successForPartialSuccess)
        ((executing [0]).processExecutorResults ⟨[{ event := "A" }]⟩
          [.returned (firstResult true)]).1)
      (executionSuccess ⟨[{ event := "A" }]⟩ (fun _ => .successForPartialSuccess)
        ((executing [0]).processExecutorResults ⟨[{ event := "A" }]⟩
          [.returned (firstResult true)]).1) := by
  rintro ⟨answer, failed, _, promised⟩
  cases failed
  cases promised.mpr rfl

end EventExecutionContext

end EventPipeline
