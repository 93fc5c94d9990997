import EventPipeline.Execution.Recording

/-! # How a dispatch ends

A dispatched context keeps its tasks and its links. It has stopped, or it has
finished, or it is left executing with a request to switch: to a task that its
last task has a descriptor for, or raised while the events were submitted.
-/

namespace EventPipeline.EventExecutionContext

structure SamePlace (before after : EventExecutionContext) : Prop where
  taskProfiles : after.taskProfiles = before.taskProfiles
  previousContext : after.previousContext = before.previousContext
  nextContext : after.nextContext = before.nextContext

theorem SamePlace.refl (context : EventExecutionContext) : SamePlace context context :=
  ⟨rfl, rfl, rfl⟩

theorem SamePlace.trans {first second third : EventExecutionContext}
    (left : SamePlace first second) (right : SamePlace second third) :
    SamePlace first third :=
  ⟨right.taskProfiles.trans left.taskProfiles,
    right.previousContext.trans left.previousContext,
    right.nextContext.trans left.nextContext⟩

theorem SamePlace.of_interrupted {before after : EventExecutionContext} {outcome : Outcome}
    (interrupted : Interrupted before after outcome) : SamePlace before after :=
  ⟨interrupted.taskProfiles, interrupted.previousContext, interrupted.nextContext⟩

theorem stoppedBy_samePlace (context : EventExecutionContext) (outcome : Outcome)
    (result : EventResult) : SamePlace context ((context.stoppedBy outcome).recorded result) := by
  unfold stoppedBy
  split <;> exact ⟨rfl, rfl, rfl⟩

theorem stoppedBy_state (context : EventExecutionContext) (outcome : Outcome)
    (result : EventResult) :
    ((context.stoppedBy outcome).recorded result).state =
      if outcome.stops then .cancelled else context.state := by
  unfold stoppedBy
  split <;> rfl

theorem getLastTaskProfileInChain_congr {heap : Heap} {first second : EventExecutionContext}
    (same : second.taskProfiles = first.taskProfiles) :
    second.getLastTaskProfileInChain heap = first.getLastTaskProfileInChain heap := by
  simp only [getLastTaskProfileInChain, same]

/-- The last task of the context has a descriptor of its own for a switch. -/
def Configured (heap : Heap) (context : EventExecutionContext) (descriptor : Int) : Prop :=
  ∃ last task config, context.getLastTaskProfileInChain heap = some last ∧
    heap.get? last = some task ∧
    descriptor.toNat?.bind task.extraConfig.getDescriptorConfig = some config

/-- How a context is left when recording its futures ends. -/
structure Recorded (heap : Heap) (before after : EventExecutionContext)
    (interruption : Option Interruption) : Prop where
  place : SamePlace before after
  state : after.state = .executing ∨ after.state = .cancelled
  configured : ∀ descriptor, interruption = some (.switchTask descriptor true) →
    Configured heap before descriptor
  unconfigured : ∀ descriptor, interruption = some (.switchTask descriptor false) →
    after.state = .cancelled

section Recording

variable (heap : Heap) {before : EventExecutionContext}
  (running : before.state = .executing ∨ before.state = .cancelled)
include running

theorem switchTo_recorded (descriptor : Int) :
    Recorded heap before (before.switchTo heap descriptor).1
      (some (before.switchTo heap descriptor).2) := by
  unfold switchTo
  rcases profile : before.getLastTaskProfileInChain heap with _ | last
  · exact ⟨.refl _, running, by simp, by simp⟩
  · rcases found : heap.get? last with _ | task
    · simp only [Option.bind_some, found]
      exact ⟨.refl _, running, by simp, by simp⟩
    · simp only [Option.bind_some, found]
      rcases configured : descriptor.toNat?.bind task.extraConfig.getDescriptorConfig with
        _ | config
      · exact ⟨⟨rfl, rfl, rfl⟩, .inr rfl, by simp, fun _ _ => rfl⟩
      · refine ⟨.refl _, running, fun other same => ?_, by simp⟩
        simp only [Option.some.injEq, Interruption.switchTask.injEq, and_true] at same
        exact same ▸ ⟨last, task, config, profile, found, configured⟩

theorem recordOutcome_recorded (outcome : Outcome) :
    Recorded heap before (before.recordOutcome heap outcome).1
      (before.recordOutcome heap outcome).2 := by
  rcases received : outcome.receive with error | ⟨result, switch⟩
  · rcases @recordOutcome_of_refused heap before outcome error received with ⟨ended, interrupted⟩
    rw [ended]
    refine ⟨.of_interrupted interrupted, ?_, by simp, by simp⟩
    rw [interrupted.state]
    split
    · exact .inr rfl
    · exact running
  · rw [recordOutcome_of_receive received]
    have place := stoppedBy_samePlace before outcome result
    have state : ((before.stoppedBy outcome).recorded result).state = .executing ∨
        ((before.stoppedBy outcome).recorded result).state = .cancelled := by
      rw [stoppedBy_state]
      split
      · exact .inr rfl
      · exact running
    cases switch with
    | none => exact ⟨place, state, by simp, by simp⟩
    | some descriptor =>
        have switched := switchTo_recorded heap state descriptor
        refine ⟨place.trans switched.place, switched.state, fun other same => ?_,
          fun other same => switched.unconfigured other same⟩
        rcases switched.configured other same with ⟨last, task, config, profile, rest⟩
        rw [getLastTaskProfileInChain_congr place.taskProfiles] at profile
        exact ⟨last, task, config, profile, rest⟩

end Recording

theorem processExecutorResults_recorded (heap : Heap) (outcomes : List Outcome)
    {before : EventExecutionContext}
    (running : before.state = .executing ∨ before.state = .cancelled) :
    Recorded heap before (before.processExecutorResults heap outcomes).1
      (before.processExecutorResults heap outcomes).2 := by
  induction outcomes generalizing before with
  | nil => exact ⟨.refl _, running, by simp [processExecutorResults],
      by simp [processExecutorResults]⟩
  | cons outcome rest induction =>
      have first := recordOutcome_recorded heap running outcome
      simp only [processExecutorResults]
      rcases recorded : before.recordOutcome heap outcome with ⟨middle, _ | interruption⟩
      · rw [recorded] at first
        have later := induction first.state
        refine ⟨first.place.trans later.place, later.state, fun descriptor same => ?_,
          later.unconfigured⟩
        rcases later.configured descriptor same with ⟨last, task, config, profile, found⟩
        rw [getLastTaskProfileInChain_congr first.place.taskProfiles] at profile
        exact ⟨last, task, config, profile, found⟩
      · rw [recorded] at first
        exact first

/-- How a dispatched context is left, with the request that `dispatch` returns. -/
inductive Ended (heap : Heap) (futures : Except SubmissionFailure (List Outcome))
    (before after : EventExecutionContext) : Option SwitchRequest → Prop
  | stopped {switch} : after.state.isStopped = true → Ended heap futures before after switch
  | finished : after.state = .finished → Ended heap futures before after none
  | switching {outcomes descriptor} : futures = .ok outcomes → after.state = .executing →
      Configured heap before descriptor →
      Ended heap futures before after (some ⟨descriptor, true⟩)
  | unsubmitted {descriptor} : futures = .error (.switchTask descriptor) →
      after = { before with state := .executing } →
      Ended heap futures before after (some ⟨descriptor, false⟩)

theorem dispatch_cases (heap : Heap) (futures : Except SubmissionFailure (List Outcome))
    (context : EventExecutionContext) :
    SamePlace context (context.dispatch heap futures).1 ∧
      Ended heap futures context (context.dispatch heap futures).1
        (context.dispatch heap futures).2 := by
  unfold dispatch
  cases futures with
  | error failure =>
      cases failure with
      | raised text => exact ⟨⟨rfl, rfl, rfl⟩, .stopped rfl⟩
      | switchTask descriptor => exact ⟨⟨rfl, rfl, rfl⟩, .unsubmitted rfl rfl⟩
  | ok outcomes =>
      have recorded := @processExecutorResults_recorded heap outcomes
        { context with state := .executing } (.inl rfl)
      simp only
      rcases processed : ({ context with state := .executing } :
        EventExecutionContext).processExecutorResults heap outcomes with
        ⟨after, _ | ⟨descriptor, configured⟩ | error⟩
      · rw [processed] at recorded
        have place : SamePlace context after :=
          ⟨recorded.place.1, recorded.place.2, recorded.place.3⟩
        simp only
        split
        · exact ⟨⟨place.1, place.2, place.3⟩, .finished rfl⟩
        · refine ⟨place, .stopped ?_⟩
          rcases recorded.state with executing | cancelled
          · exact absurd executing ‹_›
          · rw [cancelled]
            rfl
      · rw [processed] at recorded
        have place : SamePlace context after :=
          ⟨recorded.place.1, recorded.place.2, recorded.place.3⟩
        refine ⟨place, ?_⟩
        rcases recorded.state with executing | cancelled
        · cases configured with
          | false =>
              rw [recorded.unconfigured descriptor rfl] at executing
              cases executing
          | true =>
              refine .switching rfl executing ?_
              exact recorded.configured descriptor rfl
        · refine .stopped ?_
          rw [cancelled]
          rfl
      · rw [processed] at recorded
        exact ⟨⟨recorded.place.1, recorded.place.2, recorded.place.3⟩, .stopped rfl⟩

theorem taskProfiles_of_dispatch {heap : Heap} {futures : Except SubmissionFailure (List Outcome)}
    {context after : EventExecutionContext} {switch : Option SwitchRequest}
    (dispatched : context.dispatch heap futures = (after, switch)) :
    after.taskProfiles = context.taskProfiles := by
  have place := (dispatch_cases heap futures context).1.taskProfiles
  rwa [dispatched] at place

/-! ## Without a request to switch -/

theorem recordOutcome_straight (heap : Heap) (context : EventExecutionContext)
    {outcome : Outcome} (straight : outcome.asksToSwitch = false) (descriptor : Int)
    (configured : Bool) :
    (context.recordOutcome heap outcome).2 ≠ some (.switchTask descriptor configured) := by
  unfold Outcome.asksToSwitch at straight
  rcases received : outcome.receive with error | ⟨result, _ | target⟩
  · rw [(recordOutcome_of_refused received).1]
    simp
  · rw [recordOutcome_of_receive received]
    simp
  · simp [received] at straight

theorem processExecutorResults_straight (heap : Heap) {outcomes : List Outcome}
    (straight : ∀ outcome ∈ outcomes, outcome.asksToSwitch = false)
    (context : EventExecutionContext) (descriptor : Int) (configured : Bool) :
    (context.processExecutorResults heap outcomes).2 ≠
      some (.switchTask descriptor configured) := by
  induction outcomes generalizing context with
  | nil => simp [processExecutorResults]
  | cons outcome rest induction =>
      have first := recordOutcome_straight heap context
        (straight outcome List.mem_cons_self) descriptor configured
      simp only [processExecutorResults]
      rcases recorded : context.recordOutcome heap outcome with ⟨middle, _ | interruption⟩
      · exact induction (fun other member => straight other (List.mem_cons_of_mem _ member))
          middle
      · rw [recorded] at first
        exact first

/-- A context is left executing only when an event asks to switch, or a switch is raised while
the events are submitted. -/
theorem dispatch_state_ne_executing (heap : Heap)
    {futures : Except SubmissionFailure (List Outcome)}
    (submits : ∀ descriptor, futures ≠ .error (.switchTask descriptor))
    (straight : ∀ outcomes, futures = .ok outcomes →
      ∀ outcome ∈ outcomes, outcome.asksToSwitch = false)
    (context : EventExecutionContext) :
    (context.dispatch heap futures).1.state ≠ .executing := by
  unfold dispatch
  cases futures with
  | error failure =>
      cases failure with
      | raised text => simp [fail, abort]
      | switchTask descriptor => exact absurd rfl (submits descriptor)
  | ok outcomes =>
      have nothing := processExecutorResults_straight heap (straight outcomes rfl)
        { context with state := .executing }
      simp only
      rcases processed : ({ context with state := .executing } :
        EventExecutionContext).processExecutorResults heap outcomes with
        ⟨after, _ | ⟨descriptor, configured⟩ | error⟩
      · simp only
        split
        · simp
        · exact ‹_›
      · rw [processed] at nothing
        exact absurd rfl (nothing descriptor configured)
      · simp [fail, abort]

end EventPipeline.EventExecutionContext
