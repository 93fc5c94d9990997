import EventPipeline.Execution.ContextLog

/-! # The state in which a dispatch ends

When `dispatch` returns, the context has been aborted, cancelled or finished as its
futures say, unless a switch ends the dispatch early, to a configured descriptor or while
the events are submitted: such a context is left executing.
-/

namespace EventPipeline

/-- The descriptor that a future asks to switch to. -/
def Outcome.descriptor? (outcome : Outcome) : Option Int :=
  match outcome.receive with
  | .ok (_, switch) => switch
  | .error _ => none

/-- The future is recorded, and the loop over the futures goes on. -/
def Outcome.Calm (outcome : Outcome) : Prop :=
  ∃ result, outcome.receive = .ok (result, none)

theorem Outcome.stops_of_receive {outcome : Outcome} {result : EventResult} {descriptor : Int}
    (received : outcome.receive = .ok (result, some descriptor)) : outcome.stops = false :=
  Outcome.stops_of_result (Outcome.result_of_receive received).1

namespace EventExecutionContext

theorem configured_congr {heap : Heap} {first second : EventExecutionContext}
    (same : second.taskProfiles = first.taskProfiles) (descriptor : Int) :
    Configured heap second descriptor ↔ Configured heap first descriptor := by
  simp only [Configured, getLastTaskProfileInChain_congr same]

/-! ## Recording the futures -/

/-- How recording one future ends. -/
inductive RecordedOne (heap : Heap) (before : EventExecutionContext) (outcome : Outcome)
    (after : EventExecutionContext) : Option Interruption → Prop
  | calm : outcome.Calm → after.taskProfiles = before.taskProfiles →
      after.state = (if outcome.stops then .cancelled else before.state) →
      RecordedOne heap before outcome after none
  | error {error} :
      (∀ descriptor, outcome.descriptor? = some descriptor →
        ¬Configured heap before descriptor) →
      RecordedOne heap before outcome after (some (.error error))
  | refused {descriptor} : outcome.descriptor? = some descriptor →
      ¬Configured heap before descriptor → after.state = .cancelled →
      RecordedOne heap before outcome after (some (.switchTask descriptor false))
  | granted {descriptor} : outcome.descriptor? = some descriptor →
      Configured heap before descriptor → after.state = before.state →
      RecordedOne heap before outcome after (some (.switchTask descriptor true))

theorem recordOutcome_cases (heap : Heap) (before : EventExecutionContext) (outcome : Outcome) :
    RecordedOne heap before outcome (before.recordOutcome heap outcome).1
      (before.recordOutcome heap outcome).2 := by
  rcases received : outcome.receive with error | ⟨result, _ | descriptor⟩
  · rw [(recordOutcome_of_refused received).1]
    exact .error (by simp [Outcome.descriptor?, received])
  · rw [recordOutcome_of_receive received]
    exact .calm ⟨result, received⟩ (stoppedBy_samePlace before outcome result).taskProfiles
      (stoppedBy_state before outcome result)
  · have asks : outcome.descriptor? = some descriptor := by
      simp [Outcome.descriptor?, received]
    have place := stoppedBy_samePlace before outcome result
    have state := stoppedBy_state before outcome result
    rw [Outcome.stops_of_receive received] at state
    rw [recordOutcome_of_receive received]
    simp only [switchTo, getLastTaskProfileInChain_congr place.taskProfiles]
    rcases profile : before.getLastTaskProfileInChain heap with _ | last
    · exact .error (by simp [Configured, profile])
    · rcases found : heap.get? last with _ | task
      · simp only [Option.bind_some, found]
        exact .error (by simp [Configured, profile, found])
      · simp only [Option.bind_some, found]
        rcases configured : descriptor.toNat?.bind task.extraConfig.getDescriptorConfig with
          _ | config
        · refine .refused asks ?_ rfl
          rintro ⟨other, otherTask, config, otherProfile, otherFound, otherConfigured⟩
          rw [profile, Option.some_inj] at otherProfile
          subst otherProfile
          rw [found, Option.some_inj] at otherFound
          subst otherFound
          rw [configured] at otherConfigured
          cases otherConfigured
        · exact .granted asks ⟨last, task, config, profile, found, configured⟩ state

/-- How recording all futures ends: all of them are recorded, or reading one of them
raises, or one of them asks to switch. -/
inductive RecordedAll (heap : Heap) (before : EventExecutionContext) (outcomes : List Outcome)
    (after : EventExecutionContext) : Option Interruption → Prop
  | calm : (∀ outcome ∈ outcomes, outcome.Calm) →
      after.state =
        (if outcomes.any Outcome.stops then .cancelled else before.state) →
      RecordedAll heap before outcomes after none
  | error {error} : RecordedAll heap before outcomes after (some (.error error))
  | refused {outcome descriptor} : outcome ∈ outcomes →
      outcome.descriptor? = some descriptor → ¬Configured heap before descriptor →
      after.state = .cancelled →
      RecordedAll heap before outcomes after (some (.switchTask descriptor false))
  | granted {earlier outcome later descriptor} : outcomes = earlier ++ outcome :: later →
      (∀ outcome ∈ earlier, outcome.Calm) → outcome.descriptor? = some descriptor →
      Configured heap before descriptor →
      after.state = (if earlier.any Outcome.stops then .cancelled else before.state) →
      RecordedAll heap before outcomes after (some (.switchTask descriptor true))

theorem processExecutorResults_cases (heap : Heap) (before : EventExecutionContext)
    (outcomes : List Outcome) :
    RecordedAll heap before outcomes (before.processExecutorResults heap outcomes).1
      (before.processExecutorResults heap outcomes).2 := by
  induction outcomes generalizing before with
  | nil => exact .calm (by simp) (by simp [processExecutorResults])
  | cons outcome rest induction =>
      have first := recordOutcome_cases heap before outcome
      simp only [processExecutorResults]
      rcases recorded : before.recordOutcome heap outcome with ⟨middle, interruption⟩
      rw [recorded] at first
      cases first with
      | error _ => exact .error
      | refused asks unconfigured cancelled =>
          exact .refused List.mem_cons_self asks unconfigured cancelled
      | granted asks configured state =>
          exact @RecordedAll.granted heap before (outcome :: rest) _ [] outcome rest _ rfl
            (by simp) asks configured (by simpa using state)
      | calm calm profiles state =>
          have later := induction middle
          simp only
          generalize middle.processExecutorResults heap rest = processed at later
          rcases processed with ⟨after, interruption⟩
          cases later with
          | error => exact .error
          | calm others after =>
              refine .calm ?_ ?_
              · intro other member
                rcases List.mem_cons.mp member with rfl | member
                · exact calm
                · exact others other member
              · rw [after, state, List.any_cons]
                cases outcome.stops <;> cases rest.any Outcome.stops <;> rfl
          | refused member asks unconfigured cancelled =>
              refine .refused (List.mem_cons_of_mem _ member) asks ?_ cancelled
              rwa [← configured_congr profiles]
          | @granted earlier other later descriptor split others asks configured after =>
              have whole : outcome :: rest = (outcome :: earlier) ++ other :: later := by
                rw [split, List.cons_append]
              refine .granted whole ?_ asks
                ((configured_congr profiles descriptor).mp configured) ?_
              · intro other member
                rcases List.mem_cons.mp member with rfl | member
                · exact calm
                · exact others other member
              · rw [after, state, List.any_cons]
                cases outcome.stops <;> cases earlier.any Outcome.stops <;> rfl

/-- A switch to a configured descriptor ends the loop where it is the first thing that
does. -/
theorem processExecutorResults_switches {heap : Heap} {before : EventExecutionContext}
    {earlier later : List Outcome} {outcome : Outcome} {descriptor : Int}
    (calm : ∀ outcome ∈ earlier, outcome.Calm ∧ outcome.stops = false)
    (asks : outcome.descriptor? = some descriptor)
    (configured : Configured heap before descriptor) :
    (before.processExecutorResults heap (earlier ++ outcome :: later)).1.state = before.state ∧
      (before.processExecutorResults heap (earlier ++ outcome :: later)).2 =
        some (.switchTask descriptor true) := by
  induction earlier generalizing before with
  | nil =>
      have first := recordOutcome_cases heap before outcome
      rw [List.nil_append, processExecutorResults]
      rcases recorded : before.recordOutcome heap outcome with ⟨middle, interruption⟩
      rw [recorded] at first
      cases first with
      | error unconfigured => exact absurd configured (unconfigured descriptor asks)
      | calm calm _ _ =>
          rcases calm with ⟨result, received⟩
          simp [Outcome.descriptor?, received] at asks
      | refused otherAsks unconfigured _ =>
          rw [asks, Option.some_inj] at otherAsks
          exact absurd configured (otherAsks ▸ unconfigured)
      | granted otherAsks _ state =>
          rw [asks, Option.some_inj] at otherAsks
          exact ⟨state, by rw [otherAsks]⟩
  | cons other earlier induction =>
      have first := recordOutcome_cases heap before other
      rcases calm other List.mem_cons_self with ⟨⟨result, received⟩, running⟩
      have silent : other.descriptor? = none := by simp [Outcome.descriptor?, received]
      rw [List.cons_append, processExecutorResults]
      rcases recorded : before.recordOutcome heap other with ⟨middle, interruption⟩
      rw [recorded] at first
      cases first with
      | error _ =>
          have calmly : (before.recordOutcome heap other).2 = none := by
            rw [recordOutcome_of_receive received]
          rw [recorded] at calmly
          cases calmly
      | refused otherAsks _ _ =>
          rw [silent] at otherAsks
          cases otherAsks
      | granted otherAsks _ _ =>
          rw [silent] at otherAsks
          cases otherAsks
      | calm _ profiles state =>
          rw [running] at state
          have onward := induction (fun other member => calm other (List.mem_cons_of_mem _ member))
            ((configured_congr profiles descriptor).mpr configured)
          exact ⟨onward.1.trans state, onward.2⟩

/-! ## The end of a dispatch -/

section Ends

variable (heap : Heap) (futures : Except SubmissionFailure (List Outcome))
  (context : EventExecutionContext)

/-- Building or submitting the events, or reading what their futures deliver, raises an
exception other than a request to switch. -/
def Raises : Prop :=
  (∃ text, futures = .error (.raised text)) ∨
    ∃ outcomes error, futures = .ok outcomes ∧
      ({ context with state := .executing }.processExecutorResults heap outcomes).2 =
        some (.error error)

/-- An event stops the pipeline, or asks to switch to a descriptor that is not
configured. -/
def Stops : Prop :=
  ∃ outcomes, futures = .ok outcomes ∧ ∃ outcome ∈ outcomes, outcome.stops = true ∨
    ∃ descriptor, outcome.descriptor? = some descriptor ∧ ¬Configured heap context descriptor

/-- The dispatch ends in a terminal state, and in the one that its futures call for. -/
structure EndsAsPromised : Prop where
  terminal : (context.dispatch heap futures).1.state = .finished ∨
    (context.dispatch heap futures).1.state = .cancelled ∨
    (context.dispatch heap futures).1.state = .aborted
  aborted : (context.dispatch heap futures).1.state = .aborted ↔ Raises heap futures context
  cancelled : (context.dispatch heap futures).1.state = .cancelled ↔
    ¬Raises heap futures context ∧ Stops heap futures context
  finished : (context.dispatch heap futures).1.state = .finished ↔
    ¬Raises heap futures context ∧ ¬Stops heap futures context

/-- A switch is raised while the events are built or submitted; or one to a configured
descriptor is the first thing that ends the loop over the futures, and no event has stopped
the pipeline before. -/
def SwitchesFirst : Prop :=
  (∃ descriptor, futures = .error (.switchTask descriptor)) ∨
    ∃ earlier outcome later descriptor, futures = .ok (earlier ++ outcome :: later) ∧
      (∀ outcome ∈ earlier, outcome.Calm ∧ outcome.stops = false) ∧
      outcome.descriptor? = some descriptor ∧ Configured heap context descriptor

variable {heap futures context}

theorem dispatch_state_of_switchesFirst (switches : SwitchesFirst heap futures context) :
    (context.dispatch heap futures).1.state = .executing := by
  rcases switches with
    ⟨descriptor, rfl⟩ | ⟨earlier, outcome, later, descriptor, rfl, calm, asks, configured⟩
  · rfl
  have started : Configured heap { context with state := .executing } descriptor := configured
  rcases @processExecutorResults_switches heap _ earlier later outcome descriptor calm asks
    started with ⟨state, interruption⟩
  unfold dispatch
  rcases processed : ({ context with state := .executing } :
    EventExecutionContext).processExecutorResults heap (earlier ++ outcome :: later) with
    ⟨after, ended⟩
  rw [processed] at state interruption
  obtain rfl : ended = some (.switchTask descriptor true) := interruption
  simp only [processed]
  exact state

theorem EndsAsPromised.of_aborted (state : (context.dispatch heap futures).1.state = .aborted)
    (raises : Raises heap futures context) : EndsAsPromised heap futures context :=
  ⟨.inr (.inr state), by simp [state, raises], by simp [state, raises],
    by simp [state, raises]⟩

theorem EndsAsPromised.of_cancelled
    (state : (context.dispatch heap futures).1.state = .cancelled)
    (calm : ¬Raises heap futures context) (stops : Stops heap futures context) :
    EndsAsPromised heap futures context :=
  ⟨.inr (.inl state), by simp [state, calm], by simp [state, calm, stops],
    by simp [state, stops]⟩

theorem EndsAsPromised.of_finished
    (state : (context.dispatch heap futures).1.state = .finished)
    (calm : ¬Raises heap futures context) (runs : ¬Stops heap futures context) :
    EndsAsPromised heap futures context :=
  ⟨.inl state, by simp [state, calm], by simp [state, runs], by simp [state, calm, runs]⟩

/-- The state of a context when the loop over its futures has ended. -/
def closingState (after : EventExecutionContext) : Option Interruption → ExecutionState
  | none => if after.state = .executing then .finished else after.state
  | some (.switchTask _ _) => after.state
  | some (.error _) => .aborted

theorem dispatch_state_eq (heap : Heap) (outcomes : List Outcome)
    (context : EventExecutionContext) :
    (context.dispatch heap (.ok outcomes)).1.state =
      ({ context with state := .executing }.processExecutorResults heap outcomes).1.closingState
        ({ context with state := .executing }.processExecutorResults heap outcomes).2 := by
  rw [dispatch]
  rcases ({ context with state := .executing } :
    EventExecutionContext).processExecutorResults heap outcomes with
    ⟨after, _ | ⟨descriptor, configured⟩ | error⟩
  · simp only [closingState]
    split <;> rfl
  · rfl
  · rfl

theorem not_raises {outcomes : List Outcome}
    (calm : ∀ error, ({ context with state := .executing }.processExecutorResults heap
      outcomes).2 ≠ some (.error error)) : ¬Raises heap (.ok outcomes) context := by
  rintro (⟨text, refused⟩ | ⟨others, error, same, raised⟩)
  · cases refused
  · cases same
    exact calm error raised

theorem endsAsPromised_or_switchesFirst :
    EndsAsPromised heap futures context ∨ SwitchesFirst heap futures context := by
  cases futures with
  | error failure =>
      cases failure with
      | raised text => exact .inl (.of_aborted rfl (.inl ⟨text, rfl⟩))
      | switchTask descriptor => exact .inr (.inl ⟨descriptor, rfl⟩)
  | ok outcomes =>
      have recorded := processExecutorResults_cases heap { context with state := .executing }
        outcomes
      have raises := @not_raises heap context outcomes
      have ends := dispatch_state_eq heap outcomes context
      generalize processed : ({ context with state := .executing } :
        EventExecutionContext).processExecutorResults heap outcomes = result
        at recorded raises ends
      rcases result with ⟨after, interruption⟩
      cases recorded with
      | @error error =>
          refine .inl (.of_aborted (ends.trans rfl) (.inr ⟨outcomes, error, rfl, ?_⟩))
          rw [processed]
      | refused member asks unconfigured cancelled =>
          refine .inl (.of_cancelled (ends.trans cancelled) (raises (by simp)) ?_)
          exact ⟨outcomes, rfl, _, member, .inr ⟨_, asks, unconfigured⟩⟩
      | @granted earlier outcome later descriptor split calm asks configured state =>
          subst split
          cases stops : earlier.any Outcome.stops with
          | true =>
              rw [stops, if_pos rfl] at state
              rcases List.any_eq_true.mp stops with ⟨stopping, member, stopped⟩
              refine .inl (.of_cancelled (ends.trans state) (raises (by simp)) ?_)
              exact ⟨_, rfl, stopping, List.mem_append_left _ member, .inl stopped⟩
          | false =>
              refine .inr (.inr ⟨earlier, outcome, later, descriptor, rfl, ?_, asks, configured⟩)
              intro other member
              refine ⟨calm other member, ?_⟩
              simpa using List.any_eq_false.mp stops other member
      | calm calm state =>
          cases stops : outcomes.any Outcome.stops with
          | true =>
              rw [stops, if_pos rfl] at state
              rcases List.any_eq_true.mp stops with ⟨stopping, member, stopped⟩
              refine .inl (.of_cancelled ?_ (raises (by simp)) ?_)
              · have cancelled : after.state = .cancelled := state
                exact ends.trans (by simp [closingState, cancelled])
              · exact ⟨outcomes, rfl, stopping, member, .inl stopped⟩
          | false =>
              rw [stops, if_neg (by simp)] at state
              refine .inl (.of_finished ?_ (raises (by simp)) ?_)
              · have executing : after.state = .executing := state
                exact ends.trans (by simp [closingState, executing])
              · rintro ⟨_, ⟨⟩, outcome, member, stopped | ⟨descriptor, asks, _⟩⟩
                · exact List.any_eq_false.mp stops outcome member stopped
                · rcases calm outcome member with ⟨result, received⟩
                  simp [Outcome.descriptor?, received] at asks

theorem EndsAsPromised.state_ne_executing {heap : Heap}
    {futures : Except SubmissionFailure (List Outcome)} {context : EventExecutionContext}
    (promised : EndsAsPromised heap futures context) :
    (context.dispatch heap futures).1.state ≠ .executing := by
  intro executing
  rcases promised.terminal with other | other | other
  · rw [executing] at other
    cases other
  · rw [executing] at other
    cases other
  · rw [executing] at other
    cases other

/-- A dispatch ends in the state that its futures call for exactly when it does not end
early with a switch. -/
theorem endsAsPromised_iff (heap : Heap) (futures : Except SubmissionFailure (List Outcome))
    (context : EventExecutionContext) :
    EndsAsPromised heap futures context ↔ ¬SwitchesFirst heap futures context := by
  constructor
  · intro promised switches
    exact promised.state_ne_executing (dispatch_state_of_switchesFirst switches)
  · exact fun straight => endsAsPromised_or_switchesFirst.resolve_right straight

end Ends

/-- In `A(2->B,3->C)` the event of `A` asks to switch to the descriptor 2, and its context
is left executing. -/
theorem not_endsAsPromised_switch :
    ¬EndsAsPromised switchHeap
      (.ok [.switched 2 ⟨0, false, "A", .none, some 0, none, none, none⟩])
      { taskProfiles := [0] } := by
  intro promised
  have executing : (dispatch switchHeap
      (.ok [.switched 2 ⟨0, false, "A", .none, some 0, none, none, none⟩])
      { taskProfiles := [0] }).1.state = .executing := rfl
  exact promised.state_ne_executing executing

end EventExecutionContext

end EventPipeline
