import EventPipeline.Execution.Evaluation
import EventPipeline.Execution.Terminal

/-! # Sets without an order

The tasks of a group and the futures that are done are sets, which are iterated in any order.
The order makes no difference to how a run goes on, unless the first of several events that end
the loop over the futures is the one that decides.
-/

namespace EventPipeline

/-- An event that asks for a switch that is configured decides alone: all others are recorded,
and do not stop the processing, or ask for the same switch. -/
def Unambiguous (heap : Heap) (context : EventExecutionContext) (outcomes : List Outcome) :
    Prop :=
  ∀ outcome ∈ outcomes, ∀ descriptor, outcome.descriptor? = some descriptor →
    EventExecutionContext.Configured heap context descriptor →
    ∀ other ∈ outcomes, other.descriptor? = some descriptor ∨
      other.Calm ∧ other.stops = false

def SwitchRequest.granted : Option SwitchRequest → Option Int
  | some ⟨descriptor, true⟩ => some descriptor
  | _ => none

/-- What a run sees of a dispatched context is the same. -/
structure SameEnd (first second : EventExecutionContext × Option SwitchRequest) : Prop where
  stopped : first.1.state.isStopped = second.1.state.isStopped
  switch : first.1.state.isStopped = false →
    SwitchRequest.granted first.2 = SwitchRequest.granted second.2
  evaluation : first.1.state.isStopped = false → SwitchRequest.granted first.2 = none →
    ∀ policy : EventExecutionEvaluationState,
      policy.contextEvaluation first.1.executionResult first.1.errors .failure =
        policy.contextEvaluation second.1.executionResult second.1.errors .failure

theorem SameEnd.of_stopped {first second : EventExecutionContext × Option SwitchRequest}
    (stopped : first.1.state.isStopped = true) (alike : second.1.state.isStopped = true) :
    SameEnd first second := by
  constructor
  · rw [stopped, alike]
  · intro running
    rw [stopped] at running
    cases running
  · intro running
    rw [stopped] at running
    cases running

namespace EventExecutionContext

variable {heap : Heap} {context : EventExecutionContext} {outcomes : List Outcome}

/-! ## How the futures end -/

theorem processExecutorResults_calm (calm : ∀ outcome ∈ outcomes, outcome.Calm) :
    (context.processExecutorResults heap outcomes).2 = none := by
  induction outcomes generalizing context with
  | nil => rfl
  | cons outcome rest induction =>
      rcases calm outcome List.mem_cons_self with ⟨result, received⟩
      simp only [processExecutorResults, recordOutcome_of_receive received]
      exact induction fun other member => calm other (List.mem_cons_of_mem _ member)

theorem dispatch_switching {descriptor : Int} {outcome : Outcome} (member : outcome ∈ outcomes)
    (asks : outcome.descriptor? = some descriptor) (configured : Configured heap context descriptor)
    (others : ∀ other ∈ outcomes, other.descriptor? = some descriptor ∨
      other.Calm ∧ other.stops = false) :
    (context.dispatch heap (.ok outcomes)).1.state = .executing ∧
      (context.dispatch heap (.ok outcomes)).2 = some ⟨descriptor, true⟩ := by
  have present : (outcomes.find? fun other => other.descriptor? = some descriptor).isSome := by
    rw [List.find?_isSome]
    exact ⟨outcome, member, decide_eq_true asks⟩
  rcases Option.isSome_iff_exists.mp present with ⟨first, found⟩
  rcases List.find?_eq_some_iff_append.mp found with ⟨firstAsks, earlier, later, split, before⟩
  have calm : ∀ other ∈ earlier, other.Calm ∧ other.stops = false := by
    intro other early
    have silent := before other early
    rcases others other (by rw [split]; exact List.mem_append_left _ early) with alike | calm
    · simp [alike] at silent
    · exact calm
  have processed := @processExecutorResults_switches heap { context with state := .executing }
    earlier later first descriptor calm (of_decide_eq_true firstAsks) configured
  rw [split, dispatch]
  generalize ({ context with state := .executing } :
    EventExecutionContext).processExecutorResults heap (earlier ++ first :: later) = result
    at processed
  rcases result with ⟨after, interruption⟩
  cases processed.2
  exact ⟨processed.1, rfl⟩

/-- What is left when all events are recorded and none stops the processing. -/
structure Settled (before : EventExecutionContext) (outcomes : List Outcome)
    (ended : EventExecutionContext × Option SwitchRequest) : Prop where
  state : ended.1.state = .finished
  switch : ended.2 = none
  results : 0 < ended.1.executionResult.length ↔
    0 < outcomes.length ∨ 0 < before.executionResult.length
  errors : ended.1.errors.length = before.errors.length + outcomes.countP Outcome.isError

theorem dispatch_settled
    (calm : ∀ outcome ∈ outcomes, outcome.Calm ∧ outcome.stops = false) :
    Settled context outcomes (context.dispatch heap (.ok outcomes)) := by
  have quiet := @processExecutorResults_calm heap { context with state := .executing } outcomes
    fun outcome member => (calm outcome member).1
  have recorded := processExecutorResults_cases heap { context with state := .executing } outcomes
  rcases processed : ({ context with state := .executing } :
    EventExecutionContext).processExecutorResults heap outcomes with ⟨after, interruption⟩
  rw [processed] at quiet recorded
  cases quiet
  have records := processExecutorResults_records processed
  have running : after.state = .executing := by
    cases recorded with
    | calm _ state =>
        have unstopped : outcomes.any Outcome.stops = false := by
          rw [List.any_eq_false]
          intro outcome member
          simp [(calm outcome member).2]
        rw [state, unstopped]
        rfl
  simp only [dispatch, processed, if_pos running]
  refine ⟨rfl, rfl, ?_, records.2.2⟩
  cases outcomes with
  | nil =>
      cases processed
      simp
  | cons outcome rest => simpa using records.2.1 (by simp)

/-- When no configured switch is asked for, a context goes on exactly when all events are
recorded and none stops the processing. -/
theorem dispatch_isStopped_iff
    (straight : ∀ outcome ∈ outcomes, ∀ descriptor, outcome.descriptor? = some descriptor →
      ¬Configured heap context descriptor) :
    (context.dispatch heap (.ok outcomes)).1.state.isStopped = false ↔
      ∀ outcome ∈ outcomes, outcome.Calm ∧ outcome.stops = false := by
  constructor
  · intro running
    rw [dispatch_state_eq] at running
    have recorded := processExecutorResults_cases heap { context with state := .executing }
      outcomes
    rcases processed : ({ context with state := .executing } :
      EventExecutionContext).processExecutorResults heap outcomes with ⟨after, interruption⟩
    rw [processed] at recorded running
    cases recorded with
    | error => cases running
    | refused member asks unconfigured cancelled =>
        have stopped : after.state = .cancelled := cancelled
        simp only [closingState, stopped] at running
        cases running
    | granted split calm asks configured state =>
        refine absurd configured (straight _ ?_ _ asks)
        rw [split]
        simp
    | calm calm state =>
        intro outcome member
        refine ⟨calm outcome member, ?_⟩
        by_contra stops
        have any : outcomes.any Outcome.stops = true :=
          List.any_eq_true.mpr ⟨outcome, member, by simpa using stops⟩
        rw [any] at state
        have cancelled : after.state = .cancelled := state
        simp only [closingState, cancelled] at running
        cases running
  · intro calm
    rw [(dispatch_settled calm).state]
    rfl

/-! ## Permuted futures -/

theorem contextEvaluation_congr {results others : ResultSet} {errors failures : List PipelineError}
    (sameResults : 0 < results.length ↔ 0 < others.length)
    (sameErrors : 0 < errors.length ↔ 0 < failures.length)
    (policy : EventExecutionEvaluationState) (aspect : EvaluationContext) :
    policy.contextEvaluation results errors aspect =
      policy.contextEvaluation others failures aspect := by
  simp only [EventExecutionEvaluationState.contextEvaluation,
    EventExecutionEvaluationState.evaluate, sameResults, sameErrors]

/-- The order of the futures makes no difference when it is unambiguous which of them
decides. -/
theorem sameEnd_of_perm {second : EventExecutionContext} {others : List Outcome}
    (same : ∀ descriptor, Configured heap second descriptor ↔ Configured heap context descriptor)
    (results : second.executionResult = context.executionResult)
    (errors : second.errors = context.errors)
    (permuted : outcomes.Perm others) (unambiguous : Unambiguous heap context outcomes) :
    SameEnd (context.dispatch heap (.ok outcomes)) (second.dispatch heap (.ok others)) := by
  by_cases asked : ∃ outcome ∈ outcomes, ∃ descriptor,
      outcome.descriptor? = some descriptor ∧ Configured heap context descriptor
  · rcases asked with ⟨outcome, member, descriptor, asks, configured⟩
    have decides := unambiguous outcome member descriptor asks configured
    have first := dispatch_switching member asks configured decides
    have again := dispatch_switching (permuted.mem_iff.mp member) asks
      ((same descriptor).mpr configured)
      fun other otherMember => decides other (permuted.mem_iff.mpr otherMember)
    constructor
    · rw [first.1, again.1]
    · intro _
      rw [first.2, again.2]
    · intro _ silent
      rw [first.2] at silent
      cases silent
  · have straight : ∀ outcome ∈ outcomes, ∀ descriptor, outcome.descriptor? = some descriptor →
        ¬Configured heap context descriptor := by
      intro outcome member descriptor asks configured
      exact asked ⟨outcome, member, descriptor, asks, configured⟩
    have straightAgain : ∀ outcome ∈ others, ∀ descriptor,
        outcome.descriptor? = some descriptor → ¬Configured heap second descriptor := by
      intro outcome member descriptor asks configured
      exact straight outcome (permuted.mem_iff.mpr member) descriptor asks
        ((same descriptor).mp configured)
    have first := dispatch_isStopped_iff straight
    have again := dispatch_isStopped_iff straightAgain
    have alike : (context.dispatch heap (.ok outcomes)).1.state.isStopped = false ↔
        (second.dispatch heap (.ok others)).1.state.isStopped = false := by
      rw [first, again]
      exact forall_congr' fun outcome => imp_congr_left permuted.mem_iff
    have settled (running : (context.dispatch heap (.ok outcomes)).1.state.isStopped = false) :
        Settled context outcomes (context.dispatch heap (.ok outcomes)) ∧
          Settled second others (second.dispatch heap (.ok others)) :=
      ⟨dispatch_settled (first.mp running), dispatch_settled (again.mp (alike.mp running))⟩
    constructor
    · rw [Bool.eq_iff_iff, ← not_iff_not, Bool.not_eq_true, Bool.not_eq_true]
      exact alike
    · intro running
      rw [(settled running).1.switch, (settled running).2.switch]
    · intro running _ policy
      rcases settled running with ⟨one, other⟩
      apply contextEvaluation_congr
      · rw [one.results, other.results, results, permuted.length_eq]
      · rw [one.errors, other.errors, errors, permuted.countP_eq]

end EventExecutionContext

/-! ## Permuted groups -/

theorem collectParallel_onSuccessPipe {heap : Heap} {fuel : Nat} {start last : Option TaskId}
    {tasks : List TaskId} (collected : collectParallel heap fuel start = some (tasks, last)) :
    ∀ task ∈ tasks, (heap.get? task).bind PipelineTask.onSuccessPipe = some .parallelism := by
  induction fuel generalizing start tasks with
  | zero => cases collected
  | succ fuel induction =>
      cases start with
      | none =>
          cases collected
          simp
      | some id =>
          simp only [collectParallel] at collected
          split at collected
          · cases collected
          · rename_i record found
            split at collected
            · rename_i leads
              rcases Option.map_eq_some_iff.mp collected with ⟨⟨inner, behind⟩, rest, same⟩
              cases same
              intro task member
              rcases List.mem_cons.mp member with rfl | member
              · rw [found]
                exact leads
              · exact induction rest task member
            · cases collected
              simp

theorem getLastTaskProfileInChain_several {heap : Heap} {context : EventExecutionContext}
    (several : context.taskProfiles.length ≠ 1) :
    context.getLastTaskProfileInChain heap =
      context.taskProfiles.find? fun profile =>
        heap.getPointerTypeToThisEvent profile = some (.pipe .parallelism) ∧
          (heap.get? profile).bind PipelineTask.onSuccessPipe ≠ some .parallelism := by
  rw [EventExecutionContext.getLastTaskProfileInChain]
  split
  · rename_i profile single
    rw [single] at several
    exact absurd rfl several
  · rfl

theorem find?_eq_of_perm {Item : Type} {test : Item → Bool} {left right : List Item}
    (permuted : left.Perm right)
    (unique : ∀ first ∈ left, ∀ second ∈ left, test first = true → test second = true →
      first = second) : left.find? test = right.find? test := by
  cases found : right.find? test with
  | none =>
      rw [List.find?_eq_none] at found ⊢
      exact fun item member => found item (permuted.mem_iff.mp member)
  | some item =>
      have passes := List.find?_some found
      have member := permuted.mem_iff.mpr (List.mem_of_find?_eq_some found)
      have present : (left.find? test).isSome = true := by
        rw [List.find?_isSome]
        exact ⟨item, member, passes⟩
      rcases Option.isSome_iff_exists.mp present with ⟨other, otherFound⟩
      rw [otherFound, unique other (List.mem_of_find?_eq_some otherFound) item member
        (List.find?_some otherFound) passes]

/-- The last task of a group is found whatever the order of its tasks: all others lead on over
`||`. -/
theorem getLastTaskProfileInChain_perm {heap : Heap} {tasks : List TaskId} {last : TaskId}
    (leads : ∀ task ∈ tasks,
      (heap.get? task).bind PipelineTask.onSuccessPipe = some .parallelism)
    {first second : EventExecutionContext} (one : first.taskProfiles.Perm (tasks ++ [last]))
    (other : second.taskProfiles.Perm (tasks ++ [last])) :
    second.getLastTaskProfileInChain heap = first.getLastTaskProfileInChain heap := by
  have permuted := other.trans one.symm
  by_cases alone : first.taskProfiles.length = 1
  · rcases List.length_eq_one_iff.mp alone with ⟨profile, single⟩
    rw [single] at permuted
    apply EventExecutionContext.getLastTaskProfileInChain_congr
    rw [single, List.perm_singleton.mp permuted]
  · have several : second.taskProfiles.length ≠ 1 := by
      rwa [permuted.length_eq]
    have only : ∀ profile ∈ second.taskProfiles,
        decide (heap.getPointerTypeToThisEvent profile = some (.pipe .parallelism) ∧
          (heap.get? profile).bind PipelineTask.onSuccessPipe ≠ some .parallelism) = true →
        profile = last := by
      intro profile member passes
      rcases List.mem_append.mp (other.mem_iff.mp member) with inside | isLast
      · exact absurd (leads profile inside) (of_decide_eq_true passes).2
      · exact List.mem_singleton.mp isLast
    rw [getLastTaskProfileInChain_several several, getLastTaskProfileInChain_several alone]
    apply find?_eq_of_perm permuted
    intro left leftMember right rightMember leftPasses rightPasses
    rw [only left leftMember leftPasses, only right rightMember rightPasses]

theorem groupOf_alike (heap : Heap) (env other : Environment) (task : TaskId)
    (previous : Option ContextId) (id : ContextId) :
    (∃ error, groupOf env heap task previous id = .error error ∧
      groupOf other heap task previous id = .error error) ∨
    ∃ tasks last profiles others,
      groupOf env heap task previous id = .ok (profiles, last) ∧
      groupOf other heap task previous id = .ok (others, last) ∧
      profiles.Perm (tasks ++ [last]) ∧ others.Perm (tasks ++ [last]) ∧
      ∀ task ∈ tasks, (heap.get? task).bind PipelineTask.onSuccessPipe = some .parallelism := by
  cases previous with
  | none => exact .inr ⟨[], task, [task], [task], rfl, rfl, .refl _, .refl _, by simp⟩
  | some previous =>
      simp only [groupOf]
      rcases collected : collectParallel heap (heap.size + 1) (some task) with
        _ | ⟨tasks, _ | last⟩
      · exact .inl ⟨_, rfl, rfl⟩
      · exact .inl ⟨_, rfl, rfl⟩
      · have leads := collectParallel_onSuccessPipe collected
        cases tasks with
        | nil => exact .inr ⟨[], last, [last], [last], rfl, rfl, .refl _, .refl _, by simp⟩
        | cons first rest =>
            exact .inr ⟨first :: rest, last, _, _, rfl, rfl, env.setOrder_perm id _,
              other.setOrder_perm id _, leads⟩

end EventPipeline
