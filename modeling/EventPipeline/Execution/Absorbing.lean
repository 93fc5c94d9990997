import EventPipeline.Execution.Dispatch
import EventPipeline.Execution.Evaluation
import EventPipeline.Execution.Live

/-! # Terminal states

A context that is finished, cancelled or aborted should stay so. The assignments of
`dispatch` do not look at the state before, nor do those of `Pipeline.stop` and
`Pipeline.shutdown`, so that this depends on when the calls come.
-/

namespace EventPipeline

def ExecutionState.isTerminal : ExecutionState → Bool
  | .finished | .cancelled | .aborted => true
  | .pending | .executing => false

theorem Mark.apply_state (mark : Mark) (context : EventExecutionContext) :
    (mark.apply context).state = mark.state := by
  cases mark <;> rfl

/-- Once a context is in a terminal state, it stays in it. -/
def Absorbing (env : Environment) (heap : Heap) (root : TaskId) (actions : List LiveAction) :
    Prop :=
  ∀ front rest, front ++ rest = actions → ∀ id context,
    (LiveState.after env heap root front).context? id = some context →
    context.state.isTerminal = true →
    ∃ later, (LiveState.after env heap root actions).context? id = some later ∧
      later.state = context.state

/-! ## How the events end -/

/-- Recording the outcomes cancels the context: an event stops the processing, even if its result
is then not made or not copied, or asks for a switch that the last task has no descriptor for. -/
def recordingCancels (last : Option PipelineTask) : List Outcome → Bool
  | [] => false
  | outcome :: rest =>
      match outcome.receive with
      | .error _ => outcome.cancels
      | .ok (_, none) => outcome.stops || recordingCancels last rest
      | .ok (_, some descriptor) =>
          outcome.stops || last.any fun task =>
            (descriptor.toNat?.bind task.extraConfig.getDescriptorConfig).isNone

/-- Recording the outcomes raises an exception that is no request to switch. -/
def recordingRaises (last : Option PipelineTask) : List Outcome → Bool
  | [] => false
  | outcome :: rest =>
      match outcome.receive with
      | .error _ => true
      | .ok (_, none) => recordingRaises last rest
      | .ok (_, some _) => last.isNone

namespace EventExecutionContext

def lastTask (heap : Heap) (context : EventExecutionContext) : Option PipelineTask :=
  (context.getLastTaskProfileInChain heap).bind heap.get?

/-- How the events of a context end does not go against its state: it is not cancelled when it
has been shut down, and no exception aborts it when it is cancelled. -/
def Undisputed (heap : Heap) (context : EventExecutionContext) :
    Except SubmissionFailure (List Outcome) → Prop
  | .error (.raised _) => context.state ≠ .cancelled
  | .error (.switchTask _) => True
  | .ok outcomes =>
      (recordingCancels (context.lastTask heap) outcomes = true →
        context.state ≠ .aborted ∧
          recordingRaises (context.lastTask heap) outcomes = false) ∧
      (recordingRaises (context.lastTask heap) outcomes = true → context.state ≠ .cancelled)

section Recording

variable {heap : Heap} {context : EventExecutionContext}

theorem lastTask_congr {after : EventExecutionContext}
    (same : after.taskProfiles = context.taskProfiles) :
    after.lastTask heap = context.lastTask heap := by
  rw [lastTask, lastTask, getLastTaskProfileInChain_congr same]

theorem switchTo_state (descriptor : Int) :
    (context.switchTo heap descriptor).1.state =
      if (context.lastTask heap).any fun task =>
        (descriptor.toNat?.bind task.extraConfig.getDescriptorConfig).isNone then .cancelled
      else context.state := by
  rw [switchTo, ← lastTask]
  cases context.lastTask heap with
  | none => rfl
  | some task =>
      rw [Option.any_some]
      dsimp only
      cases descriptor.toNat?.bind task.extraConfig.getDescriptorConfig <;> rfl

theorem switchTo_raises (descriptor : Int) :
    (∃ error, (context.switchTo heap descriptor).2 = .error error) ↔
      (context.lastTask heap).isNone = true := by
  rw [switchTo, ← lastTask]
  cases context.lastTask heap with
  | none => simp
  | some task =>
      dsimp only
      cases descriptor.toNat?.bind task.extraConfig.getDescriptorConfig <;> simp

theorem stoppedBy_lastTask (outcome : Outcome) (result : EventResult) :
    ((context.stoppedBy outcome).recorded result).lastTask heap = context.lastTask heap :=
  lastTask_congr (stoppedBy_samePlace context outcome result).taskProfiles

theorem processExecutorResults_state (outcomes : List Outcome) :
    (context.processExecutorResults heap outcomes).1.state =
      if recordingCancels (context.lastTask heap) outcomes then .cancelled
      else context.state := by
  induction outcomes generalizing context with
  | nil => rfl
  | cons outcome rest induction =>
      rw [recordingCancels, processExecutorResults]
      rcases received : outcome.receive with error | ⟨result, _ | descriptor⟩
      · obtain ⟨ends, left⟩ := @recordOutcome_of_refused heap context outcome error received
        rcases recorded : context.recordOutcome heap outcome with ⟨middle, interruption⟩
        rw [recorded] at ends left
        cases ends
        exact left.state
      · simp only [recordOutcome_of_receive received]
        rw [induction, stoppedBy_state, stoppedBy_lastTask]
        cases outcome.stops <;> simp
      · simp only [recordOutcome_of_receive received]
        rw [switchTo_state, stoppedBy_state, stoppedBy_lastTask]
        cases outcome.stops <;> simp

theorem processExecutorResults_raises (outcomes : List Outcome) :
    (∃ error, (context.processExecutorResults heap outcomes).2 = some (.error error)) ↔
      recordingRaises (context.lastTask heap) outcomes = true := by
  induction outcomes generalizing context with
  | nil => simp [processExecutorResults, recordingRaises]
  | cons outcome rest induction =>
      rw [recordingRaises, processExecutorResults]
      rcases received : outcome.receive with error | ⟨result, _ | descriptor⟩
      · have ends := (@recordOutcome_of_refused heap context outcome error received).1
        rcases recorded : context.recordOutcome heap outcome with ⟨middle, interruption⟩
        rw [recorded] at ends
        cases ends
        simp
      · simp only [recordOutcome_of_receive received]
        rw [induction, stoppedBy_lastTask]
      · simp only [recordOutcome_of_receive received]
        rw [← stoppedBy_lastTask outcome result, ← switchTo_raises descriptor]
        simp

end Recording

end EventExecutionContext

/-! ## Timely calls -/

/-- The thread of the pipeline is about to assign a state to the context that goes against the
mark: it has found the context executing and is about to finish it, or it is about to abort
it. -/
def Phase.overrules (id : ContextId) (mark : Mark) : Phase → Prop
  | .checked site => site.context = id
  | .recorded site (some (.error _)) | .failing site _ => site.context = id ∧ mark = .stop
  | _ => False

/-- The step comes in time: a call marks a context that is executing (or has this mark) and
that the pipeline is not about to mark otherwise, and the events of a context do not end in
a way that goes against its state. -/
def LiveState.Timely (env : Environment) (heap : Heap) (state : LiveState) : LiveAction → Prop
  | .advance => ∀ site context, state.phase = .executing site →
      state.context? site.context = some context →
      context.Undisputed heap (env.futures site.context context.taskProfiles)
  | .locate _ => True
  | .complete position => ∀ id mark context, state.pending[position]? = some (id, mark) →
      state.context? id = some context →
      context.state = mark.state ∨
        context.state = .executing ∧ ¬ state.phase.overrules id mark

/-- All steps of a run are timely. -/
def LiveState.TimelyRun (env : Environment) (heap : Heap) (state : LiveState) :
    List LiveAction → Prop
  | [] => True
  | action :: rest =>
      state.Timely env heap action ∧ TimelyRun env heap (state.step env heap action) rest

/-! ## What the state of a context can be -/

def Phase.Allows (states : ContextId → Option ExecutionState) : Phase → Prop
  | .linked site => states site.context = some .pending
  | .executing site => states site.context = some .executing ∨
      ∃ mark : Mark, states site.context = some mark.state
  | .checked site => states site.context = some .executing
  | .recorded site (some (.error _)) | .failing site _ =>
      states site.context = some .executing ∨ states site.context = some .aborted
  | _ => True

section Marks

variable {states marked : ContextId → Option ExecutionState} {id : ContextId} {mark : Mark}
  (others : ∀ other, other ≠ id → marked other = states other)
  (here : marked id = some mark.state)
include others here

theorem aborting_marked {context : ContextId}
    (allowed : states context = some .executing ∨ states context = some .aborted)
    (before : states id = some mark.state ∨
      states id = some .executing ∧ ¬ (context = id ∧ mark = .stop)) :
    marked context = some .executing ∨ marked context = some .aborted := by
  by_cases same : context = id
  · subst same
    cases mark with
    | stop =>
        rcases before with before | before
        · rw [before] at allowed
          rcases allowed with allowed | allowed <;> cases allowed
        · exact absurd ⟨rfl, rfl⟩ before.2
    | shutdown => exact .inr here
  · rw [others _ same]
    exact allowed

theorem Phase.allows_marked {phase : Phase} (allowed : phase.Allows states)
    (before : states id = some mark.state ∨
      states id = some .executing ∧ ¬ phase.overrules id mark) : phase.Allows marked := by
  cases phase with
  | linked site =>
      by_cases same : site.context = id
      · rw [Phase.Allows, same] at allowed
        rw [allowed] at before
        rcases before with before | before
        · cases mark <;> cases before
        · cases before.1
      · rw [Phase.Allows, others _ same]
        exact allowed
  | executing site =>
      by_cases same : site.context = id
      · exact .inr ⟨mark, by rw [same, here]⟩
      · rw [Phase.Allows, others _ same]
        exact allowed
  | checked site =>
      by_cases same : site.context = id
      · rw [Phase.Allows, same] at allowed
        rw [allowed] at before
        rcases before with before | before
        · cases mark <;> cases before
        · exact absurd same before.2
      · rw [Phase.Allows, others _ same]
        exact allowed
  | failing site text => exact aborting_marked others here allowed before
  | recorded site interruption =>
      rcases interruption with _ | ⟨descriptor, configured⟩ | error
      · trivial
      · trivial
      · exact aborting_marked others here allowed before
  | calling call => trivial
  | dispatched site switch => trivial
  | continuing site switch => trivial
  | returned => trivial
  | raised error => trivial

end Marks

namespace LiveState

def stateOf (state : LiveState) (id : ContextId) : Option ExecutionState :=
  (state.context? id).map EventExecutionContext.state

def Consistent (state : LiveState) : Prop :=
  state.phase.Allows state.stateOf

def Keeps (before after : LiveState) : Prop :=
  ∀ id kind, before.stateOf id = some kind → kind.isTerminal = true →
    after.stateOf id = some kind

theorem Keeps.refl (state : LiveState) : Keeps state state :=
  fun _ _ found _ => found

theorem Keeps.trans {first second third : LiveState} (left : Keeps first second)
    (right : Keeps second third) : Keeps first third :=
  fun id kind found terminal => right id kind (left id kind found terminal) terminal

section Updates

variable {state : LiveState} {id : ContextId}
  {assign : EventExecutionContext → EventExecutionContext}

@[simp] theorem stateOf_enter (phase : Phase) : (state.enter phase).stateOf = state.stateOf := rfl

@[simp] theorem phase_enter (phase : Phase) : (state.enter phase).phase = phase := rfl

theorem stateOf_update_self {context : EventExecutionContext}
    (found : state.context? id = some context) :
    (state.update id assign).stateOf id = some (assign context).state := by
  have modified : (state.update id assign).context? id = (state.context? id).map assign :=
    Arena.get?_modify_self _ _ _
  rw [stateOf, modified, found]
  rfl

theorem stateOf_update_of_ne {other : ContextId} (different : other ≠ id) :
    (state.update id assign).stateOf other = state.stateOf other := by
  have modified : (state.update id assign).context? other = state.context? other :=
    Arena.get?_modify_of_ne _ _ different
  rw [stateOf, modified]
  rfl

theorem stateOf_update_missing (missing : state.context? id = none) :
    (state.update id assign).stateOf = state.stateOf := by
  funext other
  by_cases same : other = id
  · have modified : (state.update id assign).context? id = (state.context? id).map assign :=
      Arena.get?_modify_self _ _ _
    rw [same, stateOf, modified, missing, stateOf, missing]
    rfl
  · exact stateOf_update_of_ne same

theorem context?_of_stateOf {kind : ExecutionState} (found : state.stateOf id = some kind) :
    ∃ context, state.context? id = some context ∧ context.state = kind :=
  Option.map_eq_some_iff.mp found

theorem keeps_update (kept : ∀ context, state.context? id = some context →
    context.state.isTerminal = true → (assign context).state = context.state) :
    Keeps state (state.update id assign) := by
  intro other kind found terminal
  by_cases same : other = id
  · subst same
    rcases context?_of_stateOf found with ⟨context, there, rfl⟩
    rw [stateOf_update_self there, kept context there terminal]
  · rw [stateOf_update_of_ne same, found]

theorem keeps_update_at {context : EventExecutionContext}
    (found : state.context? id = some context)
    (kept : context.state.isTerminal = true → (assign context).state = context.state) :
    Keeps state (state.update id assign) := by
  apply keeps_update
  intro other there
  rw [found, Option.some.injEq] at there
  subst there
  exact kept

end Updates

section Steps

variable {env : Environment} {heap : Heap} {state : LiveState} {site : Site}

theorem keeps_append {task : TaskId} {previous : Option ContextId}
    {context : EventExecutionContext} {phase : Phase} :
    Keeps state
      { state with phase, run := state.run.append heap task previous context } := by
  intro id kind found terminal
  rcases context?_of_stateOf found with ⟨old, there, rfl⟩
  have linked := @Arena.get?_linkBehind_of_lt _ contextLinks state.run.contexts previous context
    id (Arena.lt_size_of_get? there)
  change ((Arena.linkBehind contextLinks state.run.contexts previous context).get? id).map
    EventExecutionContext.state = _
  rw [context?] at there
  rw [linked, there]
  split <;> rfl

theorem begin_keeps (call : Call) :
    Keeps state (state.begin env heap call) ∧ (state.begin env heap call).Consistent := by
  rcases call with ⟨_ | task, previous⟩
  · unfold begin
    cases state.run.sinkQueue with
    | nil => exact ⟨.refl state, trivial⟩
    | cons sink queue => exact ⟨.refl state, trivial⟩
  · unfold begin
    dsimp only
    rcases groupOf env heap task previous state.run.contexts.size with
      error | ⟨profiles, last⟩
    · exact ⟨.refl state, trivial⟩
    · refine ⟨keeps_append, ?_⟩
      change ((Arena.linkBehind contextLinks state.run.contexts previous _).get?
        state.run.contexts.size).map EventExecutionContext.state = _
      rw [Arena.get?_linkBehind_self]
      rfl

section Recording

variable {context : EventExecutionContext} (found : state.context? site.context = some context)
  (running : context.state = .executing ∨ ∃ mark : Mark, context.state = mark.state)
  (undisputed : context.Undisputed heap (env.futures site.context context.taskProfiles))
include found running undisputed

/-- Recording leaves a mark, or cancels a context that nobody has shut down. -/
theorem record_keeps : Keeps state (state.record env heap site context) := by
  unfold record
  cases futures : env.futures site.context context.taskProfiles with
  | error failure => cases failure <;> exact .refl state
  | ok outcomes =>
      rw [futures] at undisputed
      have kept : Keeps state (state.update site.context fun context =>
          (context.processExecutorResults heap outcomes).1) := by
        apply keeps_update_at found
        intro terminal
        rw [EventExecutionContext.processExecutorResults_state]
        split
        · rename_i cancels
          rcases running with running | ⟨_ | _, marked⟩
          · rw [running] at terminal
            cases terminal
          · exact marked.symm
          · exact absurd marked (undisputed.1 cancels).1
        · rfl
      exact kept

/-- A context that is about to be aborted is executing, or has been shut down. -/
theorem record_consistent : (state.record env heap site context).Consistent := by
  have executing : state.stateOf site.context = some context.state := by
    rw [stateOf, found, Option.map_some]
  unfold record
  cases futures : env.futures site.context context.taskProfiles with
  | error failure =>
      rw [futures] at undisputed
      cases failure with
      | switchTask descriptor => trivial
      | raised text =>
          change state.stateOf site.context = some .executing ∨
            state.stateOf site.context = some .aborted
          rw [executing]
          rcases running with running | ⟨_ | _, marked⟩
          · exact .inl (congrArg some running)
          · exact absurd marked undisputed
          · exact .inr (congrArg some marked)
  | ok outcomes =>
      rw [futures] at undisputed
      change Phase.Allows (state.update site.context _).stateOf
        (.recorded site (context.processExecutorResults heap outcomes).2)
      rcases interrupted : (context.processExecutorResults heap outcomes).2 with
        _ | ⟨descriptor, configured⟩ | error
      · trivial
      · trivial
      · have raises := EventExecutionContext.processExecutorResults_raises outcomes
          |>.mp ⟨error, interrupted⟩
        have silent : recordingCancels (context.lastTask heap) outcomes = false := by
          by_contra cancels
          rw [(undisputed.1 (Bool.not_eq_false _ |>.mp cancels)).2] at raises
          cases raises
        have left : (state.update site.context fun context =>
            (context.processExecutorResults heap outcomes).1).stateOf site.context =
            some context.state := by
          rw [stateOf_update_self found, EventExecutionContext.processExecutorResults_state,
            silent]
          rfl
        change (state.update site.context _).stateOf site.context = some .executing ∨
          (state.update site.context _).stateOf site.context = some .aborted
        rw [left]
        rcases running with running | ⟨_ | _, marked⟩
        · exact .inl (congrArg some running)
        · exact absurd marked (undisputed.2 raises)
        · exact .inr (congrArg some marked)

end Recording

theorem advance_keeps (consistent : state.Consistent)
    (timely : state.Timely env heap .advance) :
    Keeps state (state.advance env heap) ∧ (state.advance env heap).Consistent := by
  unfold Consistent at consistent
  unfold advance
  split
  · -- a call
    exact begin_keeps _
  · -- the context has been linked
    rename_i site phase
    rw [phase] at consistent
    rcases context?_of_stateOf consistent with ⟨context, found, pending⟩
    constructor
    · apply keeps_update_at found
      intro terminal
      rw [pending] at terminal
      cases terminal
    · exact .inl (stateOf_update_self found)
  · -- its events run
    rename_i site phase
    rw [phase] at consistent
    split
    · exact ⟨.refl state, by rw [Consistent, phase]; exact consistent⟩
    · rename_i context found
      have running : context.state = .executing ∨
          ∃ mark : Mark, context.state = mark.state := by
        change state.stateOf site.context = _ ∨ _ at consistent
        simpa [stateOf, found] using consistent
      have undisputed := timely site context phase found
      exact ⟨record_keeps found running undisputed,
        record_consistent found running undisputed⟩
  · -- the futures have been recorded
    split
    · rename_i site phase _ _
      exact ⟨.refl state, by rw [Consistent, phase]; trivial⟩
    · rename_i context found
      split
      · rename_i executing
        refine ⟨.refl state, ?_⟩
        exact (congrArg (Option.map EventExecutionContext.state) found).trans
          (congrArg some executing)
      · exact ⟨.refl state, trivial⟩
  · exact ⟨.refl state, trivial⟩
  · rename_i site error phase
    rw [phase] at consistent
    exact ⟨.refl state, consistent⟩
  · -- the context is found executing
    rename_i site phase
    rw [phase] at consistent
    rcases context?_of_stateOf consistent with ⟨context, found, executing⟩
    refine ⟨?_, trivial⟩
    apply keeps_update_at found
    intro terminal
    rw [executing] at terminal
    cases terminal
  · -- an exception aborts it
    rename_i site text phase
    rw [phase] at consistent
    refine ⟨?_, trivial⟩
    apply keeps_update
    intro context found terminal
    have here : state.stateOf site.context = some context.state := by
      rw [stateOf, found, Option.map_some]
    rcases consistent with executing | aborted
    · rw [here, Option.some.injEq] at executing
      rw [executing] at terminal
      cases terminal
    · rw [here, Option.some.injEq] at aborted
      exact aborted.symm
  · -- `dispatch` has returned
    split
    · rename_i site switch phase _ _
      exact ⟨.refl state, by rw [Consistent, phase]; trivial⟩
    · split <;> exact ⟨.refl state, trivial⟩
  · split
    · rename_i site switch phase _ _
      exact ⟨.refl state, by rw [Consistent, phase]; trivial⟩
    · rename_i site switch phase _ context found
      cases proceed env heap site context switch with
      | error error => exact ⟨.refl state, trivial⟩
      | ok flow => cases flow <;> exact ⟨.refl state, trivial⟩
  · split
    · rename_i phase _ _
      exact ⟨.refl state, by rw [Consistent, phase]; trivial⟩
    · exact ⟨.refl state, trivial⟩
  · rename_i error phase
    exact ⟨.refl state, by rw [Consistent, phase]; trivial⟩

theorem locate_keeps (consistent : state.Consistent) (mark : Mark) :
    Keeps state (state.locate mark) ∧ (state.locate mark).Consistent := by
  unfold locate
  split
  · exact ⟨.refl state, consistent⟩
  · exact ⟨.refl state, consistent⟩

theorem complete_keeps (consistent : state.Consistent) {position : Nat}
    (timely : state.Timely env heap (.complete position)) :
    Keeps state (state.complete position) ∧ (state.complete position).Consistent := by
  unfold complete
  split
  · exact ⟨.refl state, consistent⟩
  · rename_i id mark waits
    have others : ∀ other, other ≠ id →
        (state.update id fun context => mark.apply context).stateOf other =
          state.stateOf other := fun other different => stateOf_update_of_ne different
    cases found : state.context? id with
    | none =>
        have same := @stateOf_update_missing state id (fun context => mark.apply context) found
        have unchanged : Keeps state (state.update id fun context => mark.apply context) := by
          intro other kind there terminal
          rw [same, there]
        refine ⟨unchanged, ?_⟩
        change state.phase.Allows (state.update id fun context => mark.apply context).stateOf
        rw [same]
        exact consistent
    | some context =>
        have before := timely id mark context waits found
        have here : (state.update id fun context => mark.apply context).stateOf id =
            some mark.state := by
          rw [stateOf_update_self found, mark.apply_state]
        constructor
        · have kept : Keeps state (state.update id fun context => mark.apply context) := by
            apply keeps_update_at found
            intro terminal
            rw [mark.apply_state]
            rcases before with same | executing
            · exact same.symm
            · rw [executing.1] at terminal
              cases terminal
          exact kept
        · apply Phase.allows_marked others here consistent
          rw [stateOf, found, Option.map_some, Option.some.injEq, Option.some.injEq]
          exact before

theorem step_keeps (consistent : state.Consistent) {action : LiveAction}
    (timely : state.Timely env heap action) :
    Keeps state (state.step env heap action) ∧ (state.step env heap action).Consistent := by
  cases action with
  | advance => exact advance_keeps consistent timely
  | locate mark => exact locate_keeps consistent mark
  | complete position => exact complete_keeps consistent timely

theorem run_keeps {actions : List LiveAction} (consistent : state.Consistent)
    (timely : state.TimelyRun env heap actions) :
    Keeps state (actions.foldl (step env heap) state) ∧
      (actions.foldl (step env heap) state).Consistent := by
  induction actions generalizing state with
  | nil => exact ⟨.refl state, consistent⟩
  | cons action rest induction =>
      have stepped := step_keeps consistent timely.1
      have ran := induction stepped.2 timely.2
      exact ⟨stepped.1.trans ran.1, ran.2⟩

theorem TimelyRun.append {front rest : List LiveAction}
    (timely : state.TimelyRun env heap (front ++ rest)) :
    state.TimelyRun env heap front ∧
      (front.foldl (LiveState.step env heap) state).TimelyRun env heap rest := by
  induction front generalizing state with
  | nil => exact ⟨trivial, timely⟩
  | cons action front induction =>
      have later := induction timely.2
      exact ⟨⟨timely.1, later.1⟩, later.2⟩

end Steps

end LiveState

/-- Terminal states are kept in a run in which every call of `stop` and `shutdown` comes in
time and the events of no context end in a way that goes against its state. -/
theorem absorbing_of_timelyRun (env : Environment) (heap : Heap) (root : TaskId)
    (actions : List LiveAction)
    (timely : (LiveState.initial root).TimelyRun env heap actions) :
    Absorbing env heap root actions := by
  rintro front rest rfl id context found terminal
  have parts := timely.append
  have begun : (LiveState.initial root).Consistent := trivial
  have reached := LiveState.run_keeps begun parts.1
  have kept := (LiveState.run_keeps reached.2 parts.2).1 id context.state
    (congrArg (Option.map EventExecutionContext.state) found) terminal
  rw [← List.foldl_append] at kept
  exact LiveState.context?_of_stateOf kept

def singleTask : Heap := ⟨[{ event := "A" }]⟩

def alwaysSucceeds : Environment := .ofOutcomes (.ofTask false)

/-- The pipeline is stopped while its event runs. -/
theorem absorbing_stopped : Absorbing alwaysSucceeds singleTask 0
    [.advance, .advance, .locate .stop, .complete 0, .advance] := by
  apply absorbing_of_timelyRun
  refine ⟨?_, ?_, trivial, ?_, ?_, trivial⟩
  · intro site context phase
    cases phase
  · intro site context phase
    cases phase
  · intro id mark context waits found
    cases waits
    cases found
    exact .inr ⟨rfl, id⟩
  · intro site context phase found
    cases phase
    cases found
    refine ⟨fun cancels => ?_, fun raises => ?_⟩
    · cases cancels
    · cases raises

/-- A pipeline that has finished is stopped. -/
theorem not_absorbing_finished : ¬ Absorbing alwaysSucceeds singleTask 0
    [.advance, .advance, .advance, .advance, .advance, .locate .stop, .complete 0] := by
  intro absorbing
  have finished : (LiveState.after alwaysSucceeds singleTask 0
      [.advance, .advance, .advance, .advance, .advance]).stateOf 0 = some .finished := by
    decide
  rcases LiveState.context?_of_stateOf finished with ⟨context, found, state⟩
  rcases absorbing [.advance, .advance, .advance, .advance, .advance]
    [.locate .stop, .complete 0] rfl 0 context found (by rw [state]; rfl) with
    ⟨later, foundLater, same⟩
  have cancelled : (LiveState.after alwaysSucceeds singleTask 0
      [.advance, .advance, .advance, .advance, .advance, .locate .stop,
        .complete 0]).stateOf 0 = some .cancelled := by
    decide
  rw [LiveState.stateOf, foundLater, Option.map_some, same, state] at cancelled
  cases cancelled

end EventPipeline
