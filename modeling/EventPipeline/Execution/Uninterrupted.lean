import EventPipeline.Execution.Live

/-! # A pipeline that nobody interrupts

Without `Pipeline.stop` and `Pipeline.shutdown` the steps of a running pipeline are those of
`execute_task`.
-/

namespace EventPipeline

namespace LiveState

/-- The pipeline goes on by itself for some steps. -/
inductive Advances (env : Environment) (heap : Heap) : LiveState → LiveState → Prop
  | refl {state} : Advances env heap state state
  | step {before after} : Advances env heap (before.advance env heap) after →
      Advances env heap before after

section Undisturbed

variable {env : Environment} {heap : Heap} {run : RunState} {task last : TaskId}
  {previous : Option ContextId} {waiting : List Call} {pending : List (ContextId × Mark)}

def visiting (heap : Heap) (run : RunState) (task : TaskId) (previous : Option ContextId)
    (waiting : List Call) (pending : List (ContextId × Mark)) (context : EventExecutionContext)
    (phase : Phase) : LiveState :=
  ⟨phase, waiting, run.append heap task previous context, pending⟩

theorem visiting_phase (context : EventExecutionContext) (phase : Phase) :
    (visiting heap run task previous waiting pending context phase).phase = phase := rfl

theorem context?_visiting (context : EventExecutionContext) (phase : Phase) :
    (visiting heap run task previous waiting pending context phase).context?
      run.contexts.size = some context :=
  Arena.get?_linkBehind_self run.contexts previous context

theorem update_visiting (context : EventExecutionContext) (phase : Phase)
    (assign : EventExecutionContext → EventExecutionContext) :
    (visiting heap run task previous waiting pending context phase).update
        run.contexts.size assign =
      visiting heap run task previous waiting pending (assign context) phase := by
  simp only [update, visiting, RunState.append, Arena.modify_linkBehind_self]

theorem follow_eq_proceed (site : Site) (context : EventExecutionContext)
    (switch : Option SwitchRequest) :
    follow env heap site.last site.previous site.context context switch =
      if context.state.isStopped then .ok .finish
      else proceed env heap site context switch := by
  rfl

section Site

variable {site : Site} (here : site.context = run.contexts.size)
include here

theorem advance_linked (context : EventExecutionContext) :
    (visiting heap run task previous waiting pending context (.linked site)).advance env heap =
      visiting heap run task previous waiting pending { context with state := .executing }
        (.executing site) := by
  change (update _ site.context _).enter _ = _
  rw [here, update_visiting]
  rfl

theorem advance_executing (context : EventExecutionContext) :
    (visiting heap run task previous waiting pending context (.executing site)).advance env
        heap =
      match env.futures site.context context.taskProfiles with
      | .error (.raised text) =>
          visiting heap run task previous waiting pending context (.failing site text)
      | .error (.switchTask descriptor) =>
          visiting heap run task previous waiting pending context
            (.recorded site (some (.switchTask descriptor false)))
      | .ok outcomes =>
          visiting heap run task previous waiting pending
            (context.processExecutorResults heap outcomes).1
            (.recorded site (context.processExecutorResults heap outcomes).2) := by
  have found := @context?_visiting heap run task previous waiting pending context
    (.executing site)
  rw [← here] at found
  simp only [advance, visiting_phase, found, record]
  cases env.futures site.context context.taskProfiles with
  | error failure => cases failure <;> rfl
  | ok outcomes =>
      dsimp only
      rw [here, update_visiting]
      rfl

theorem advance_recorded (context : EventExecutionContext) :
    (visiting heap run task previous waiting pending context (.recorded site none)).advance env
        heap =
      visiting heap run task previous waiting pending context
        (if context.state = .executing then .checked site else .dispatched site none) := by
  have found := @context?_visiting heap run task previous waiting pending context
    (.recorded site none)
  rw [← here] at found
  simp only [advance, visiting_phase, found]
  by_cases executing : context.state = .executing
  · simp only [if_pos executing]
    rfl
  · simp only [if_neg executing]
    rfl

theorem advance_checked (context : EventExecutionContext) :
    (visiting heap run task previous waiting pending context (.checked site)).advance env heap =
      visiting heap run task previous waiting pending { context with state := .finished }
        (.dispatched site none) := by
  change (update _ site.context _).enter _ = _
  rw [here, update_visiting]
  rfl

theorem advance_failing (context : EventExecutionContext) (text : String) :
    (visiting heap run task previous waiting pending context (.failing site text)).advance env
        heap =
      visiting heap run task previous waiting pending (context.fail text)
        (.dispatched site none) := by
  change (update _ site.context _).enter _ = _
  rw [here, update_visiting]
  rfl

theorem advances_dispatch (context : EventExecutionContext) :
    Advances env heap
      (visiting heap run task previous waiting pending context (.linked site))
      (visiting heap run task previous waiting pending
        (context.dispatch heap (env.futures site.context context.taskProfiles)).1
        (.dispatched site
          (context.dispatch heap (env.futures site.context context.taskProfiles)).2)) := by
  apply Advances.step
  rw [advance_linked here]
  apply Advances.step
  rw [advance_executing here]
  simp only [EventExecutionContext.dispatch]
  cases env.futures site.context context.taskProfiles with
  | error failure =>
      cases failure with
      | raised text =>
          apply Advances.step
          rw [advance_failing here]
          exact .refl
      | switchTask descriptor => exact .step .refl
  | ok outcomes =>
      simp only
      rcases ({ context with state := .executing } :
        EventExecutionContext).processExecutorResults heap outcomes with
        ⟨after, _ | ⟨descriptor, configured⟩ | error⟩
      · apply Advances.step
        rw [advance_recorded here]
        simp only
        split
        · apply Advances.step
          rw [advance_checked here]
          exact .refl
        · exact .refl
      · exact .step .refl
      · apply Advances.step
        apply Advances.step
        change Advances env heap ((visiting heap run task previous waiting pending after
          (.failing site error.text)).advance env heap) _
        rw [advance_failing here]
        exact .refl

theorem advance_dispatched (context : EventExecutionContext) (switch : Option SwitchRequest) :
    (visiting heap run task previous waiting pending context
        (.dispatched site switch)).advance env heap =
      visiting heap run task previous waiting pending context
        (if context.state.isStopped then .returned else .continuing site switch) := by
  have found := @context?_visiting heap run task previous waiting pending context
    (.dispatched site switch)
  rw [← here] at found
  simp only [advance, visiting_phase, found]
  by_cases stopped : context.state.isStopped = true
  · simp only [if_pos stopped]
    rfl
  · simp only [if_neg stopped]
    rfl

theorem advance_continuing (context : EventExecutionContext) (switch : Option SwitchRequest) :
    (visiting heap run task previous waiting pending context
        (.continuing site switch)).advance env heap =
      (visiting heap run task previous waiting pending context
        (.continuing site switch)).goOn (proceed env heap site context switch) := by
  have found := @context?_visiting heap run task previous waiting pending context
    (.continuing site switch)
  rw [← here] at found
  simp only [advance, visiting_phase, found]

theorem advances_follow (context : EventExecutionContext) (switch : Option SwitchRequest)
    {flow : Flow}
    (followed : follow env heap site.last site.previous site.context context switch =
      .ok flow) :
    Advances env heap
      (visiting heap run task previous waiting pending context (.dispatched site switch))
      (visiting heap run task previous waiting pending context flow.phase) := by
  apply Advances.step
  rw [advance_dispatched here]
  rw [follow_eq_proceed] at followed
  by_cases stopped : context.state.isStopped = true
  · rw [if_pos stopped] at followed ⊢
    cases followed
    exact .refl
  · rw [if_neg stopped] at followed ⊢
    apply Advances.step
    rw [advance_continuing here, followed]
    exact .refl

end Site

theorem Advances.trans {first second third : LiveState}
    (left : Advances env heap first second) (right : Advances env heap second third) :
    Advances env heap first third := by
  induction left with
  | refl => exact right
  | step _ induction => exact .step (induction right)

theorem visit_parts {flow : Flow} {after : RunState}
    (visited : visit env heap task previous run = .ok (flow, after)) :
    ∃ profiles last context switch,
      groupOf env heap task previous run.contexts.size = .ok (profiles, last) ∧
      ({ taskProfiles := profiles, previousContext := previous } :
        EventExecutionContext).dispatch heap (env.futures run.contexts.size profiles) =
        (context, switch) ∧
      follow env heap last previous run.contexts.size context switch = .ok flow ∧
      after = run.append heap task previous context := by
  rcases grouped : groupOf env heap task previous run.contexts.size with error | ⟨profiles, last⟩
  · simp [visit, dispatchTask, grouped, bind, Except.bind] at visited
  · rcases ended : ({ taskProfiles := profiles, previousContext := previous } :
      EventExecutionContext).dispatch heap (env.futures run.contexts.size profiles) with
      ⟨context, switch⟩
    rcases followed : follow env heap last previous run.contexts.size context switch with
      error | onward
    · simp [visit, dispatchTask, grouped, ended, followed, bind, Except.bind, pure,
        Except.pure] at visited
    · simp only [visit, dispatchTask, grouped, ended, followed, bind, Except.bind, pure,
        Except.pure, Except.ok.injEq, Prod.mk.injEq] at visited
      exact ⟨profiles, last, context, switch, rfl, ended, by rw [followed, visited.1],
        visited.2.symm⟩

theorem advances_visit {flow : Flow} {after : RunState}
    (visited : visit env heap task previous run = .ok (flow, after)) :
    Advances env heap ⟨.calling ⟨some task, previous⟩, waiting, run, pending⟩
      ⟨flow.phase, waiting, after, pending⟩ := by
  rcases visit_parts visited with ⟨profiles, last, left, switch, grouped, ended, followed, rfl⟩
  let site : Site := ⟨run.contexts.size, last, previous⟩
  let context : EventExecutionContext :=
    { taskProfiles := profiles, previousContext := previous }
  have linked : (⟨.calling ⟨some task, previous⟩, waiting, run, pending⟩ :
      LiveState).advance env heap =
      visiting heap run task previous waiting pending context (.linked site) := by
    simp only [advance, begin, grouped]
    rfl
  have dispatched := @advances_dispatch env heap run task previous waiting pending site rfl
    context
  rw [show context.dispatch heap (env.futures site.context context.taskProfiles) =
    (left, switch) from ended] at dispatched
  apply Advances.step
  rw [linked]
  exact dispatched.trans (@advances_follow env heap run task previous waiting pending site rfl
    left switch flow followed)

/-- A running pipeline at a configuration of `execute_task`. -/
def atConfig (config : RunConfig) (pending : List (ContextId × Mark)) : LiveState :=
  ⟨match config.control with
    | none => .returned
    | some call => .calling call, config.waiting, config.state, pending⟩

/-- A pipeline that nobody interrupts runs as `execute_task` says. -/
theorem advances_runStep {before after : RunConfig} (step : RunStep env heap before after) :
    Advances env heap (atConfig before pending) (atConfig after pending) := by
  cases step with
  | stop visited => exact advances_visit visited
  | call visited => exact advances_visit visited
  | drained empty =>
      apply Advances.step
      simp only [atConfig, advance, begin, empty]
      exact .refl
  | drain taken =>
      apply Advances.step
      simp only [atConfig, advance, begin, taken]
      exact .refl
  | resume => exact .step .refl

theorem replicate_of_advances {before after : LiveState}
    (advances : Advances env heap before after) :
    ∃ steps, (List.replicate steps .advance).foldl (step env heap) before = after := by
  induction advances with
  | refl => exact ⟨0, rfl⟩
  | step _ induction =>
      rcases induction with ⟨steps, reached⟩
      exact ⟨steps + 1, reached⟩

/-- Every configuration of `execute_task` is reached when nobody interrupts the pipeline. -/
theorem after_of_visits {root : TaskId} {config : RunConfig}
    (visited : Visits env heap root config) :
    ∃ steps, after env heap root (List.replicate steps .advance) = atConfig config [] := by
  apply replicate_of_advances
  refine @visits_invariant env heap root (fun config => Advances env heap (initial root)
    (atConfig config [])) ?_ .refl config visited
  intro before after reached step
  exact reached.trans (advances_runStep step)

end Undisturbed

end LiveState

end EventPipeline
