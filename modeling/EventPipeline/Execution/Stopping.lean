import EventPipeline.Execution.ContextList

/-! # Nothing runs after a stop

When a context that has stopped is the last one of its run.
-/

namespace EventPipeline

open Procedure

/-- Every context that stopped is the last one dispatched, it is the latest one on
the list, and the last signal says that the pipeline was stopped or shut down. -/
def StopIsFinal (final : RunState) (signals : List Signal) : Prop :=
  ∀ id context, final.contexts.get? id = some context → context.state.isStopped = true →
    id + 1 = final.contexts.size ∧
    (∃ head, final.executionContext = some head ∧
      getLatestExecutionContext final.contexts head = id) ∧
    (signals = [.pipelineExecutionStart, .pipelineStop id] ∨
      signals = [.pipelineExecutionStart, .pipelineShutdown id])

/-! ## Orderly runs stop for good -/

theorem states_getElem? (state : RunState) (id : ContextId) :
    state.states[id]? = (state.contexts.get? id).map EventExecutionContext.state := by
  simp [RunState.states, Arena.get?]

theorem Listed.getLatestExecutionContext_eq {full : Prop} {state : RunState}
    {list : List ContextId} (listed : Listed full state list) {id : Nat}
    (last : id + 1 = state.contexts.size) :
    ∃ head, state.executionContext = some head ∧
      getLatestExecutionContext state.contexts head = id := by
  rcases listed.linked with ⟨head, starts, linked⟩
  refine ⟨head, starts, ?_⟩
  have forward : iterate state.contexts head = list := linked.followLink_next
  have back : getExecutionContextHead state.contexts head = head := by
    have alone := linked.followLink_previous
    simp only [contextLinks] at alone
    simp [getExecutionContextHead, alone]
  rw [getLatestExecutionContext, back, forward]
  have nonempty : list ≠ [] := by
    rintro rfl
    cases linked.starts
  have latest := listed.latest _ (List.getLast?_eq_some_getLast nonempty)
  rw [List.getLastD_eq_getLast?, List.getLast?_eq_some_getLast nonempty]
  exact Nat.succ.inj (latest.trans last.symm)

theorem closingSignal_eq {state : RunState} {head id : ContextId}
    {context : EventExecutionContext} (starts : state.executionContext = some head)
    (latest : getLatestExecutionContext state.contexts head = id)
    (found : state.contexts.get? id = some context) (stopped : context.state.isStopped = true) :
    closingSignal state = .pipelineStop id ∨ closingSignal state = .pipelineShutdown id := by
  simp only [closingSignal, starts, latest, found, Option.map_some]
  cases kind : context.state with
  | cancelled => exact .inl rfl
  | aborted => exact .inr rfl
  | pending => simp [kind, ExecutionState.isStopped] at stopped
  | executing => simp [kind, ExecutionState.isStopped] at stopped
  | finished => simp [kind, ExecutionState.isStopped] at stopped

theorem Orderly.stopIsFinal {full : Prop} {final : RunState}
    (orderly : Orderly full ⟨none, [], final⟩) :
    StopIsFinal final [.pipelineExecutionStart, closingSignal final] := by
  cases orderly with
  | @idle _ _ _ list others listed _ _ =>
      intro id context found stopped
      have bound := Arena.lt_size_of_get? found
      have last : id + 1 = final.contexts.size := by
        by_contra earlier
        have inside : id < final.states.dropLast.length := by
          simp only [List.length_dropLast, RunState.states, List.length_map]
          simp only [Arena.size] at bound earlier
          omega
        have member := List.getElem_mem inside
        have kind : final.states.dropLast[id] = context.state := by
          rw [List.getElem_dropLast]
          have entry := states_getElem? final id
          rw [found] at entry
          exact (List.getElem?_eq_some_iff.mp entry).choose_spec
        rw [kind] at member
        have running := others _ member
        rw [stopped] at running
        cases running
      rcases listed.getLatestExecutionContext_eq last with ⟨head, starts, latest⟩
      refine ⟨last, ⟨head, starts, latest⟩, ?_⟩
      rcases closingSignal_eq starts latest found stopped with signal | signal
      · exact .inl (by rw [signal])
      · exact .inr (by rw [signal])

/-! ## Overtaken stops -/

/-- The contexts up to `stop` are there and that one has stopped. The run has gone on
since, or it is about to. -/
structure GoesOn (stop : Nat) (config : RunConfig) : Prop where
  stopped : ∃ kind, config.state.states[stop]? = some kind ∧ kind.isStopped = true
  onward : stop + 2 ≤ config.state.states.length ∨
    (∃ call, config.control = some call ∧ call.task ≠ none) ∨
    (config.state.sinkQueue ≠ [] ∧ (config.control ≠ none ∨ config.waiting ≠ []))

theorem visit_append {env : Environment} {heap : Heap} {task : TaskId}
    {previous : Option ContextId} {state after : RunState} {flow : Flow}
    (visited : visit env heap task previous state = .ok (flow, after)) :
    ∃ context, after = state.append heap task previous context := by
  rcases made : dispatchTask env heap task previous state.contexts.size with
    error | ⟨last, context, switch⟩
  · simp [visit, made, bind, Except.bind] at visited
  · rcases followed : follow env heap last previous state.contexts.size context switch with
      error | onward
    · simp [visit, made, followed, bind, Except.bind] at visited
    · simp only [visit, made, followed, bind, Except.bind, pure, Except.pure, Except.ok.injEq,
        Prod.mk.injEq] at visited
      exact ⟨context, visited.2.symm⟩

theorem GoesOn.append {stop : Nat} {config : RunConfig} {heap : Heap} {task : TaskId}
    {previous : Option ContextId} {context : EventExecutionContext} {control : Option Call}
    {waiting : List Call} (goesOn : GoesOn stop config) :
    GoesOn stop ⟨control, waiting, config.state.append heap task previous context⟩ := by
  rcases goesOn.stopped with ⟨kind, found, stopped⟩
  have bound : stop < config.state.states.length := (List.getElem?_eq_some_iff.mp found).choose
  refine ⟨⟨kind, ?_, stopped⟩, .inl ?_⟩
  · rw [RunState.states_append, List.getElem?_append_left bound, found]
  · rw [RunState.states_append, List.length_append, List.length_singleton]
    omega

theorem GoesOn.step {stop : Nat} {env : Environment} {heap : Heap}
    {before after : RunConfig} (goesOn : GoesOn stop before)
    (step : RunStep env heap before after) : GoesOn stop after := by
  cases step with
  | stop visited =>
      rcases visit_append visited with ⟨context, rfl⟩
      exact goesOn.append
  | call visited =>
      rcases visit_append visited with ⟨context, rfl⟩
      exact goesOn.append
  | drained empty =>
      refine ⟨goesOn.stopped, ?_⟩
      rcases goesOn.onward with further | ⟨call, same, visits⟩ | ⟨waits, _⟩
      · exact .inl further
      · cases same
        exact absurd rfl visits
      · exact absurd empty waits
  | drain taken => exact ⟨goesOn.stopped, .inr (.inl ⟨_, rfl, by simp⟩)⟩
  | @resume call waiting state =>
      refine ⟨goesOn.stopped, ?_⟩
      rcases goesOn.onward with further | ⟨call, same, visits⟩ | ⟨waits, _⟩
      · exact .inl further
      · cases same
      · exact .inr (.inr ⟨waits, .inl (by simp)⟩)

theorem not_stopIsFinal_of_overtaken {env : Environment} {heap : Heap} {root : TaskTree}
    {config : RunConfig} {final : RunState} {signals : List Signal}
    (rooted : Rooted heap root) (nodup : root.ids.Nodup)
    (visited : Visits env heap root.id config) (overtaken : Overtaken env heap config)
    (ended : Visits env heap root.id ⟨none, [], final⟩) : ¬StopIsFinal final signals := by
  rcases @visits_forest env heap root (fun _ _ _ => True) rooted nodup trivial
    (fun _ _ _ _ => trivial) config visited with ⟨current, queue, forest, _⟩
  rcases (reaches_final ended visited).cases_head with same | ⟨next, step, onward⟩
  · subst same
    exact absurd rfl overtaken.1
  · rcases forest.step nodup (runStep_of_step step) with ⟨_, _, forestStep, _⟩
    rcases overtaken.step forestStep with
      ⟨task, previous, context, _, stopped, _, _, rfl, inside, waits⟩
    have goesOn : GoesOn config.state.states.length
        ⟨none, config.waiting, config.state.append heap task previous context⟩ :=
      ⟨⟨context.state, by simp, stopped⟩, .inr (.inr ⟨waits, .inr inside⟩)⟩
    have further : GoesOn config.state.states.length ⟨none, [], final⟩ :=
      reaches_invariant (fun held step => held.step (runStep_of_step step)) goesOn onward
    intro isFinal
    rcases further.stopped with ⟨kind, found, stops⟩
    rw [states_getElem?, Option.map_eq_some_iff] at found
    rcases found with ⟨last, found, rfl⟩
    have bound := (isFinal _ last found stops).1
    rcases further.onward with longer | ⟨call, control, _⟩ | ⟨_, control | loops⟩
    · simp only [RunState.states, List.length_map] at longer bound
      simp only [Arena.size] at bound
      omega
    · cases control
    · exact absurd rfl control
    · exact absurd rfl loops

/-- In a run of an accepted pipeline a stop is final exactly when no context stops
inside the loop over the sinks while sinks wait. -/
theorem stopIsFinal_iff (pipeline : AcceptedPipeline) (env : Environment) :
    ∃ final signals, Runs pipeline env final signals ∧
      (StopIsFinal final signals ↔ ∀ config,
        Visits env pipeline.heap pipeline.root config →
          ¬Overtaken env pipeline.heap config) := by
  rcases pipeline.runs env with ⟨tree, final, same, stored, nodup, proper, runs, ended⟩
  have rooted : Rooted pipeline.heap tree := ⟨⟨none, stored⟩, proper⟩
  refine ⟨final, _, runs, ?_⟩
  rw [← same]
  constructor
  · intro isFinal config visited overtaken
    exact not_stopIsFinal_of_overtaken rooted nodup visited overtaken ended isFinal
  · intro calm
    exact (@orderly_of_visits False env pipeline.heap tree _ rooted nodup calm
      (fun impossible => impossible.elim) ended).stopIsFinal

def nestedSinkHeap : Heap := ⟨[
  { event := "R", onSuccessEvent := some 3, onSuccessPipe := some .pointer },
  { event := "C", descriptor := some 0, descriptorPipe := some .pointer, parentNode := some 3 },
  { event := "D", descriptor := some 1, descriptorPipe := some .pointer, parentNode := some 3 },
  { event := "B", parentNode := some 0, sinkNode := some 6, sinkPipe := some .pointer,
    onSuccessEvent := some 2, onFailureEvent := some 1, onSuccessPipe := some .pointer,
    onFailurePipe := some .pointer },
  { event := "F", descriptor := some 0, descriptorPipe := some .pointer, parentNode := some 6 },
  { event := "G", descriptor := some 1, descriptorPipe := some .pointer, parentNode := some 6 },
  { event := "E", parentNode := some 3, sinkNode := some 7, sinkPipe := some .pointer,
    onSuccessEvent := some 5, onFailureEvent := some 4, onSuccessPipe := some .pointer,
    onFailurePipe := some .pointer },
  { event := "H", parentNode := some 6 }]⟩

def nestedSinkPipeline : AcceptedPipeline :=
  ⟨.initial, "R->B(0->C,1->D)->E(0->F,1->G)->H", 0, nestedSinkHeap, rfl⟩

def stopException (eventName : String) (task : TaskId) : RaisedException where
  stopProcessing := true
  params := .dictionary (some eventName) (some task) none none
  text := "stop"

/-- `E` raises a `StopProcessingError`, all other events succeed. -/
def stoppingSink : Environment :=
  .ofOutcomes fun task =>
    if task = 6 then .raised (stopException "E" 6) 6 else Outcome.ofTask false task

/-- The sink `E` is cancelled in the loop over the sinks, and `H` is dispatched after it. -/
theorem not_stopIsFinal_nestedSink :
    ∃ final signals, Runs nestedSinkPipeline stoppingSink final signals ∧
      ¬StopIsFinal final signals := by
  rcases nestedSinkPipeline.runs stoppingSink with ⟨_, final, _, _, _, _, runs, _⟩
  refine ⟨final, _, runs, fun isFinal => ?_⟩
  have ran : (start stoppingSink nestedSinkHeap 0 false none).1.map
      (fun final => (final.contexts.size, final.states[3]?)) =
        .ok (5, some .cancelled) := rfl
  have same : start stoppingSink nestedSinkHeap 0 false none = _ := runs false none rfl
  simp only [same, Except.map, Except.ok.injEq, Prod.mk.injEq, states_getElem?,
    Option.map_eq_some_iff] at ran
  rcases ran with ⟨size, context, found, cancelled⟩
  have last := (isFinal 3 context found (by rw [cancelled]; rfl)).1
  omega

end EventPipeline
