import EventPipeline.Execution.Termination

/-! # The list of contexts

How the linked list of contexts grows during a run: when it is a log of the run,
and when a context that has stopped stays the last one.
-/

namespace EventPipeline

open Procedure

/-! ## What can go wrong -/

def Dispatches (env : Environment) (heap : Heap) (config : RunConfig)
    (context : EventExecutionContext) : Prop :=
  ∃ task previous last switch, config.control = some ⟨some task, previous⟩ ∧
    dispatchTask env heap task previous config.state.contexts.size =
      .ok (last, context, switch)

/-- The sinks that wait while the next context is dispatched, its own included. -/
def sinksWaiting (heap : Heap) (config : RunConfig) : List TaskId :=
  match config.control with
  | some ⟨some task, some _⟩ => pushSink heap task config.state.sinkQueue
  | _ => config.state.sinkQueue

/-- The next context is dispatched inside the loop that empties the sink queue, it
stops, and sinks wait. -/
def Overtaken (env : Environment) (heap : Heap) (config : RunConfig) : Prop :=
  config.waiting ≠ [] ∧ sinksWaiting heap config ≠ [] ∧
    ∃ context, Dispatches env heap config context ∧ context.state.isStopped = true

/-- The events of the next context are submitted and it is left executing: its last task has a
descriptor for the task that one of them asks to switch to. -/
def Switches (env : Environment) (heap : Heap) (config : RunConfig) : Prop :=
  ∃ context, Dispatches env heap config context ∧ context.state = .executing ∧
    env.submission config.state.contexts.size = none

theorem Visited.dispatches {env : Environment} {heap : Heap} {tree : TaskTree}
    {previous : Option ContextId} {context : EventExecutionContext} {flow : Flow}
    {next : Option TaskTree} {state : RunState}
    (visited : Visited env heap tree previous state.contexts.size context flow next)
    (waiting : List Call) :
    Dispatches env heap ⟨some ⟨some tree.id, previous⟩, waiting, state⟩ context := by
  rcases visited.dispatched with ⟨last, switch, made⟩
  exact ⟨tree.id, previous, last, switch, rfl, made⟩

theorem Visited.eq_of_dispatches {env : Environment} {heap : Heap} {tree : TaskTree}
    {previous : Option ContextId} {context other : EventExecutionContext} {flow : Flow}
    {next : Option TaskTree} {state : RunState} {waiting : List Call}
    (visited : Visited env heap tree previous state.contexts.size context flow next)
    (dispatches : Dispatches env heap ⟨some ⟨some tree.id, previous⟩, waiting, state⟩ other) :
    other = context := by
  rcases visited.dispatched with ⟨last, switch, made⟩
  rcases dispatches with ⟨task, before, otherLast, otherSwitch, same, otherMade⟩
  cases same
  rw [show ((⟨some ⟨some tree.id, previous⟩, waiting, state⟩ : RunConfig).state.contexts.size) =
    state.contexts.size from rfl, made] at otherMade
  cases otherMade
  rfl

theorem ForestStep.visited_of_dispatches {env : Environment} {heap : Heap}
    {before after : RunConfig} {current next : Option TaskTree} {queue later : List TaskTree}
    {context : EventExecutionContext}
    (step : ForestStep env heap before current queue after next later)
    (dispatches : Dispatches env heap before context) :
    ∃ tree previous waiting state flow,
      before = ⟨some ⟨some tree.id, previous⟩, waiting, state⟩ ∧
      after = ⟨flow.call?, waiting, state.append heap tree.id previous context⟩ ∧
      Visited env heap tree previous state.contexts.size context flow next := by
  cases step with
  | @visit tree previous waiting state _ _ flow _ visited =>
      obtain rfl := visited.eq_of_dispatches dispatches
      exact ⟨tree, previous, waiting, state, flow, rfl, rfl, visited⟩
  | drained _ =>
      rcases dispatches with ⟨_, _, _, _, control, _⟩
      cases control
  | drain _ =>
      rcases dispatches with ⟨_, _, _, _, control, _⟩
      cases control
  | resume =>
      rcases dispatches with ⟨_, _, _, _, control, _⟩
      cases control

/-- The step that is overtaken: the stopped context is appended, and the loop around
it goes on with the sinks that wait. -/
theorem Overtaken.step {env : Environment} {heap : Heap} {before after : RunConfig}
    {current next : Option TaskTree} {queue later : List TaskTree}
    (overtaken : Overtaken env heap before)
    (step : ForestStep env heap before current queue after next later) :
    ∃ task previous context, before.control = some ⟨some task, previous⟩ ∧
      context.state.isStopped = true ∧ context.previousContext = previous ∧
      context.nextContext = none ∧
      after = ⟨none, before.waiting, before.state.append heap task previous context⟩ ∧
      after.waiting ≠ [] ∧ after.state.sinkQueue ≠ [] := by
  rcases overtaken with ⟨inside, waits, context, dispatches, stopped⟩
  rcases step.visited_of_dispatches dispatches with
    ⟨tree, previous, waiting, state, flow, rfl, rfl, visited⟩
  have sinks : (state.append heap tree.id previous context).sinkQueue ≠ [] := by
    cases previous <;> exact waits
  cases visited.onward with
  | stop _ =>
      exact ⟨tree.id, previous, context, rfl, stopped, visited.previousContext,
        visited.nextContext, rfl, inside, sinks⟩
  | branch passed _ =>
      rw [passed.running] at stopped
      cases stopped
  | switch executing _ _ =>
      rw [executing] at stopped
      cases stopped

/-! ## Places on the list -/

/-- The list of contexts ends with the context dispatched last. When `full`, it
holds every context. -/
structure Listed (full : Prop) (state : RunState) (list : List ContextId) : Prop where
  linked : ∃ head, state.executionContext = some head ∧
    Arena.Linked contextLinks state.contexts head list
  latest : ∀ last ∈ list.getLast?, last + 1 = state.contexts.size
  log : full → list = List.range state.contexts.size

/-- Where the next context can be linked. -/
def Place (full : Prop) (state : RunState) : Option ContextId → Prop
  | none => full → state.contexts.size = 0
  | some previous => ∃ list, Listed full state list ∧ previous ∈ list ∧
      (full → previous + 1 = state.contexts.size)

theorem range_succ_of_append {before after : List Nat} {size : Nat}
    (split : List.range (size + 1) = before ++ size :: after) : before = List.range size := by
  rw [List.range_succ] at split
  have ordered := List.pairwise_lt_range (n := size + 1)
  rw [List.range_succ, split] at ordered
  have nothing : after = [] := by
    cases after with
    | nil => rfl
    | cons next rest =>
        have larger : size < next :=
          List.rel_of_pairwise_cons (List.pairwise_append.mp ordered).2.1 (by simp)
        have member : next ∈ List.range size ++ [size] := by
          rw [split]
          simp
        simp only [List.mem_append, List.mem_range, List.mem_singleton] at member
        omega
  subst nothing
  exact (List.append_inj_left' split rfl).symm

section Append

variable {full : Prop} {state : RunState} {heap : Heap} {task : TaskId}
  {previous : Option ContextId} {context : EventExecutionContext}

theorem Place.append (place : Place full state previous)
    (linked : context.previousContext = previous) (last : context.nextContext = none) :
    (∃ list, Listed full (state.append heap task previous context) list) ∧
      Place full (state.append heap task previous context) (some state.contexts.size) ∧
      (¬full → Place full (state.append heap task previous context) previous) := by
  cases previous with
  | none =>
      have alone : Listed full (state.append heap task none context) [state.contexts.size] := by
        refine ⟨⟨_, rfl, Arena.linked_alone linked last⟩, ?_, fun fully => ?_⟩
        · simp
        · simp [place fully, List.range_succ]
      refine ⟨⟨_, alone⟩, ⟨_, alone, by simp, by simp⟩, fun partially fully => ?_⟩
      exact absurd fully partially
  | some previous =>
      rcases place with ⟨list, listed, member, latest⟩
      rcases listed.linked with ⟨head, starts, chain⟩
      rcases List.append_of_mem member with ⟨before, after, rfl⟩
      have longer : Listed full (state.append heap task (some previous) context)
          (before ++ [previous, state.contexts.size]) := by
        refine ⟨⟨head, starts, chain.linkBehind linked last⟩, ?_, fun fully => ?_⟩
        · simp
        · have log := listed.log fully
          rw [← latest fully] at log ⊢
          rw [RunState.size_append, ← latest fully, range_succ_of_append log.symm,
            List.range_succ, List.range_succ]
          simp
      refine ⟨⟨_, longer⟩, ⟨_, longer, by simp, by simp⟩, fun partially => ?_⟩
      exact ⟨_, longer, by simp, fun fully => absurd fully partially⟩

end Append

/-! ## Orderly runs -/

def RunState.states (state : RunState) : List ExecutionState :=
  state.contexts.cells.map EventExecutionContext.state

@[simp] theorem RunState.states_append (state : RunState) (heap : Heap) (task : TaskId)
    (previous : Option ContextId) (context : EventExecutionContext) :
    (state.append heap task previous context).states = state.states ++ [context.state] :=
  RunState.map_append (fun _ _ => rfl) state heap task previous context

/-- A run in which no context has stopped, or only the last one. While a call is
pending, its previous context is a place on the list; otherwise no sink waits, or
the run is at its end. -/
inductive Orderly (full : Prop) : RunConfig → Prop
  | called {task previous waiting state} :
      (∀ kind ∈ state.states, kind.isStopped = false) → Place full state previous →
      Orderly full ⟨some ⟨some task, previous⟩, waiting, state⟩
  | ended {previous waiting state} :
      (∀ kind ∈ state.states, kind.isStopped = false) → Place full state (some previous) →
      Orderly full ⟨some ⟨none, some previous⟩, waiting, state⟩
  | idle {control waiting state list} :
      (∀ kind ∈ state.states.dropLast, kind.isStopped = false) → Listed full state list →
      control.bind Call.task = none →
      (state.sinkQueue = [] ∨ (control = none ∧ waiting = [])) →
      Orderly full ⟨control, waiting, state⟩

section Steps

variable {full : Prop} {env : Environment} {heap : Heap} {root : TaskTree}

theorem Place.of_sinkQueue {state : RunState} {previous : ContextId}
    (place : Place full state (some previous)) (queue : List TaskId) :
    Place full { state with sinkQueue := queue } (some previous) := by
  rcases place with ⟨list, listed, member, latest⟩
  exact ⟨list, ⟨listed.linked, listed.latest, listed.log⟩, member, latest⟩

theorem sinkQueue_append (state : RunState) (task : TaskId) (previous : Option ContextId)
    (context : EventExecutionContext) (waiting : List Call) :
    (state.append heap task previous context).sinkQueue =
      sinksWaiting heap ⟨some ⟨some task, previous⟩, waiting, state⟩ := by
  cases previous <;> rfl

theorem running_append {state : RunState} {task : TaskId} {previous : Option ContextId}
    {context : EventExecutionContext}
    (running : ∀ kind ∈ state.states, kind.isStopped = false)
    (runs : context.state.isStopped = false) :
    ∀ kind ∈ (state.append heap task previous context).states, kind.isStopped = false := by
  intro kind member
  rw [RunState.states_append] at member
  rcases List.mem_append.mp member with earlier | latest
  · exact running kind earlier
  · rw [List.mem_singleton.mp latest]
    exact runs

theorem Orderly.step {before after : RunConfig} {current next : Option TaskTree}
    {queue later : List TaskTree} (orderly : Orderly full before)
    (calm : ¬Overtaken env heap before) (straight : full → ¬Switches env heap before)
    (step : ForestStep env heap before current queue after next later) :
    Orderly full after := by
  cases step with
  | @visit tree previous waiting state queue context flow next visited =>
      cases orderly with
      | idle _ _ control _ => cases control
      | called running place =>
          rcases place.append visited.previousContext visited.nextContext with
            ⟨⟨list, listed⟩, onward, again⟩
          have dispatches := visited.dispatches waiting
          cases visited.onward with
          | stop stopped =>
              refine .idle ?_ listed rfl ?_
              · simpa using running
              · by_cases outside : waiting = []
                · exact .inr ⟨rfl, outside⟩
                · left
                  rw [sinkQueue_append state tree.id previous context waiting]
                  by_contra waits
                  exact calm ⟨outside, waits, context, dispatches, stopped⟩
          | @branch failed passed _ =>
              have runs : ∀ kind ∈ (state.append heap tree.id previous context).states,
                  kind.isStopped = false := running_append running passed.running
              cases target : ((tree.turn previous).branch failed).id? with
              | none =>
                  rw [Flow.call?]
                  exact .ended runs onward
              | some target =>
                  rw [Flow.call?]
                  exact .called runs onward
          | switch executing submitted _ =>
              refine .called (running_append running ?_) (again fun fully => ?_)
              · rw [executing]
                rfl
              · exact straight fully ⟨context, dispatches, executing, submitted⟩
  | drained empty =>
      cases orderly with
      | ended running place =>
          rcases place with ⟨list, listed, _⟩
          refine .idle (fun kind member => ?_) listed rfl (.inl empty)
          exact running kind (List.mem_of_mem_dropLast member)
      | idle last listed _ _ => exact .idle last listed rfl (.inl empty)
  | @drain previous waiting state tree queue taken =>
      cases orderly with
      | ended running place => exact .called running (place.of_sinkQueue _)
      | idle _ _ _ settled =>
          rcases settled with empty | ⟨returned, _⟩
          · simp [taken] at empty
          · cases returned
  | resume =>
      cases orderly with
      | idle last listed _ settled =>
          rcases settled with empty | ⟨_, nothing⟩
          · exact .idle last listed rfl (.inl empty)
          · cases nothing

theorem orderly_of_visits {config : RunConfig} (rooted : Rooted heap root)
    (nodup : root.ids.Nodup)
    (calm : ∀ config, Visits env heap root.id config → ¬Overtaken env heap config)
    (straight : full → ∀ config, Visits env heap root.id config → ¬Switches env heap config)
    (visited : Visits env heap root.id config) : Orderly full config := by
  have held := @visits_forest env heap root (fun config _ _ => Orderly full config) rooted
    nodup ?_ ?_ config visited
  · rcases held with ⟨_, _, _, orderly⟩
    exact orderly
  · refine .called ?_ fun _ => rfl
    simp [RunState.states, Arena.empty]
  · intro before current queue after next later visited _ orderly step
    exact orderly.step (calm before visited) (fun fully => straight fully before visited) step

end Steps

end EventPipeline
