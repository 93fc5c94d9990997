import EventPipeline.Execution.Stopping

/-! # The list of contexts as a log

When the list that starts at `pipeline.execution_context` holds every context of
the run in order of dispatch. A context that is linked behind one that already
has a successor takes the place of that successor, which is lost.
-/

namespace EventPipeline

open Procedure

/-- Iterating from the execution context yields the contexts in order of dispatch,
and neighbours are linked both ways. -/
def FaithfulLog (final : RunState) : Prop :=
  ∃ head, final.executionContext = some head ∧
    iterate final.contexts head = List.range final.contexts.size ∧
    ∀ id, id + 1 < final.contexts.size →
      (∃ context, final.contexts.get? id = some context ∧
        context.nextContext = some (id + 1)) ∧
      ∃ context, final.contexts.get? (id + 1) = some context ∧
        context.previousContext = some id

theorem rel_of_isChain_range {related : Nat → Nat → Prop} {size id : Nat}
    (chain : (List.range size).IsChain related) (bound : id + 1 < size) :
    related id (id + 1) := by
  have pair := List.isChain_iff_getElem.mp chain id (by simpa using bound)
  simpa using pair

theorem Listed.faithfulLog {state : RunState} {list : List ContextId}
    (listed : Listed True state list) : FaithfulLog state := by
  rcases listed.linked with ⟨head, starts, linked⟩
  have log := listed.log trivial
  subst log
  refine ⟨head, starts, linked.followLink_next, fun id bound => ?_⟩
  have edge := rel_of_isChain_range linked.edges bound
  exact ⟨Arena.link?_eq_some_iff.mp edge.next, Arena.link?_eq_some_iff.mp edge.previous⟩

theorem Orderly.faithfulLog {final : RunState} (orderly : Orderly True ⟨none, [], final⟩) :
    FaithfulLog final := by
  cases orderly with
  | idle _ listed _ _ => exact listed.faithfulLog

/-! ## Lost contexts -/

/-- The next context, linked behind `previous`, takes the place of another one. -/
def Relinks (state : RunState) : Option ContextId → Prop
  | none => state.executionContext ≠ none
  | some previous => state.contexts.link? contextLinks.next previous ≠ none

structure Chained (config : RunConfig) : Prop where
  backed : Arena.Backed contextLinks config.state.contexts
  heads : ∀ head ∈ config.state.executionContext, head < config.state.contexts.size ∧
    config.state.contexts.link? contextLinks.previous head = none
  control : ∀ call ∈ config.control, ∀ previous ∈ call.previousContext,
    previous < config.state.contexts.size
  frames : ∀ call ∈ config.waiting, ∃ previous, call.previousContext = some previous ∧
    (Relinks config.state (some previous) ∨
      ∃ task, config.control = some ⟨some task, some previous⟩)

section Append

variable {state : RunState} {heap : Heap} {task : TaskId} {context : EventExecutionContext}

/-- After a context has been linked behind `previous`, the next one would replace it. -/
theorem relinks_append {previous : Option ContextId}
    (bound : ∀ behind ∈ previous, behind < state.contexts.size) :
    Relinks (state.append heap task previous context) previous := by
  cases previous with
  | none => simp [Relinks, RunState.append]
  | some previous =>
      simp only [Relinks, RunState.append]
      rw [Arena.next_linkBehind_of_lt _ _ _ (bound previous rfl), if_pos rfl]
      simp

theorem Relinks.append {behind : ContextId} (relinks : Relinks state (some behind))
    (previous : Option ContextId) :
    Relinks (state.append heap task previous context) (some behind) := by
  have bound : behind < state.contexts.size := by
    by_contra outside
    exact relinks (Arena.link?_eq_none_of_size_le (Nat.le_of_not_lt outside))
  simp only [Relinks, RunState.append]
  rw [Arena.next_linkBehind_of_lt _ _ _ bound]
  split
  · simp
  · exact relinks

end Append

section Steps

variable {env : Environment} {heap : Heap} {root : TaskTree} {before after : RunConfig}
  {current next : Option TaskTree} {queue later : List TaskTree}

/-- After a visit every suspended loop has a context behind its own. -/
theorem Chained.frames_append {tree : TaskTree} {previous : Option ContextId}
    {waiting : List Call} {state : RunState} (context : EventExecutionContext)
    (chained : Chained ⟨some ⟨some tree.id, previous⟩, waiting, state⟩) :
    ∀ call ∈ waiting, ∃ behind, call.previousContext = some behind ∧
      Relinks (state.append heap tree.id previous context) (some behind) := by
  intro call member
  rcases chained.frames call member with ⟨behind, same, relinks | ⟨task, control⟩⟩
  · exact ⟨behind, same, relinks.append previous⟩
  · cases control
    exact ⟨behind, same, relinks_append (chained.control _ rfl)⟩

theorem Chained.step (chained : Chained before)
    (loops : ∀ call ∈ before.control.toList ++ before.waiting, call.task = none →
      call.previousContext ≠ none)
    (step : ForestStep env heap before current queue after next later) : Chained after := by
  cases step with
  | @visit tree previous waiting state queue context flow next visited =>
      have bounds := chained.control _ rfl
      refine ⟨chained.backed.linkBehind visited.previousContext visited.nextContext, ?_, ?_,
        fun call member => ?_⟩
      · intro head member
        rw [RunState.size_append]
        cases previous with
        | none =>
            cases member
            refine ⟨Nat.lt_succ_self _, ?_⟩
            simp only [RunState.append]
            rw [Arena.link?_linkBehind_self]
            exact visited.previousContext
        | some previous =>
            rcases chained.heads head member with ⟨bound, first⟩
            refine ⟨Nat.lt_succ_of_lt bound, ?_⟩
            simp only [RunState.append]
            rw [Arena.previous_linkBehind_of_lt _ _ _ bound, first]
      · intro call member
        rw [RunState.size_append]
        cases visited.onward with
        | stop => cases member
        | branch =>
            cases member
            exact fun behind same => Option.some_inj.mp same ▸ Nat.lt_succ_self _
        | switch =>
            cases member
            exact fun behind same => Nat.lt_succ_of_lt (bounds behind same)
      · rcases chained.frames_append context call member with ⟨behind, same, relinks⟩
        exact ⟨behind, same, .inl relinks⟩
  | drained empty =>
      refine ⟨chained.backed, chained.heads, by simp, fun call member => ?_⟩
      rcases chained.frames call member with ⟨behind, same, relinks | ⟨task, control⟩⟩
      · exact ⟨behind, same, .inl relinks⟩
      · cases control
  | @drain previous waiting state tree queue taken =>
      have bounds := chained.control _ rfl
      have present : previous ≠ none := loops _ List.mem_cons_self rfl
      rcases Option.ne_none_iff_exists'.mp present with ⟨behind, rfl⟩
      refine ⟨chained.backed, chained.heads, ?_, fun call member => ?_⟩
      · rintro call ⟨⟩
        exact bounds
      · rcases List.mem_cons.mp member with rfl | member
        · exact ⟨behind, rfl, .inr ⟨tree.id, rfl⟩⟩
        · rcases chained.frames call member with ⟨other, same, relinks | ⟨task, control⟩⟩
          · exact ⟨other, same, .inl relinks⟩
          · cases control
  | @resume previous waiting state queue =>
      rcases chained.frames _ List.mem_cons_self with ⟨behind, same, relinks | ⟨task, control⟩⟩
      · refine ⟨chained.backed, chained.heads, ?_, fun call member => ?_⟩
        · rintro call ⟨⟩ other found
          obtain rfl : other = behind := by
            have found : previous = some other := found
            rw [found] at same
            exact Option.some_inj.mp same
          by_contra outside
          exact relinks (Arena.link?_eq_none_of_size_le (Nat.le_of_not_lt outside))
        · rcases chained.frames call (List.mem_cons_of_mem _ member) with
            ⟨other, same, relinks | ⟨task, control⟩⟩
          · exact ⟨other, same, .inl relinks⟩
          · cases control
      · cases control

/-- A context has been lost, or the next one to be dispatched takes the place of
another. -/
inductive Doomed : RunConfig → Prop
  | lost {control waiting state address} :
      Arena.Dropped contextLinks state.contexts state.executionContext address →
      Doomed ⟨control, waiting, state⟩
  | called {task previous waiting state} : Relinks state previous →
      Doomed ⟨some ⟨some task, previous⟩, waiting, state⟩
  | drains {previous waiting state} : state.sinkQueue ≠ [] → Relinks state previous →
      Doomed ⟨some ⟨none, previous⟩, waiting, state⟩
  | resumes {previous task waiting state} : state.sinkQueue ≠ [] → Relinks state previous →
      Doomed ⟨none, ⟨task, previous⟩ :: waiting, state⟩

theorem Chained.dropped_append {task : TaskId} {previous : Option ContextId}
    {waiting : List Call} {state : RunState} {context : EventExecutionContext}
    (chained : Chained ⟨some ⟨some task, previous⟩, waiting, state⟩)
    (relinks : Relinks state previous) (last : context.nextContext = none) :
    ∃ address, Arena.Dropped contextLinks (state.append heap task previous context).contexts
      (state.append heap task previous context).executionContext address := by
  cases previous with
  | none =>
      rcases Option.ne_none_iff_exists'.mp relinks with ⟨head, found⟩
      exact ⟨head, Arena.dropped_of_alone (chained.heads head found).1 last⟩
  | some behind =>
      rcases Option.ne_none_iff_exists'.mp relinks with ⟨address, followed⟩
      refine ⟨address, Arena.dropped_of_relinked chained.backed ?_ followed last⟩
      exact fun start member => (chained.heads start member).2

theorem dropped_append {task : TaskId} {previous : Option ContextId} {state : RunState}
    {context : EventExecutionContext} {address : Nat}
    (dropped : Arena.Dropped contextLinks state.contexts state.executionContext address)
    (last : context.nextContext = none) :
    Arena.Dropped contextLinks (state.append heap task previous context).contexts
      (state.append heap task previous context).executionContext address := by
  cases previous with
  | none => exact Arena.dropped_of_alone dropped.1 last
  | some behind => exact dropped.linkBehind last

theorem Doomed.step (doomed : Doomed before) (chained : Chained before)
    (step : ForestStep env heap before current queue after next later) : Doomed after := by
  cases step with
  | visit visited =>
      cases doomed with
      | lost dropped => exact .lost (dropped_append dropped visited.nextContext)
      | called relinks =>
          rcases chained.dropped_append relinks visited.nextContext with ⟨address, dropped⟩
          exact .lost dropped
  | drained empty =>
      cases doomed with
      | lost dropped => exact .lost dropped
      | drains waits _ => exact absurd empty waits
  | @drain previous _ _ _ _ _ =>
      cases doomed with
      | lost dropped => exact .lost dropped
      | drains _ relinks =>
          refine .called ?_
          cases previous <;> exact relinks
  | resume =>
      cases doomed with
      | lost dropped => exact .lost dropped
      | resumes waits relinks => exact .drains waits relinks

theorem Overtaken.doomed (overtaken : Overtaken env heap before) (chained : Chained before)
    (step : ForestStep env heap before current queue after next later) : Doomed after := by
  rcases overtaken.2.2 with ⟨context, dispatches, _⟩
  rcases overtaken.step step with ⟨_, _, _, _, _, _, _, same, inside, waits⟩
  rcases step.visited_of_dispatches dispatches with
    ⟨tree, previous, waiting, state, flow, rfl, rfl, visited⟩
  cases waiting with
  | nil => exact absurd rfl inside
  | cons call waiting =>
      rcases chained.frames_append context call List.mem_cons_self with
        ⟨behind, previousContext, relinks⟩
      rcases call with ⟨task, before⟩
      have before_eq : before = some behind := previousContext
      subst before_eq
      have control : flow.call? = none := congrArg Procedure.Config.control same
      rw [control]
      exact .resumes waits relinks

theorem Switches.doomed (switches : Switches env heap before) (chained : Chained before)
    (step : ForestStep env heap before current queue after next later) : Doomed after := by
  rcases switches with ⟨context, dispatches, executing, submitted⟩
  rcases step.visited_of_dispatches dispatches with
    ⟨tree, previous, waiting, state, flow, rfl, rfl, visited⟩
  cases visited.onward with
  | stop stopped =>
      rw [executing] at stopped
      cases stopped
  | branch passed _ =>
      rcases passed with finished | ⟨_, _, descriptor, refused⟩
      · rw [executing] at finished
        cases finished
      · have submitted : env.submission state.contexts.size = none := submitted
        rw [refused] at submitted
        cases submitted
  | switch _ _ _ => exact .called (relinks_append (chained.control _ rfl))

theorem chained_of_visits {config : RunConfig} (rooted : Rooted heap root)
    (nodup : root.ids.Nodup) (visited : Visits env heap root.id config) :
    ∃ current queue, Forest heap root config current queue ∧ Chained config := by
  refine @visits_forest env heap root (fun config _ _ => Chained config) rooted nodup ?_ ?_
    config visited
  · refine ⟨?_, ?_, ?_, ?_⟩
    · intro here there edge
      cases edge
    · rintro head ⟨⟩
    · rintro call ⟨⟩ previous ⟨⟩
    · rintro call ⟨⟩
  · intro before current queue after next later visited _ chained step
    exact chained.step (loop_follows rooted nodup visited) step

theorem Doomed.of_reaches {config : RunConfig} (rooted : Rooted heap root)
    (nodup : root.ids.Nodup) (visited : Visits env heap root.id before) (doomed : Doomed before)
    (onward : Reaches (executeBody env heap) before config) : Doomed config := by
  induction onward with
  | refl => exact doomed
  | tail reached step induction =>
      rcases chained_of_visits rooted nodup (visited.trans reached) with
        ⟨_, _, forest, chained⟩
      rcases forest.step nodup (runStep_of_step step) with ⟨_, _, forestStep, _⟩
      exact induction.step chained forestStep

theorem Doomed.not_faithfulLog {final : RunState} (doomed : Doomed ⟨none, [], final⟩) :
    ¬FaithfulLog final := by
  rintro ⟨head, starts, log, _⟩
  cases doomed with
  | @lost _ _ _ address dropped =>
      have member : address ∈ iterate final.contexts head := by
        rw [log]
        exact List.mem_range.mpr dropped.1
      exact dropped.2 head starts (Arena.reached_of_mem_followLink member)

theorem not_faithfulLog_of_visits {config : RunConfig} {final : RunState}
    (rooted : Rooted heap root) (nodup : root.ids.Nodup)
    (visited : Visits env heap root.id config)
    (wrong : Overtaken env heap config ∨ Switches env heap config)
    (ended : Visits env heap root.id ⟨none, [], final⟩) : ¬FaithfulLog final := by
  rcases chained_of_visits rooted nodup visited with ⟨current, queue, forest, chained⟩
  rcases (reaches_final ended visited).cases_head with same | ⟨next, step, onward⟩
  · subst same
    rcases wrong with ⟨_, _, _, ⟨_, _, _, _, control, _⟩, _⟩ | ⟨_, ⟨_, _, _, _, control, _⟩, _⟩
    · cases control
    · cases control
  · rcases forest.step nodup (runStep_of_step step) with ⟨_, _, forestStep, _⟩
    have doomed : Doomed next := by
      rcases wrong with overtaken | switches
      · exact overtaken.doomed chained forestStep
      · exact switches.doomed chained forestStep
    exact (doomed.of_reaches rooted nodup (visited.tail step) onward).not_faithfulLog

end Steps

/-- The list of contexts is a faithful log of a run exactly when no event of the run
switches to a configured descriptor and no context stops inside the loop over the
sinks while sinks wait. -/
theorem faithfulLog_iff (pipeline : AcceptedPipeline) (env : Environment) :
    ∃ final signals, Runs pipeline env final signals ∧
      (FaithfulLog final ↔ ∀ config, Visits env pipeline.heap pipeline.root config →
        ¬Overtaken env pipeline.heap config ∧ ¬Switches env pipeline.heap config) := by
  rcases pipeline.runs env with ⟨tree, final, same, stored, nodup, proper, runs, ended⟩
  have rooted : Rooted pipeline.heap tree := ⟨⟨none, stored⟩, proper⟩
  refine ⟨final, _, runs, ?_⟩
  rw [← same]
  constructor
  · intro faithful config visited
    refine ⟨fun overtaken => ?_, fun switches => ?_⟩
    · exact not_faithfulLog_of_visits rooted nodup visited (.inl overtaken) ended faithful
    · exact not_faithfulLog_of_visits rooted nodup visited (.inr switches) ended faithful
  · intro straight
    exact (@orderly_of_visits True _ _ _ _ rooted nodup
      (fun config visited => (straight config visited).1)
      (fun _ config visited => (straight config visited).2) ended).faithfulLog

/-- The tasks of `A(2->B,3->C)`. -/
def switchHeap : Heap := ⟨[
  { event := "A",
    extraConfig := { descriptors := [(2, ⟨2, .pointer, 1⟩), (3, ⟨3, .pointer, 2⟩)] } },
  { event := "B", descriptor := some 2, descriptorPipe := some .pointer, parentNode := some 0 },
  { event := "C", descriptor := some 3, descriptorPipe := some .pointer, parentNode := some 0 }]⟩

def switchPipeline : AcceptedPipeline :=
  ⟨.initial, "A(2->B,3->C)", 0, switchHeap, rfl⟩

/-- `A` asks to switch to the descriptor 2. -/
def switchingRoot : Environment :=
  .ofOutcomes fun task =>
    if task = 0 then .switched 2 ⟨0, false, "", .none, some 0, none, none, none⟩
    else Outcome.ofTask false task

/-- The context of `B` takes the place of the context of `A` at the head of the list. -/
theorem not_faithfulLog_switch :
    ∃ final signals, Runs switchPipeline switchingRoot final signals ∧
      ¬FaithfulLog final := by
  rcases switchPipeline.runs switchingRoot with ⟨_, final, _, _, _, _, runs, _⟩
  refine ⟨final, _, runs, ?_⟩
  rintro ⟨head, starts, log, _⟩
  have ran : (start switchingRoot switchHeap 0 false none).1.map
      (fun final => (final.executionContext, final.contexts.size, iterate final.contexts 1)) =
        .ok (some 1, 2, [1]) := rfl
  have same : start switchingRoot switchHeap 0 false none = _ := runs false none rfl
  simp only [same, Except.map, Except.ok.injEq, Prod.mk.injEq] at ran
  rcases ran with ⟨first, size, walked⟩
  rw [first, Option.some_inj] at starts
  rw [← starts, walked, size] at log
  cases log

end EventPipeline
