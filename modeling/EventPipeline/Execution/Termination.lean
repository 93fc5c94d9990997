import EventPipeline.Execution.Forest

/-! # Every run ends

A run of an accepted pipeline returns, whatever the events deliver, and it
dispatches no task twice.
-/

namespace EventPipeline

open Procedure

/-- What is left of a run over `total` tasks. A task not yet dispatched counts for
more than the sink it can push and the loop in which that sink is taken. -/
def remaining (total : Nat) (config : RunConfig) : Nat :=
  5 * (total - config.state.dispatched.length) + 3 * config.state.sinkQueue.length +
    2 * config.waiting.length +
    match config.control with
    | some ⟨none, _⟩ => 1
    | _ => 0

theorem TaskTree.members_length_pos (tree : TaskTree) (previous : Option ContextId) :
    0 < (tree.members previous).length := by
  cases previous with
  | none => simp [TaskTree.members]
  | some previous => exact List.length_pos_iff.mpr tree.group_ne_nil

theorem TaskTree.pushed_length_le (tree : TaskTree) (previous : Option ContextId) :
    (tree.pushed previous).length ≤ 1 := by
  cases previous with
  | none => simp [TaskTree.pushed]
  | some previous => exact Option.length_toList_le

section Steps

variable {env : Environment} {heap : Heap} {root : TaskTree}

theorem Forest.dispatched_length_le {config : RunConfig} {current : Option TaskTree}
    {queue : List TaskTree} (forest : Forest heap root config current queue) :
    config.state.dispatched.length ≤ root.ids.length :=
  ((List.sublist_append_left _ _).subperm.trans forest.account).length_le

theorem ForestStep.decreases {before after : RunConfig} {current next : Option TaskTree}
    {queue later : List TaskTree}
    (step : ForestStep env heap before current queue after next later)
    (forest : Forest heap root before current queue)
    (forestAfter : Forest heap root after next later) :
    remaining root.ids.length after < remaining root.ids.length before := by
  cases step with
  | @visit tree previous waiting state queue context flow next visited =>
      have bound := forestAfter.dispatched_length_le
      have sinksBefore : state.sinkQueue.length = queue.length := by
        rw [show state.sinkQueue = queue.map TaskTree.id from forest.sinkQueue, List.length_map]
      have sinksAfter : (state.append heap tree.id previous context).sinkQueue.length =
          (tree.pushed previous).length + queue.length := by
        rw [show (state.append heap tree.id previous context).sinkQueue =
          (tree.pushed previous ++ queue).map TaskTree.id from forestAfter.sinkQueue]
        simp
      have some_ := tree.members_length_pos previous
      have few := tree.pushed_length_le previous
      have control : (match flow.call? with
          | some ⟨none, _⟩ => 1
          | _ => 0) ≤ 1 := by
        split <;> omega
      simp only [RunState.dispatched_append, List.length_append,
        visited.members.length_eq] at bound
      simp only [remaining, RunState.dispatched_append, List.length_append,
        visited.members.length_eq, sinksAfter, sinksBefore]
      omega
  | drained => simp [remaining]
  | drain taken =>
      simp only [remaining, taken, List.length_map, List.length_cons, RunState.dispatched,
        RunState.groups]
      omega
  | resume =>
      simp only [remaining, List.length_cons]
      omega

end Steps

theorem executeTask_returns (env : Environment) {heap : Heap} {root : TaskTree}
    (stored : root.Stored heap none) (nodup : root.ids.Nodup) (proper : root.Proper) :
    ∃ final, ∀ depth, recursionDepth heap ≤ depth →
      executeTask env heap depth (some root.id) none {} = .ok final := by
  have initial : ∃ current queue, Forest heap root (initialConfig root.id) current queue :=
    ⟨_, _, .initial ⟨⟨none, stored⟩, proper⟩⟩
  have enough : remaining root.ids.length (initialConfig root.id) < recursionDepth heap := by
    have bound := stored.length_le_size nodup
    simp [remaining, initialConfig, recursionDepth, RunState.dispatched, RunState.groups,
      Arena.empty]
    omega
  have ran := @run_total Call RunState PyError (executeBody env heap)
    (fun config => ∃ current queue, Forest heap root config current queue)
    (remaining root.ids.length) ?_ ?_ ?_ _ _ _ _ initial enough
  · rcases ran with ⟨final, returned⟩
    refine ⟨final, fun depth deep => ?_⟩
    rcases Nat.exists_eq_add_of_le deep with ⟨spare, rfl⟩
    rw [executeTask_eq_run, run_add_fuel returned spare]
    rfl
  · rintro before after ⟨current, queue, forest⟩ step
    rcases forest.step nodup (runStep_of_step step) with ⟨next, later, _, forestAfter⟩
    exact ⟨next, later, forestAfter⟩
  · rintro before after ⟨current, queue, forest⟩ step
    rcases forest.step nodup (runStep_of_step step) with
      ⟨next, later, forestStep, forestAfter⟩
    exact forestStep.decreases forest forestAfter
  · rintro ⟨task, previous⟩ waiting state error ⟨current, queue, forest⟩ raised
    cases task with
    | none =>
        simp only [executeBody] at raised
        split at raised <;> cases raised
    | some task =>
        rcases forest.visit env nodup with ⟨tree, context, flow, next, _, _, visited, _⟩
        simp only [executeBody, visited] at raised
        cases flow <;> cases raised

theorem dispatched_subperm {env : Environment} {heap : Heap} {root : TaskTree}
    {config : RunConfig} (rooted : Rooted heap root) (nodup : root.ids.Nodup)
    (visited : Visits env heap root.id config) :
    config.state.dispatched.Subperm root.ids := by
  rcases @visits_forest env heap root (fun _ _ _ => True) rooted nodup trivial
    (fun _ _ _ _ => trivial) config visited with ⟨_, _, forest, _⟩
  exact (List.sublist_append_left _ _).subperm.trans forest.account

theorem groups_ne_nil {env : Environment} {heap : Heap} {root : TaskTree}
    {config : RunConfig} (rooted : Rooted heap root) (nodup : root.ids.Nodup)
    (visited : Visits env heap root.id config) : ∀ group ∈ config.state.groups, group ≠ [] := by
  have held := @visits_forest env heap root
    (fun config _ _ => ∀ group ∈ config.state.groups, group ≠ []) rooted nodup ?_ ?_ config
    visited
  · rcases held with ⟨_, _, _, nonempty⟩
    exact nonempty
  · simp [initialConfig, RunState.groups, Arena.empty]
  · intro before current queue after next later _ _ held step
    cases step with
    | @visit tree previous waiting state queue context flow next visited =>
        intro group member
        rw [RunState.groups_append] at member
        rcases List.mem_append.mp member with earlier | latest
        · exact held group earlier
        · rw [List.mem_singleton.mp latest]
          intro empty
          have nonempty := tree.members_length_pos previous
          rw [← visited.members.length_eq, empty] at nonempty
          exact Nat.lt_irrefl 0 nonempty
    | drained => exact held
    | drain => exact held
    | resume => exact held

theorem length_le_flatten {groups : List (List TaskId)}
    (nonempty : ∀ group ∈ groups, group ≠ []) : groups.length ≤ groups.flatten.length := by
  induction groups with
  | nil => simp
  | cons group rest induction =>
      have first := List.length_pos_iff.mpr (nonempty group List.mem_cons_self)
      have others := induction fun group member => nonempty group (List.mem_cons_of_mem _ member)
      simp only [List.length_cons, List.flatten_cons, List.length_append]
      omega

/-- Every run of an accepted pipeline returns within a depth of recursion that its
tasks bound. It dispatches no task twice and makes at most as many dispatches as
there are tasks. -/
theorem run_dispatches_once (pipeline : AcceptedPipeline) (env : Environment) :
    ∃ final order,
      (∀ depth, recursionDepth pipeline.heap ≤ depth →
        executeTask env pipeline.heap depth (some pipeline.root) none {} = .ok final) ∧
      pipeline.heap.bfTraversal pipeline.root = some order ∧
      pipeline.heap.getTaskCount pipeline.root = some order.length ∧
      final.dispatched.Nodup ∧ (∀ task ∈ final.dispatched, task ∈ order) ∧
      final.contexts.size ≤ order.length := by
  rcases pipeline.stored with ⟨tree, same, stored, nodup, proper⟩
  rcases executeTask_returns env stored nodup proper with ⟨final, returned⟩
  have visited := visits_of_executeTask (returned _ (Nat.le_refl _))
  have rooted : Rooted pipeline.heap tree := ⟨⟨none, stored⟩, proper⟩
  have inside := dispatched_subperm rooted nodup visited
  have contexts := length_le_flatten (groups_ne_nil rooted nodup visited)
  rw [← same]
  refine ⟨final, tree.ids, returned, stored.bfTraversal_eq nodup,
    stored.getTaskCount_eq nodup tree.id_mem_ids, nodup_of_subperm inside nodup,
    fun task member => inside.subset member, ?_⟩
  calc final.contexts.size = final.groups.length := by simp [RunState.groups, Arena.size]
    _ ≤ final.dispatched.length := contexts
    _ ≤ tree.ids.length := inside.length_le

/-- Every call of `start` that is not refused because the pipeline has run before ends
in the same state and emits the same signals. -/
def Runs (pipeline : AcceptedPipeline) (env : Environment) (final : RunState)
    (signals : List Signal) : Prop :=
  ∀ (forceRerun : Bool) (earlier : Option ContextId), (earlier.isSome && !forceRerun) = false →
    start env pipeline.heap pipeline.root forceRerun earlier = (.ok final, signals)

theorem AcceptedPipeline.runs (pipeline : AcceptedPipeline) (env : Environment) :
    ∃ (tree : TaskTree) (final : RunState), tree.id = pipeline.root ∧
      tree.Stored pipeline.heap none ∧
      tree.ids.Nodup ∧ tree.Proper ∧
      Runs pipeline env final [.pipelineExecutionStart, closingSignal final] ∧
      Visits env pipeline.heap tree.id ⟨none, [], final⟩ := by
  rcases pipeline.stored with ⟨tree, same, stored, nodup, proper⟩
  rcases executeTask_returns env stored nodup proper with ⟨final, returned⟩
  have deep := returned _ (Nat.le_refl (recursionDepth pipeline.heap))
  refine ⟨tree, final, same, stored, nodup, proper, fun forceRerun earlier admitted => ?_,
    visits_of_executeTask deep⟩
  rw [same] at deep
  simp only [start, admitted, deep]
  rfl

theorem AcceptedPipeline.runs_of_start {pipeline : AcceptedPipeline} {env : Environment}
    {final : RunState}
    (started : (start env pipeline.heap pipeline.root false none).1 = .ok final) :
    ∃ signals, Runs pipeline env final signals := by
  rcases pipeline.runs env with ⟨_, other, _, _, _, _, runs, _⟩
  rw [runs false none rfl, Except.ok.injEq] at started
  exact ⟨_, started ▸ runs⟩

/-- The state in which the first call of `start` ends. -/
def AcceptedPipeline.final (pipeline : AcceptedPipeline) (env : Environment) : RunState :=
  match (start env pipeline.heap pipeline.root false none).1 with
  | .ok final => final
  | .error _ => {}

end EventPipeline
