import EventPipeline.Execution.Branching

/-! # Sinks

In a quiet run the sink of a dispatched task is dispatched once, after the branch
that was taken, or not at all: a visit pushes the sink of the task it was called
with, and the visit of the root pushes none.
-/

namespace EventPipeline

/-- The sink of a task is dispatched exactly once, after every dispatched task of the
branch that was taken. -/
def RunsSink (env : Environment) (heap : Heap) (final : RunState)
    (context : EventExecutionContext) (record : PipelineTask) (sink : TaskId) : Prop :=
  final.dispatched.count sink = 1 ∧
    ∃ failed, context.executionFailed heap env.policies = .ok failed ∧
      ∀ head, (if failed then record.onFailureEvent else record.onSuccessEvent) = some head →
        (∃ id, final.DispatchedAt id head) ∧
        ∃ tasks, heap.bfTraversal head = some tasks ∧
          ∀ task ∈ tasks, ∀ earlier later, final.DispatchedAt earlier task →
            final.DispatchedAt later sink → earlier < later

/-- The task is not the root, and it is not reached over `||` from another task than
the root. -/
def PushesSink (heap : Heap) (root task : TaskId) : Prop :=
  task ≠ root ∧ ∀ parent, ParallelTo heap parent task → parent = root

section Turns

variable {heap : Heap} {tree : TaskTree} {previous : Option ContextId}

theorem TaskTree.Stored.sinkNode_of_mem {parent : Option TaskId}
    (stored : tree.Stored heap parent) (proper : tree.Proper) {id : TaskId}
    (member : id ∈ tree.group.dropLast) : (heap.get? id).bind PipelineTask.sinkNode = none := by
  induction tree using TaskTree.group_induction generalizing parent with
  | single tree _ group _ => simp [group] at member
  | parallel root label failure sink next customs induction =>
      simp only [TaskTree.group, Slot.group, List.dropLast_cons_of_ne_nil next.group_ne_nil,
        List.mem_cons] at member
      rcases member with rfl | member
      · rw [stored.1, Option.bind_some, TaskTree.record_sinkNode]
        cases sink with
        | vacant => rfl
        | child pipe tree => exact absurd rfl (proper.1 rfl)
      · have below : next.Stored heap (some root) := stored.2.2.2.1
        exact induction below proper.2.2.2.1 member

theorem Rooted.eq_turn_of_sinkNode (rooted : Rooted heap tree) {task sink : TaskId}
    {record : PipelineTask} (member : task ∈ tree.members previous)
    (found : heap.get? task = some record) (sinks : record.sinkNode = some sink) :
    task = (tree.turn previous).id := by
  rcases TaskTree.mem_dropLast_or_eq_turn member with earlier | last
  · rcases rooted.stored with ⟨parent, stored⟩
    have nothing := stored.sinkNode_of_mem rooted.proper earlier
    rw [found, Option.bind_some, sinks] at nothing
    cases nothing
  · exact last

theorem TaskTree.id_mem_dropLast (several : tree.group.dropLast ≠ []) :
    tree.id ∈ tree.group.dropLast := by
  rcases tree with ⟨id, label, failure, sink, success, customs⟩
  simp only [TaskTree.group, TaskTree.id] at several ⊢
  cases rest : success.group with
  | nil => simp [rest] at several
  | cons next rest => exact List.mem_cons_self

theorem ParallelTo.eq_parent {parent first : TaskId}
    (parallel : ParallelTo heap first tree.id) (stored : tree.Stored heap (some parent)) :
    first = parent := by
  rcases parallel with ⟨_, next, _, found, _, _, link⟩
  rw [stored.record_eq, Option.some_inj] at found
  rw [← found, TaskTree.record_parentNode, Option.some_inj] at link
  exact link.symm

theorem TaskTree.sink_ids_subset (tree : TaskTree) : tree.sink.ids ⊆ tree.ids := by
  intro task member
  exact tree.body_append_sink.subset (List.mem_append_right _ member)

theorem TaskTree.branch_apart_sink (nodup : tree.ids.Nodup) (failed : Bool) :
    (tree.id :: ((tree.branch failed).ids ++ tree.sink.ids)).Nodup ∧
      (tree.branch failed).ids ⊆ tree.ids := by
  rcases tree with ⟨id, label, failure, sink, success, customs⟩
  have parts := TaskTree.nodup_parts nodup
  simp only [TaskTree.id, TaskTree.failure, TaskTree.sink, TaskTree.success,
    List.nodup_cons, List.mem_append, not_or] at parts ⊢
  unfold TaskTree.branch
  split
  · refine ⟨⟨⟨parts.1.1, parts.1.2.1⟩, ?_⟩, ?_⟩
    · refine parts.2.sublist ((List.Sublist.refl _).append ?_)
      exact List.sublist_append_left _ _
    · intro task member
      exact List.mem_cons_of_mem _ (List.mem_append_left _ member)
  · refine ⟨⟨⟨parts.1.2.2, parts.1.2.1⟩, ?_⟩, ?_⟩
    · refine List.perm_append_comm.nodup_iff.mp (parts.2.sublist ?_)
      exact List.sublist_append_right _ _
    · intro task member
      have member : task ∈ success.ids := member
      simp [TaskTree.ids, member]

variable {failed : TaskId → Bool} {root : TaskTree} {before after : List (List TaskId)}

theorem TaskTree.last_id_ne (nodup : tree.ids.Nodup) (several : tree.group.dropLast ≠ []) :
    tree.last.id ≠ tree.id := by
  intro same
  have apart := nodup_of_subperm tree.group_append_last nodup
  have first := TaskTree.id_mem_dropLast several
  rw [← same] at first
  exact (List.nodup_append.mp apart).2.2 _ first _ tree.last.id_mem_ids rfl

theorem TaskTree.Stored.exists_parallelTo_last {parent : Option TaskId}
    (stored : tree.Stored heap parent) (nodup : tree.ids.Nodup)
    (several : tree.group.dropLast ≠ []) :
    ∃ first ∈ tree.group, ParallelTo heap first tree.last.id := by
  have member : tree.last.id ∈ tree.group := by
    rw [tree.group_eq]
    simp
  rcases stored.mem_group_cases member with same | reached
  · exact absurd same (TaskTree.last_id_ne nodup several)
  · exact reached

theorem Entry.turn_apart (entry : Entry failed root tree previous before after)
    (nodup : root.ids.Nodup) :
    ((tree.turn previous).id :: (((tree.turn previous).branch
        (failed (tree.turn previous).id)).ids ++ (tree.turn previous).sink.ids)).Nodup ∧
      ((tree.turn previous).branch (failed (tree.turn previous).id)).ids ⊆ tree.ids := by
  have parts := tree.members_append_turn previous
  have turnNodup := (List.nodup_append.mp (nodup_of_subperm parts (entry.nodup_ids nodup))).2.1
  rcases TaskTree.branch_apart_sink turnNodup (failed (tree.turn previous).id) with
    ⟨apart, branch⟩
  exact ⟨apart, fun task member => parts.subset (List.mem_append_right _ (branch member))⟩

/-- The sink of the last member is pushed exactly when that member is called itself,
and not as the root. -/
theorem Entry.pushed_iff (entry : Entry failed root tree previous before after)
    (rooted : Rooted heap root) (nodup : root.ids.Nodup) {sink : TaskTree}
    (sinks : sink ∈ (tree.turn previous).sink.tree?) :
    tree.pushed previous ≠ [] ↔ PushesSink heap root.id (tree.turn previous).id := by
  rcases entry.way rooted with ⟨rfl, rfl, _⟩ | ⟨follows, _, parent, stored, _, onlyRoot⟩
  · simp [TaskTree.pushed, PushesSink, TaskTree.turn]
  · have outside := entry.root_id_not_mem rooted nodup follows
    rcases Option.ne_none_iff_exists'.mp follows with ⟨context, rfl⟩
    by_cases alone : tree.group.dropLast = []
    · have same := TaskTree.last_eq_self alone
      simp only [TaskTree.turn, same] at sinks ⊢
      refine iff_of_true ?_ ⟨fun other => outside (other ▸ tree.id_mem_ids), ?_⟩
      · simp [TaskTree.pushed, Option.mem_def.mp sinks]
      · intro first parallel
        obtain rfl := parallel.eq_parent stored
        exact onlyRoot parallel
    · refine iff_of_false (fun pushed => ?_) ?_
      · rcases (entry.rooted rooted).proper.pushed_cases (some context) with none | ⟨_, same, _⟩
        · exact pushed none
        · exact TaskTree.last_id_ne (entry.nodup_ids nodup) alone (congrArg TaskTree.id same)
      · rintro ⟨_, onlyRoot⟩
        rcases stored.exists_parallelTo_last (entry.nodup_ids nodup) alone with
          ⟨first, member, parallel⟩
        have inside := tree.members_subset (some context) member
        exact outside (onlyRoot first parallel ▸ inside)

end Turns

theorem RunState.mem_dispatched_iff (final : RunState) (task : TaskId) :
    task ∈ final.dispatched ↔ ∃ id, final.DispatchedAt id task := by
  constructor
  · intro member
    rcases List.mem_flatten.mp member with ⟨group, inside, member⟩
    rcases List.mem_map.mp inside with ⟨context, among, rfl⟩
    rcases List.getElem?_of_mem among with ⟨id, found⟩
    exact ⟨id, context, found, member⟩
  · rintro ⟨id, context, found, member⟩
    exact List.mem_flatten_of_mem
      (List.mem_map_of_mem (List.mem_of_getElem? found)) member

section Follow

variable {pipeline : AcceptedPipeline} {env : Environment} {final : RunState} {root : TaskTree}
  (follows : FollowsTrace pipeline env final root)
include follows

theorem FollowsTrace.sink_after_branch {tree sink : TaskTree} {previous : Option ContextId}
    {before after : List (List TaskId)}
    (entry : Entry (final.failed env pipeline.heap) root tree previous before after)
    (sinks : sink ∈ (tree.turn previous).sink.tree?)
    (pushed : tree.pushed previous ≠ []) :
    (∃ id, final.DispatchedAt id sink.id) ∧
      ∀ task ∈ ((tree.turn previous).branch
        (final.failed env pipeline.heap (tree.turn previous).id)).ids,
        ∀ earlier later, final.DispatchedAt earlier task →
          final.DispatchedAt later sink.id → earlier < later := by
  have pushedSink : tree.pushed previous = [sink] := by
    rcases (entry.rooted follows.rooted).proper.pushed_cases previous with none | ⟨_, _, same⟩
    · exact absurd none pushed
    · rw [same, Option.mem_def.mp sinks]
      rfl
  have kids : tree.onward (final.failed env pipeline.heap) previous =
      ((tree.turn previous).branch
        (final.failed env pipeline.heap (tree.turn previous).id)).tree?.toList ++ sink :: [] := by
    rw [TaskTree.onward, pushedSink]
  have sinkEntry := Entry.onward 0 entry kids
  refine ⟨⟨_, follows.entry_dispatchedAt sinkEntry (sink.id_mem_members _)⟩, ?_⟩
  intro task inside earlier later dispatched sunk
  rw [follows.dispatchedAt_iff] at dispatched sunk
  have position := sinkEntry.position follows.nodup (sink.id_mem_members _) sunk
  rw [sinkEntry.split] at dispatched
  rw [position]
  apply lt_length_of_not_mem dispatched
  rcases entry.turn_apart follows.nodup with ⟨apart, branchInside⟩
  simp only [List.flatten_append, List.flatMap_nil, List.nil_append,
    List.mem_append, not_or]
  refine ⟨fun sunk => ?_, entry.not_mem_after follows.nodup (branchInside inside)⟩
  have sinkInside : task ∈ (tree.turn previous).sink.ids := by
    rw [← Slot.forestIds_tree?, Option.mem_def.mp sinks]
    simpa [forestIds] using (sink.entered_subperm _).subset sunk
  exact (List.nodup_append.mp (List.nodup_cons.mp apart).2).2.2 task inside task sinkInside rfl

theorem FollowsTrace.nodup_dispatched : final.dispatched.Nodup := by
  have whole := nodup_of_subperm
    (@TaskTree.entered_subperm (final.failed env pipeline.heap) root none) follows.nodup
  exact (List.Perm.flatten_congr follows.groups).nodup_iff.mpr whole

theorem FollowsTrace.runsSink_iff_pushesSink {id : ContextId} {context : EventExecutionContext}
    {task sink : TaskId} {record : PipelineTask}
    (found : final.contexts.get? id = some context) (member : task ∈ context.taskProfiles)
    (recorded : pipeline.heap.get? task = some record)
    (conditional : record.isConditional = true) (sinks : record.sinkNode = some sink) :
    RunsSink env pipeline.heap final context record sink ↔
      PushesSink pipeline.heap pipeline.root task := by
  have evaluated := follows.executionFailed_eq found member
  rcases follows.exists_entry ⟨context, found, member⟩ with
    ⟨tree, previous, before, after, entry, among, _⟩
  have rooted := entry.rooted follows.rooted
  obtain rfl := rooted.eq_turn_of_sinkNode among recorded sinks
  rcases rooted.stored with ⟨parent, stored⟩
  rcases stored.turn previous with ⟨above, turnStored⟩
  have apart := (entry.turn_apart follows.nodup).1
  rw [turnStored.record_eq, Option.some_inj] at recorded
  subst recorded
  rw [TaskTree.record_sinkNode] at sinks
  rcases Slot.eq_child_of_id? sinks with ⟨pipe, sinkTree, sinkSlot, rfl⟩
  have sinkMember : sinkTree ∈ (tree.turn previous).sink.tree? := by
    rw [sinkSlot]
    rfl
  rw [← follows.id, ← entry.pushed_iff follows.rooted follows.nodup sinkMember]
  constructor
  · rintro ⟨once, _⟩ nothing
    have dispatched : sinkTree.id ∈ final.dispatched :=
      List.count_pos_iff.mp (once ▸ Nat.one_pos)
    rcases (final.mem_dispatched_iff _).mp dispatched with ⟨index, dispatchedAt⟩
    have inside : sinkTree.id ∈ (tree.turn previous).sink.ids := by
      rw [sinkSlot]
      exact sinkTree.id_mem_ids
    rcases List.nodup_cons.mp apart with ⟨notRoot, disjoint⟩
    refine follows.not_dispatchedAt entry ?_ ?_ ?_ (fun _ => nothing) index dispatchedAt
    · exact (tree.turn previous).sink_ids_subset inside
    · exact fun same => notRoot (List.mem_append_right _ (same ▸ inside))
    · exact fun member => (List.nodup_append.mp disjoint).2.2 _ member _ inside rfl
  · intro pushed
    rcases follows.sink_after_branch entry sinkMember pushed with ⟨dispatched, ordered⟩
    refine ⟨?_, _, evaluated, fun head taken => ?_⟩
    · apply List.count_eq_one_of_mem follows.nodup_dispatched
      exact (final.mem_dispatched_iff _).mpr dispatched
    · rw [TaskTree.record_isConditional] at conditional
      rw [TaskTree.record_onFailureEvent, TaskTree.record_onSuccessEvent] at taken
      have branch : ((tree.turn previous).branch
          (final.failed env pipeline.heap (tree.turn previous).id)).id? = some head := by
        rw [← taken, TaskTree.branch, conditional, Bool.true_and]
        split <;> rfl
      rcases Slot.eq_child_of_id? branch with ⟨_, kid, slot, rfl⟩
      have kidMember : kid ∈ ((tree.turn previous).branch
          (final.failed env pipeline.heap (tree.turn previous).id)).tree? := by
        rw [slot]
        rfl
      rw [slot] at ordered apart
      have kidNodup : kid.ids.Nodup :=
        (List.nodup_append.mp (List.nodup_cons.mp apart).2).1
      exact ⟨⟨_, follows.branch_dispatchedAt entry kidMember⟩, kid.ids,
        (turnStored.kid (TaskTree.branch_mem_kids kidMember)).bfTraversal_eq kidNodup, ordered⟩

end Follow

/-- In a quiet run the sink of a dispatched conditional task is dispatched once, behind
the branch that was taken, exactly when the task is not the root and is not the end of
a `||` group that starts behind the root. -/
theorem runsSink_iff {pipeline : AcceptedPipeline} {env : Environment} {final : RunState}
    {signals : List Signal} (runs : Runs pipeline env final signals) (quiet : Quiet env final)
    {id : ContextId} {context : EventExecutionContext} {task sink : TaskId}
    {record : PipelineTask} (found : final.contexts.get? id = some context)
    (member : task ∈ context.taskProfiles)
    (recorded : pipeline.heap.get? task = some record)
    (conditional : record.isConditional = true) (sinks : record.sinkNode = some sink) :
    RunsSink env pipeline.heap final context record sink ↔
      PushesSink pipeline.heap pipeline.root task := by
  rcases runs.followsTrace quiet with ⟨root, follows⟩
  exact follows.runsSink_iff_pushesSink found member recorded conditional sinks

/-- `A` fails, and `D` is dispatched behind `B`. -/
theorem runsSink_failingConditional :
    ∃ signals context record,
      Runs branchPipeline failingConditional (branchPipeline.final failingConditional) signals ∧
      Quiet failingConditional (branchPipeline.final failingConditional) ∧
      (branchPipeline.final failingConditional).contexts.get? 1 = some context ∧
      3 ∈ context.taskProfiles ∧ branchHeap.get? 3 = some record ∧
      record.isConditional = true ∧ record.sinkNode = some 4 ∧
      RunsSink failingConditional branchHeap (branchPipeline.final failingConditional) context
        record 4 := by
  rcases @AcceptedPipeline.runs_of_start branchPipeline failingConditional _ rfl with
    ⟨signals, runs⟩
  have quiet : Quiet failingConditional (branchPipeline.final failingConditional) :=
    quiet_of_all (fun _ => Outcome.asksToSwitch_ofTask _ _) rfl
  refine ⟨signals, _, _, runs, quiet, rfl, by decide, rfl, rfl, rfl, ?_⟩
  refine (@runsSink_iff branchPipeline _ _ _ runs quiet 1 _ 3 4 _ rfl (by decide) rfl rfl
    rfl).mpr ?_
  refine ⟨by decide, ?_⟩
  rintro parent ⟨_, next, _, found, _, _, link⟩
  cases found
  cases link
  rfl

def rootSinkHeap : Heap := ⟨[
  { event := "B", descriptor := some 0, descriptorPipe := some .pointer, parentNode := some 2 },
  { event := "C", descriptor := some 1, descriptorPipe := some .pointer, parentNode := some 2 },
  { event := "A", sinkNode := some 3, sinkPipe := some .pointer, onSuccessEvent := some 1,
    onFailureEvent := some 0, onSuccessPipe := some .pointer,
    onFailurePipe := some .pointer },
  { event := "D", parentNode := some 2 }]⟩

def rootSinkPipeline : AcceptedPipeline :=
  ⟨.initial, "A(0->B,1->C)->D", 2, rootSinkHeap, rfl⟩

def allSucceed : Environment :=
  .ofOutcomes (Outcome.ofTask false)

/-- The root `A` succeeds and `C` is dispatched behind it, but `D` is not. -/
theorem not_runsSink_root :
    ∃ signals context record,
      Runs rootSinkPipeline allSucceed (rootSinkPipeline.final allSucceed) signals ∧
      Quiet allSucceed (rootSinkPipeline.final allSucceed) ∧
      (rootSinkPipeline.final allSucceed).contexts.get? 0 = some context ∧
      2 ∈ context.taskProfiles ∧ rootSinkHeap.get? 2 = some record ∧
      record.isConditional = true ∧ record.sinkNode = some 3 ∧
      ¬RunsSink allSucceed rootSinkHeap (rootSinkPipeline.final allSucceed) context record 3 := by
  rcases @AcceptedPipeline.runs_of_start rootSinkPipeline allSucceed _ rfl with
    ⟨signals, runs⟩
  refine ⟨signals, _, _, runs, quiet_of_all (fun _ => Outcome.asksToSwitch_ofTask _ _) rfl, rfl,
    by decide, rfl, rfl, rfl, ?_⟩
  rintro ⟨once, _⟩
  have nothing : (rootSinkPipeline.final allSucceed).dispatched.count 3 = 0 := rfl
  rw [nothing] at once
  cases once

end EventPipeline
