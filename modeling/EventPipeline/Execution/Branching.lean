import EventPipeline.Execution.Entry

/-! # Branches

In a quiet run every task is dispatched behind its parent, and of the two branches
of a conditional task exactly the one that its context selects is taken.
-/

namespace EventPipeline

/-- The branch at `taken` is entered and no task of the branch at `other` is
dispatched. -/
def TakesBranch (heap : Heap) (final : RunState) (taken other : TaskId) : Prop :=
  (∃ id, final.DispatchedAt id taken) ∧
    ∃ tasks, heap.bfTraversal other = some tasks ∧
      ∀ task ∈ tasks, ∀ id, ¬final.DispatchedAt id task

section Turns

variable {heap : Heap} {tree : TaskTree} {previous : Option ContextId}

theorem Rooted.eq_turn_of_onSuccessPipe (rooted : Rooted heap tree) {task : TaskId}
    {record : PipelineTask} (member : task ∈ tree.members previous)
    (found : heap.get? task = some record) (pipe : record.onSuccessPipe ≠ some .parallelism) :
    task = (tree.turn previous).id := by
  rcases TaskTree.mem_dropLast_or_eq_turn member with earlier | last
  · rcases rooted.stored with ⟨parent, stored⟩
    have parallel := stored.onSuccessPipe_of_mem earlier
    rw [found, Option.bind_some] at parallel
    exact absurd parallel pipe
  · exact last

theorem Slot.eq_child_of_id? {slot : Slot} {id : TaskId} (occupied : slot.id? = some id) :
    ∃ pipe tree, slot = .child pipe tree ∧ tree.id = id := by
  cases slot with
  | vacant => cases occupied
  | child pipe tree => exact ⟨pipe, tree, rfl, Option.some_inj.mp occupied⟩

theorem TaskTree.id_mem_members (tree : TaskTree) (previous : Option ContextId) :
    tree.id ∈ tree.members previous := by
  cases previous with
  | none => exact List.mem_singleton_self _
  | some previous =>
      cases tree
      exact List.mem_cons_self

theorem TaskTree.branch_eq {tree failure success : TaskTree} {first second : PipeType}
    (onFailure : tree.failure = .child first failure)
    (onSuccess : tree.success = .child second success) (failed : Bool) :
    tree.branch failed = if failed then tree.failure else tree.success := by
  rcases tree with ⟨id, label, failureSlot, sink, successSlot, customs⟩
  obtain rfl : failureSlot = .child first failure := onFailure
  obtain rfl : successSlot = .child second success := onSuccess
  simp [TaskTree.branch, TaskTree.isConditional, Slot.isVacant]

theorem TaskTree.nodup_parts {tree : TaskTree} (nodup : tree.ids.Nodup) :
    (tree.id :: (tree.failure.ids ++ (tree.sink.ids ++ tree.success.ids))).Nodup := by
  rcases tree with ⟨id, label, failure, sink, success, customs⟩
  refine nodup.sublist (List.Sublist.cons_cons id ?_)
  refine (List.Sublist.refl _).append ((List.Sublist.refl _).append ?_)
  exact List.sublist_append_left _ _

/-- A task below the last member is dispatched only in the branch that is taken, or in
the sink when that is pushed. -/
theorem Entry.not_mem_trace {failed : TaskId → Bool} {root : TaskTree}
    {before after : List (List TaskId)}
    (entry : Entry failed root tree previous before after) (rooted : Rooted heap root)
    (nodup : root.ids.Nodup) {task : TaskId} (inside : task ∈ (tree.turn previous).ids)
    (other : task ≠ (tree.turn previous).id)
    (branch : task ∉ ((tree.turn previous).branch (failed (tree.turn previous).id)).ids)
    (sink : task ∈ (tree.turn previous).sink.ids → tree.pushed previous = []) :
    task ∉ (root.entered failed none).flatten := by
  intro dispatched
  have parts := tree.members_append_turn previous
  have apart := nodup_of_subperm parts (entry.nodup_ids nodup)
  have within := parts.subset (List.mem_append_right _ inside)
  rcases (entry.rooted rooted).proper.mem_entered_cases
    (entry.mem_entered nodup within dispatched) with earlier | last | taken | ⟨sunk, pushed⟩
  · exact (List.nodup_append.mp apart).2.2 task earlier task inside rfl
  · exact other last
  · exact branch taken
  · exact pushed (sink sunk)

end Turns

section Follow

variable {pipeline : AcceptedPipeline} {env : Environment} {final : RunState} {root : TaskTree}
  (follows : FollowsTrace pipeline env final root)
include follows

/-- The parent of a dispatched task has been dispatched in an earlier context or is
dispatched in the same one. -/
theorem FollowsTrace.parent_dispatchedAt {id : ContextId} {task : TaskId}
    (dispatched : final.DispatchedAt id task) (other : task ≠ pipeline.root) :
    ∃ record parent earlier, pipeline.heap.get? task = some record ∧
      record.parentNode = some parent ∧ final.DispatchedAt earlier parent ∧ earlier ≤ id := by
  rcases follows.exists_entry dispatched with
    ⟨tree, previous, before, after, entry, member, position⟩
  rcases entry.way follows.rooted with ⟨rfl, rfl, _⟩ | ⟨behind, _, parent, stored, earlier, _⟩
  · rw [TaskTree.members, List.mem_singleton, follows.id] at member
    exact absurd member other
  · rcases Option.ne_none_iff_exists'.mp behind with ⟨context, rfl⟩
    have whole := entry.split
    rcases stored.mem_group_cases member with rfl | ⟨first, inside, _, next, _, found, _, _, link⟩
    · rcases follows.exists_dispatchedAt ⟨_, whole.symm⟩ earlier with ⟨index, bound, at_⟩
      exact ⟨_, parent, index, stored.record_eq, tree.record_parentNode _, at_,
        position ▸ Nat.le_of_lt bound⟩
    · refine ⟨next, first, id, found, link, ?_, Nat.le_refl _⟩
      rw [follows.dispatchedAt_iff, whole, position]
      exact ⟨tree.group, by simp [TaskTree.entered_eq, TaskTree.members], inside⟩

theorem FollowsTrace.executionFailed_eq {id : ContextId} {context : EventExecutionContext}
    {task : TaskId} (found : final.contexts.get? id = some context)
    (member : task ∈ context.taskProfiles) :
    context.executionFailed pipeline.heap env.policies =
      .ok (final.failed env pipeline.heap task) := by
  have reported : (final.reports env pipeline.heap)[id]? =
      some (context.report env pipeline.heap) := by
    rw [RunState.reports_getElem?, found]
    rfl
  exact (follows.settled id _ reported).evaluated task member

theorem FollowsTrace.entry_dispatchedAt {tree : TaskTree} {previous : Option ContextId}
    {before after : List (List TaskId)} {task : TaskId}
    (entry : Entry (final.failed env pipeline.heap) root tree previous before after)
    (member : task ∈ tree.members previous) : final.DispatchedAt before.length task := by
  rw [follows.dispatchedAt_iff, entry.split]
  exact ⟨tree.members previous, by simp [TaskTree.entered_eq], member⟩

theorem FollowsTrace.branch_dispatchedAt {tree kid : TaskTree} {previous : Option ContextId}
    {before after : List (List TaskId)}
    (entry : Entry (final.failed env pipeline.heap) root tree previous before after)
    (taken : kid ∈ ((tree.turn previous).branch
      (final.failed env pipeline.heap (tree.turn previous).id)).tree?) :
    final.DispatchedAt (before.length + 1) kid.id := by
  have kids : tree.onward (final.failed env pipeline.heap) previous =
      [] ++ kid :: tree.pushed previous := by
    simp only [TaskTree.onward, Option.mem_def.mp taken, Option.toList_some, List.nil_append,
      List.singleton_append]
  have entered := follows.entry_dispatchedAt (.onward 0 entry kids) (kid.id_mem_members _)
  simpa using entered

/-- No task below the last member outside of the branch that is taken and of its sink is
dispatched. -/
theorem FollowsTrace.not_dispatchedAt {tree : TaskTree} {previous : Option ContextId}
    {before after : List (List TaskId)} {task : TaskId}
    (entry : Entry (final.failed env pipeline.heap) root tree previous before after)
    (inside : task ∈ (tree.turn previous).ids) (other : task ≠ (tree.turn previous).id)
    (branch : task ∉ ((tree.turn previous).branch
      (final.failed env pipeline.heap (tree.turn previous).id)).ids)
    (sink : task ∈ (tree.turn previous).sink.ids → tree.pushed previous = [])
    (id : ContextId) : ¬final.DispatchedAt id task := fun dispatched =>
  entry.not_mem_trace follows.rooted follows.nodup inside other branch sink
    (follows.mem_trace dispatched)

/-- One child of the last member is taken, and another one that is not its sink is not. -/
theorem FollowsTrace.takesBranch_of_entry {tree taken other : TaskTree}
    {previous : Option ContextId} {before after : List (List TaskId)} {pipe : PipeType}
    (entry : Entry (final.failed env pipeline.heap) root tree previous before after)
    (branch : (tree.turn previous).branch
      (final.failed env pipeline.heap (tree.turn previous).id) = .child pipe taken)
    (kid : other ∈ (tree.turn previous).kids)
    (apart : (((tree.turn previous).id :: taken.ids) ++
      ((tree.turn previous).sink.ids ++ other.ids)).Nodup) :
    TakesBranch pipeline.heap final taken.id other.id := by
  rcases (entry.rooted follows.rooted).stored with ⟨parent, stored⟩
  rcases stored.turn previous with ⟨above, turnStored⟩
  rcases List.nodup_append.mp apart with ⟨_, rest, disjoint⟩
  rcases List.nodup_append.mp rest with ⟨_, nodup, sinkDisjoint⟩
  refine ⟨⟨_, follows.branch_dispatchedAt entry ?_⟩, other.ids,
    (turnStored.kid kid).bfTraversal_eq nodup, fun task inside => ?_⟩
  · rw [branch]
    rfl
  · have outside : ∀ earlier ∈ (tree.turn previous).id :: taken.ids, earlier ≠ task :=
      fun earlier member => disjoint earlier member task (List.mem_append_right _ inside)
    refine follows.not_dispatchedAt entry ?_ ?_ ?_ ?_
    · exact (TaskTree.body_subperm _).subset
        ((TaskTree.sublist_body_of_kid kid).subset (List.mem_cons_of_mem _ inside))
    · exact fun same => outside _ List.mem_cons_self same.symm
    · rw [branch]
      exact fun member => outside task (List.mem_cons_of_mem _ member) rfl
    · exact fun sunk => absurd rfl (sinkDisjoint task sunk task inside)

theorem FollowsTrace.takesBranch {id : ContextId} {task failure success : TaskId}
    {record : PipelineTask} (dispatched : final.DispatchedAt id task)
    (found : pipeline.heap.get? task = some record)
    (onFailure : record.onFailureEvent = some failure)
    (onSuccess : record.onSuccessEvent = some success)
    (pipe : record.onSuccessPipe ≠ some .parallelism) :
    TakesBranch pipeline.heap final
      (if final.failed env pipeline.heap task then failure else success)
      (if final.failed env pipeline.heap task then success else failure) := by
  rcases follows.exists_entry dispatched with ⟨tree, previous, before, after, entry, member, _⟩
  have rooted := entry.rooted follows.rooted
  obtain rfl := rooted.eq_turn_of_onSuccessPipe member found pipe
  rcases rooted.stored with ⟨parent, stored⟩
  rcases stored.turn previous with ⟨above, turnStored⟩
  have turnNodup := (List.nodup_append.mp (nodup_of_subperm (tree.members_append_turn previous)
    (entry.nodup_ids follows.nodup))).2.1
  have apart := TaskTree.nodup_parts turnNodup
  rw [turnStored.record_eq, Option.some_inj] at found
  subst found
  rw [TaskTree.record_onFailureEvent] at onFailure
  rw [TaskTree.record_onSuccessEvent] at onSuccess
  rcases Slot.eq_child_of_id? onFailure with ⟨first, failureTree, failureSlot, rfl⟩
  rcases Slot.eq_child_of_id? onSuccess with ⟨second, successTree, successSlot, rfl⟩
  have branch := TaskTree.branch_eq failureSlot successSlot
    (final.failed env pipeline.heap (tree.turn previous).id)
  rw [failureSlot, successSlot] at apart branch
  have failureKid : failureTree ∈ (tree.turn previous).kids := by
    simp [TaskTree.kids, failureSlot, Slot.tree?]
  have successKid : successTree ∈ (tree.turn previous).kids := by
    simp [TaskTree.kids, successSlot, Slot.tree?]
  cases decision : final.failed env pipeline.heap (tree.turn previous).id with
  | true =>
      rw [if_pos decision] at branch
      exact follows.takesBranch_of_entry entry branch successKid apart
  | false =>
      rw [if_neg (by simp [decision])] at branch
      apply follows.takesBranch_of_entry entry branch failureKid
      refine (List.Perm.nodup_iff ?_).mp apart
      rw [List.cons_append]
      refine List.Perm.cons _ (List.perm_append_comm.trans ?_)
      rw [← List.append_assoc]
      exact List.perm_append_comm.append_right _

end Follow

/-- In a quiet run every task other than the root is dispatched behind its parent or
beside it, and a dispatched conditional task with both branches leads to the branch
that `execution_failed` of its context selects, and to no task of the other one. A
branch is never reached over `||`. -/
theorem branch_selection {pipeline : AcceptedPipeline} {env : Environment} {final : RunState}
    {signals : List Signal} (runs : Runs pipeline env final signals)
    (quiet : Quiet env final) :
    (∀ id task, final.DispatchedAt id task → task ≠ pipeline.root →
      ∃ record parent earlier, pipeline.heap.get? task = some record ∧
        record.parentNode = some parent ∧ final.DispatchedAt earlier parent ∧
        earlier ≤ id) ∧
    ∀ id context task record failure success, final.contexts.get? id = some context →
      task ∈ context.taskProfiles → pipeline.heap.get? task = some record →
      record.onFailureEvent = some failure → record.onSuccessEvent = some success →
      record.onSuccessPipe ≠ some .parallelism →
      ∃ failed, context.executionFailed pipeline.heap env.policies = .ok failed ∧
        TakesBranch pipeline.heap final (if failed then failure else success)
          (if failed then success else failure) := by
  rcases runs.followsTrace quiet with ⟨root, follows⟩
  refine ⟨fun id task dispatched other => follows.parent_dispatchedAt dispatched other, ?_⟩
  intro id context task record failure success found member recorded onFailure onSuccess pipe
  exact ⟨_, follows.executionFailed_eq found member,
    follows.takesBranch ⟨context, found, member⟩ recorded onFailure onSuccess pipe⟩

/-- The tasks of `S->A(0->B,1->C)->D`. -/
def branchHeap : Heap := ⟨[
  { event := "S", onSuccessEvent := some 3, onSuccessPipe := some .pointer },
  { event := "B", descriptor := some 0, descriptorPipe := some .pointer, parentNode := some 3 },
  { event := "C", descriptor := some 1, descriptorPipe := some .pointer, parentNode := some 3 },
  { event := "A", parentNode := some 0, sinkNode := some 4, sinkPipe := some .pointer,
    onSuccessEvent := some 2, onFailureEvent := some 1, onSuccessPipe := some .pointer,
    onFailurePipe := some .pointer },
  { event := "D", parentNode := some 3 }]⟩

def branchPipeline : AcceptedPipeline :=
  ⟨.initial, "S->A(0->B,1->C)->D", 0, branchHeap, rfl⟩

/-- `A` fails, all other events succeed. -/
def failingConditional : Environment :=
  .ofOutcomes fun task => Outcome.ofTask (task = 3) task

theorem branch_selection_failingConditional :
    ∃ signals,
      Runs branchPipeline failingConditional (branchPipeline.final failingConditional) signals ∧
      Quiet failingConditional (branchPipeline.final failingConditional) ∧
      TakesBranch branchHeap (branchPipeline.final failingConditional) 1 2 := by
  rcases @AcceptedPipeline.runs_of_start branchPipeline failingConditional _ rfl with
    ⟨signals, runs⟩
  have quiet : Quiet failingConditional (branchPipeline.final failingConditional) :=
    quiet_of_all (fun _ => Outcome.asksToSwitch_ofTask _ _) rfl
  rcases (branch_selection runs quiet).2 1 _ 3 _ 1 2 rfl (by decide) rfl rfl rfl (by decide)
    with ⟨failed, evaluated, taken⟩
  cases evaluated
  exact ⟨signals, runs, quiet, taken⟩

end EventPipeline
