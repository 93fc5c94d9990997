import EventPipeline.Execution.QuietRun
import EventPipeline.Foundation.Chains

/-! # Calls within a trace

Where a quiet run enters the trees of its tasks: every dispatched task is in the
group of a tree that is entered at some point of the trace, and what is
dispatched before and after that point lies outside of this tree.
-/

namespace EventPipeline

/-- The run over `root` enters `tree`, behind the groups `before`; the groups `after`
are dispatched when all of `tree` is done. -/
inductive Entry (failed : TaskId → Bool) (root : TaskTree) :
    TaskTree → Option ContextId → List (List TaskId) → List (List TaskId) → Prop
  | root : Entry failed root root none [] []
  | onward {tree kid previous before after left right} (behind : ContextId) :
      Entry failed root tree previous before after →
      tree.onward failed previous = left ++ kid :: right →
      Entry failed root kid (some behind)
        (before ++ tree.members previous :: left.flatMap (TaskTree.trace failed))
        (right.flatMap (TaskTree.trace failed) ++ after)

/-- The second task is reached from the first one over `||`. -/
def ParallelTo (heap : Heap) (first second : TaskId) : Prop :=
  ∃ task next, heap.get? first = some task ∧ heap.get? second = some next ∧
    task.onSuccessEvent = some second ∧ task.onSuccessPipe = some .parallelism ∧
    next.parentNode = some first

theorem TaskTree.Stored.group_isChain {heap : Heap} {parent : Option TaskId} {tree : TaskTree}
    (stored : tree.Stored heap parent) : tree.group.IsChain (ParallelTo heap) := by
  induction tree using TaskTree.group_induction generalizing parent with
  | single tree _ group _ =>
      rw [group]
      exact List.isChain_singleton _
  | parallel id label failure sink next customs induction =>
      have below : next.Stored heap (some id) := stored.2.2.2.1
      refine List.isChain_cons.mpr ⟨fun second head => ?_, induction below⟩
      obtain rfl : next.id = second := by
        rcases next
        exact Option.some_inj.mp head
      exact ⟨_, _, stored.record_eq, below.record_eq, rfl, rfl, next.record_parentNode _⟩

theorem TaskTree.Stored.mem_group_cases {heap : Heap} {parent : Option TaskId}
    {tree : TaskTree} (stored : tree.Stored heap parent) {task : TaskId}
    (member : task ∈ tree.group) :
    task = tree.id ∨ ∃ before ∈ tree.group, ParallelTo heap before task := by
  have chain := stored.group_isChain
  rcases tree with ⟨id, label, failure, sink, success, customs⟩
  rcases List.mem_cons.mp member with rfl | later
  · exact .inl rfl
  · exact .inr (exists_rel_of_isChain chain later)

section Entries

variable {failed : TaskId → Bool} {heap : Heap} {root tree : TaskTree}
  {previous : Option ContextId} {before after : List (List TaskId)}

theorem Entry.split (entry : Entry failed root tree previous before after) :
    root.entered failed none = before ++ (tree.entered failed previous ++ after) := by
  induction entry with
  | root => simp
  | @onward tree kid previous before after left right behind _ kids induction =>
      rw [induction, tree.entered_eq, kids, ← kid.trace_eq_entered behind]
      simp

theorem trees_subperm (trees : List TaskTree) :
    (trees.flatMap (TaskTree.trace failed)).flatten.Subperm (forestIds trees) :=
  flatten_flatMap_subperm fun tree _ => tree.trace_subperm

theorem Entry.nodup (entry : Entry failed root tree previous before after)
    (nodup : root.ids.Nodup) : (before.flatten ++ (tree.ids ++ after.flatten)).Nodup := by
  induction entry with
  | root => simpa using nodup
  | @onward tree kid previous before after left right behind _ kids induction =>
      have account := @TaskTree.onward_account failed tree previous
      rw [kids] at account
      refine nodup_of_subperm ?_ induction
      have inner : (tree.members previous ++
          ((left.flatMap (TaskTree.trace failed)).flatten ++ (kid.ids ++
            (right.flatMap (TaskTree.trace failed)).flatten))).Subperm tree.ids := by
        refine List.Subperm.trans ?_ account
        rw [forestIds, List.flatMap_append, List.flatMap_cons]
        exact (List.Subperm.refl _).append ((trees_subperm left).append
          ((List.Subperm.refl _).append (trees_subperm right)))
      have whole := (List.Subperm.refl before.flatten).append
        (inner.append (List.Subperm.refl after.flatten))
      simpa using whole

theorem Entry.nodup_ids (entry : Entry failed root tree previous before after)
    (nodup : root.ids.Nodup) : tree.ids.Nodup :=
  (List.nodup_append.mp (List.nodup_append.mp (entry.nodup nodup)).2.1).1

theorem Entry.not_mem_before (entry : Entry failed root tree previous before after)
    (nodup : root.ids.Nodup) {task : TaskId} (inside : task ∈ tree.ids) :
    task ∉ before.flatten := fun earlier =>
  (List.nodup_append.mp (entry.nodup nodup)).2.2 task earlier task
    (List.mem_append_left _ inside) rfl

theorem Entry.not_mem_after (entry : Entry failed root tree previous before after)
    (nodup : root.ids.Nodup) {task : TaskId} (inside : task ∈ tree.ids) :
    task ∉ after.flatten := fun later =>
  (List.nodup_append.mp (List.nodup_append.mp (entry.nodup nodup)).2.1).2.2 task inside task
    later rfl

theorem Entry.mem_entered (entry : Entry failed root tree previous before after)
    (nodup : root.ids.Nodup) {task : TaskId} (inside : task ∈ tree.ids)
    (dispatched : task ∈ (root.entered failed none).flatten) :
    task ∈ (tree.entered failed previous).flatten := by
  rw [entry.split, List.flatten_append, List.flatten_append] at dispatched
  rcases List.mem_append.mp dispatched with earlier | dispatched
  · exact absurd earlier (entry.not_mem_before nodup inside)
  · rcases List.mem_append.mp dispatched with here | later
    · exact here
    · exact absurd later (entry.not_mem_after nodup inside)

theorem TaskTree.onward_cases {kid : TaskTree} (member : kid ∈ tree.onward failed previous) :
    kid ∈ (tree.turn previous).kids ∨ kid ∈ tree.pushed previous := by
  rcases List.mem_append.mp member with branch | pushed
  · exact .inl (TaskTree.branch_mem_kids (Option.mem_toList.mp branch))
  · exact .inr pushed

theorem Entry.rooted (entry : Entry failed root tree previous before after)
    (rooted : Rooted heap root) : Rooted heap tree := by
  induction entry with
  | root => exact rooted
  | @onward tree kid previous before after left right behind _ kids induction =>
      have member : kid ∈ tree.onward failed previous := by
        rw [kids]
        simp
      rcases TaskTree.onward_cases member with branch | pushed
      · exact induction.turn_kid previous branch
      · exact induction.pushed pushed

theorem Entry.exists_of_mem (entry : Entry failed root tree previous before after)
    {task : TaskId} (dispatched : task ∈ (tree.entered failed previous).flatten) :
    ∃ tree previous before after, Entry failed root tree previous before after ∧
      task ∈ tree.members previous := by
  induction tree using @TaskTree.onward_induction failed
    generalizing previous before after with
  | step tree induction =>
      rw [tree.entered_eq, List.flatten_cons] at dispatched
      rcases List.mem_append.mp dispatched with here | onward
      · exact ⟨tree, previous, before, after, entry, here⟩
      · rcases List.mem_flatten.mp onward with ⟨group, inside, member⟩
        rcases List.mem_flatMap.mp inside with ⟨kid, among, traced⟩
        rcases List.append_of_mem among with ⟨left, right, kids⟩
        apply induction previous kid among (.onward 0 entry kids)
        rw [← kid.trace_eq_entered 0]
        exact List.mem_flatten_of_mem traced member

/-- How the run comes to a tree: it starts there, or the parent of the tree has been
dispatched before. Only the root leads on over `||` to a context of its own. -/
theorem Entry.way (entry : Entry failed root tree previous before after)
    (rooted : Rooted heap root) :
    (tree = root ∧ previous = none ∧ before = []) ∨
      (previous ≠ none ∧ root.id ∈ before.flatten ∧ ∃ parent, tree.Stored heap (some parent) ∧
        parent ∈ before.flatten ∧ (ParallelTo heap parent tree.id → parent = root.id)) := by
  induction entry with
  | root => exact .inl ⟨rfl, rfl, rfl⟩
  | @onward tree kid previous before after left right behind entry kids induction =>
      have member : kid ∈ tree.onward failed previous := by
        rw [kids]
        simp
      have inside : ∀ task ∈ tree.members previous, task ∈
          (before ++ tree.members previous :: left.flatMap (TaskTree.trace failed)).flatten := by
        intro task here
        simp [here]
      have first : root.id ∈
          (before ++ tree.members previous :: left.flatMap (TaskTree.trace failed)).flatten := by
        rcases induction with ⟨rfl, rfl, _⟩ | ⟨_, earlier, _⟩
        · exact inside _ List.mem_cons_self
        · rw [List.flatten_append]
          exact List.mem_append_left _ earlier
      rcases (entry.rooted rooted).stored with ⟨above, stored⟩
      have proper := (entry.rooted rooted).proper
      refine .inr ⟨by simp, first, ?_⟩
      rcases TaskTree.onward_cases member with branch | pushed
      · rcases stored.turn previous with ⟨turnAbove, turnStored⟩
        refine ⟨(tree.turn previous).id, turnStored.kid branch,
          inside _ (tree.turn_id_mem_members previous), ?_⟩
        rintro ⟨task, _, found, _, _, pipe, _⟩
        rcases induction with ⟨rfl, rfl, _⟩ | ⟨follows, _⟩
        · rfl
        · rcases Option.ne_none_iff_exists'.mp follows with ⟨context, rfl⟩
          rw [turnStored.record_eq, Option.some_inj] at found
          rw [← found, TaskTree.record_onSuccessPipe] at pipe
          exact absurd pipe tree.last_success
      · cases previous with
        | none => cases pushed
        | some context =>
            rcases tree with ⟨id, label, failure, sink, success, customs⟩
            have sinks : kid ∈ sink.tree? := Option.mem_toList.mp pushed
            refine ⟨id, stored.2.2.1.tree sinks, inside _ List.mem_cons_self, ?_⟩
            rintro ⟨task, _, found, _, _, pipe, _⟩
            rw [stored.1, Option.some_inj] at found
            rw [← found, TaskTree.record_onSuccessPipe] at pipe
            refine absurd pipe (proper.1 ?_)
            cases sink with
            | vacant => cases sinks
            | child => rfl

theorem Entry.root_id_not_mem (entry : Entry failed root tree previous before after)
    (rooted : Rooted heap root) (nodup : root.ids.Nodup) (follows : previous ≠ none) :
    root.id ∉ tree.ids := by
  rcases entry.way rooted with ⟨_, starts, _⟩ | ⟨_, earlier, _⟩
  · exact absurd starts follows
  · exact fun inside => entry.not_mem_before nodup inside earlier

end Entries

/-! ## The contexts of the groups -/

/-- The task is dispatched in the context. -/
def RunState.DispatchedAt (state : RunState) (id : ContextId) (task : TaskId) : Prop :=
  ∃ context, state.contexts.get? id = some context ∧ task ∈ context.taskProfiles

theorem exists_getElem?_of_forall₂ {groups expected : List (List TaskId)}
    (same : List.Forall₂ List.Perm groups expected) (id : Nat) (task : TaskId) :
    (∃ group, groups[id]? = some group ∧ task ∈ group) ↔
      ∃ group, expected[id]? = some group ∧ task ∈ group := by
  induction same generalizing id with
  | nil => rfl
  | cons perm _ induction =>
      cases id with
      | zero => simp [perm.mem_iff]
      | succ id => simpa using induction id

theorem RunState.dispatchedAt_iff {state : RunState} {expected : List (List TaskId)}
    (groups : List.Forall₂ List.Perm state.groups expected) (id : ContextId) (task : TaskId) :
    state.DispatchedAt id task ↔ ∃ group, expected[id]? = some group ∧ task ∈ group := by
  rw [← exists_getElem?_of_forall₂ groups]
  have entry : state.groups[id]? =
      (state.contexts.get? id).map EventExecutionContext.taskProfiles := by
    simp [RunState.groups, Arena.get?]
  rw [entry]
  constructor
  · rintro ⟨context, found, member⟩
    exact ⟨_, by rw [found]; rfl, member⟩
  · rintro ⟨group, found, member⟩
    rcases Option.map_eq_some_iff.mp found with ⟨context, stored, rfl⟩
    exact ⟨context, stored, member⟩

section Positions

variable {left right : List (List TaskId)} {id : Nat} {task : TaskId}

theorem lt_length_of_not_mem (found : ∃ group, (left ++ right)[id]? = some group ∧ task ∈ group)
    (absent : task ∉ right.flatten) : id < left.length := by
  rcases found with ⟨group, found, member⟩
  by_contra beyond
  rw [List.getElem?_append_right (Nat.le_of_not_lt beyond)] at found
  exact absent (List.mem_flatten_of_mem (List.mem_of_getElem? found) member)

theorem length_le_of_not_mem (found : ∃ group, (left ++ right)[id]? = some group ∧ task ∈ group)
    (absent : task ∉ left.flatten) : left.length ≤ id := by
  rcases found with ⟨group, found, member⟩
  by_contra within
  rw [List.getElem?_append_left (Nat.lt_of_not_le within)] at found
  exact absent (List.mem_flatten_of_mem (List.mem_of_getElem? found) member)

end Positions

section Pipelines

variable {failed : TaskId → Bool} {heap : Heap} {root tree : TaskTree}
  {previous : Option ContextId} {before after : List (List TaskId)}

theorem TaskTree.members_subset (tree : TaskTree) (previous : Option ContextId) :
    tree.members previous ⊆ tree.ids := by
  intro task member
  refine (@TaskTree.entered_subperm (fun _ => false) tree previous).subset ?_
  rw [tree.entered_eq, List.flatten_cons]
  exact List.mem_append_left _ member

theorem TaskTree.nodup_entered {tree : TaskTree} (nodup : tree.ids.Nodup) :
    (tree.entered failed previous).flatten.Nodup :=
  nodup_of_subperm (tree.entered_subperm previous) nodup

/-- The members of a tree are dispatched in the context behind those of the groups
before it. -/
theorem Entry.position (entry : Entry failed root tree previous before after)
    (nodup : root.ids.Nodup) {task : TaskId} (member : task ∈ tree.members previous) {id : Nat}
    (found : ∃ group, (root.entered failed none)[id]? = some group ∧ task ∈ group) :
    id = before.length := by
  have inside := tree.members_subset previous member
  have once := @TaskTree.nodup_entered failed previous tree (entry.nodup_ids nodup)
  rw [tree.entered_eq, List.flatten_cons] at once
  rw [entry.split, tree.entered_eq] at found
  have notEarlier := length_le_of_not_mem found (entry.not_mem_before nodup inside)
  rw [List.cons_append, ← List.singleton_append, ← List.append_assoc] at found
  have notLater := lt_length_of_not_mem found ?_
  · simp only [List.length_append, List.length_singleton] at notLater
    omega
  · rw [List.flatten_append, List.mem_append]
    rintro (onward | later)
    · exact (List.nodup_append.mp once).2.2 task member task onward rfl
    · exact entry.not_mem_after nodup inside later

structure FollowsTrace (pipeline : AcceptedPipeline) (env : Environment) (final : RunState)
    (root : TaskTree) : Prop where
  id : root.id = pipeline.root
  stored : root.Stored pipeline.heap none
  nodup : root.ids.Nodup
  proper : root.Proper
  groups : List.Forall₂ List.Perm final.groups
    (root.entered (final.failed env pipeline.heap) none)
  settled : Settled env (final.failed env pipeline.heap) (final.reports env pipeline.heap)

theorem Runs.followsTrace {pipeline : AcceptedPipeline} {env : Environment} {final : RunState}
    {signals : List Signal} (runs : Runs pipeline env final signals)
    (quiet : Quiet env final) : ∃ root, FollowsTrace pipeline env final root := by
  rcases pipeline.runs env with ⟨root, other, same, stored, nodup, proper, others, ended⟩
  have agree := (runs false none rfl).symm.trans (others false none rfl)
  simp only [Prod.mk.injEq, Except.ok.injEq] at agree
  obtain rfl := agree.1
  have rooted : Rooted pipeline.heap root := ⟨⟨none, stored⟩, proper⟩
  exact ⟨root, same, stored, nodup, proper, quiet.groups rooted nodup ended,
    quiet.settled rooted nodup ended⟩

section Follow

variable {pipeline : AcceptedPipeline} {env : Environment} {final : RunState}
  (follows : FollowsTrace pipeline env final root)
include follows

theorem FollowsTrace.rooted : Rooted pipeline.heap root :=
  ⟨⟨none, follows.stored⟩, follows.proper⟩

theorem FollowsTrace.dispatchedAt_iff (id : ContextId) (task : TaskId) :
    final.DispatchedAt id task ↔ ∃ group,
      (root.entered (final.failed env pipeline.heap) none)[id]? = some group ∧ task ∈ group :=
  RunState.dispatchedAt_iff follows.groups id task

theorem FollowsTrace.mem_trace {id : ContextId} {task : TaskId}
    (dispatched : final.DispatchedAt id task) :
    task ∈ (root.entered (final.failed env pipeline.heap) none).flatten := by
  rcases (follows.dispatchedAt_iff id task).mp dispatched with ⟨group, found, member⟩
  exact List.mem_flatten_of_mem (List.mem_of_getElem? found) member

theorem FollowsTrace.exists_dispatchedAt {groups : List (List TaskId)} {task : TaskId}
    (part : groups <+: root.entered (final.failed env pipeline.heap) none)
    (member : task ∈ groups.flatten) :
    ∃ id, id < groups.length ∧ final.DispatchedAt id task := by
  rcases List.mem_flatten.mp member with ⟨group, inside, member⟩
  rcases List.getElem?_of_mem inside with ⟨id, found⟩
  have bound := (List.getElem?_eq_some_iff.mp found).choose
  refine ⟨id, bound, (follows.dispatchedAt_iff id task).mpr ⟨group, ?_, member⟩⟩
  rcases part with ⟨rest, whole⟩
  rw [← whole, List.getElem?_append_left bound]
  exact found

theorem FollowsTrace.exists_entry {id : ContextId} {task : TaskId}
    (dispatched : final.DispatchedAt id task) :
    ∃ tree previous before after,
      Entry (final.failed env pipeline.heap) root tree previous before after ∧
        task ∈ tree.members previous ∧ id = before.length := by
  rcases Entry.root.exists_of_mem (follows.mem_trace dispatched) with
    ⟨tree, previous, before, after, entry, member⟩
  exact ⟨tree, previous, before, after, entry, member,
    entry.position follows.nodup member ((follows.dispatchedAt_iff id task).mp dispatched)⟩

end Follow

end Pipelines

end EventPipeline
