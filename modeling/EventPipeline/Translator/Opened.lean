import EventPipeline.Translator.Walk

/-! # What a walk covers

The groups that a walk opens are whole groups. The tasks outside of them that it comes
to belong to no group.
-/

namespace EventPipeline

section Order

variable {tree sub : TaskTree} {before after : List TaskTree}

theorem TaskTree.parent_before (nodup : tree.ids.Nodup)
    (split : tree.subtrees = before ++ sub :: after) {parent : TaskTree}
    (inside : parent ∈ tree.subtrees) (child : sub ∈ parent.children) : parent ∈ before := by
  have distinct := nodup
  rw [← tree.map_id_subtrees, split, List.map_append, List.map_cons, List.nodup_append,
    List.nodup_cons] at distinct
  have below := TaskTree.mem_subtrees_of_child child sub.self_mem_subtrees
  rw [split] at inside
  rcases List.mem_append.mp inside with earlier | inside
  · exact earlier
  · rcases List.mem_cons.mp inside with rfl | later
    · have apart := (TaskTree.nodup_subtree nodup (by rw [split]; simp)).sublist
        (TaskTree.ids_sublist_of_child child)
      exact absurd parent.id_mem_ids (List.nodup_cons.mp apart).1
    · rcases List.append_of_mem later with ⟨left, right, rfl⟩
      have further : tree.subtrees = (before ++ sub :: left) ++ parent :: right := by
        rw [split]
        simp
      have behind := (TaskTree.subtrees_prefix further).subset below
      refine absurd (List.mem_map_of_mem ?_) distinct.2.1.1
      exact List.mem_append_right _ behind

end Order

section Groups

variable {heap : Heap} {above : Option TaskId} {tree sub : TaskTree}

theorem Planted.isSkipped_child (planted : Planted heap above tree)
    (child : sub ∈ tree.children) : heap.isSkipped sub.id = true ↔
      tree.success.pipe? = some .parallelism ∧ sub.success.pipe? ≠ some .parallelism := by
  have below := planted.child child
  simp [Heap.isSkipped, below.stored.record_eq, planted.stored.record_eq]

theorem Planted.opensGroup_of_parallel (planted : Planted heap above tree)
    (parallel : tree.success.pipe? = some .parallelism) : heap.opensGroup tree.id = true := by
  have found := planted.stored.record_eq
  have skipped : heap.isSkipped tree.id = false := by
    unfold Heap.isSkipped
    simp only [found, TaskTree.record_onSuccessPipe, parallel]
    split <;> simp
  simp [Heap.opensGroup, skipped, Heap.isParallelExecutionNode, found, parallel]

theorem not_parallelTo_of_alone {task : TaskId}
    (alone : heap.isParallelExecutionNode task = false) (other : TaskId) :
    ¬ParallelTo heap other task ∧ ¬ParallelTo heap task other := by
  constructor
  · intro reached
    rw [reached.isParallel_right] at alone
    cases alone
  · intro reached
    rw [reached.isParallel_left] at alone
    cases alone

theorem maximalChain_of_alone {task : TaskId}
    (alone : heap.isParallelExecutionNode task = false) :
    MaximalChain (ParallelTo heap) [task] := by
  refine ⟨List.isChain_singleton _, ?_, ?_⟩
  · rintro head ⟨⟩ before
    exact (not_parallelTo_of_alone alone before).1
  · rintro last ⟨⟩ next
    exact (not_parallelTo_of_alone alone next).2

section Walks

variable {before after : List TaskTree} (planted : Planted heap above tree)
  (split : tree.subtrees = before ++ sub :: after)
  (closed : ∀ other ∈ before, heap.opensGroup other.id = false)
include planted split closed

/-- Before the first task that opens a group no task is reached over `||`. -/
theorem Planted.parent_alone (notRoot : sub ≠ tree) :
    ∃ parent ∈ before, sub ∈ parent.children ∧ parent.success.pipe? ≠ some .parallelism ∧
      ∃ above, Planted heap above parent := by
  have member : sub ∈ tree.subtrees := by
    rw [split]
    simp
  rcases TaskTree.subtrees_cases member with same | ⟨parent, inside, child⟩
  · exact absurd same notRoot
  · have earlier := TaskTree.parent_before planted.nodup split inside child
    rcases planted.subtree inside with ⟨_, known⟩
    refine ⟨parent, earlier, child, fun parallel => ?_, _, known⟩
    have opens := known.opensGroup_of_parallel parallel
    rw [closed parent earlier] at opens
    cases opens

theorem Planted.not_skipped (notRoot : sub ≠ tree) : heap.isSkipped sub.id = false := by
  rcases planted.parent_alone split closed notRoot with ⟨parent, _, child, alone, _, known⟩
  rw [Bool.eq_false_iff]
  exact fun skipped => alone ((known.isSkipped_child child).mp skipped).1

theorem Planted.not_reached (notRoot : sub ≠ tree) (other : TaskId) :
    ¬ParallelTo heap other sub.id := by
  rcases planted.parent_alone split closed notRoot with ⟨parent, _, child, alone, _, known⟩
  intro reached
  rw [← parent.edges_children] at child
  rcases List.mem_map.mp child with ⟨⟨position, pipe, _⟩, edge, rfl⟩
  rcases known.parallelTo_edge edge reached with ⟨rfl, rfl, rfl⟩
  rw [TaskTree.success_of_edge edge] at alone
  exact alone rfl

end Walks

/-- The task at which a walk starts is not passed on the way through a group. -/
def Heap.StartsAt (heap : Heap) (tree : TaskTree) : Prop :=
  tree.success.pipe? = some .parallelism → ∀ other, ¬ParallelTo heap other tree.id

theorem Heap.startsAt_last (heap : Heap) (tree : TaskTree) : heap.StartsAt tree.last :=
  fun parallel => absurd parallel tree.last_success

theorem Planted.startsAt (planted : Planted heap none tree) : heap.StartsAt tree :=
  fun _ => planted.stored.not_parallelTo_root

/-- A task that the walk comes to is met alone, or it is the first one of a group. -/
structure Heap.Meets (heap : Heap) (sub : TaskTree) : Prop where
  planted : ∃ above, Planted heap above sub
  met : heap.isSkipped sub.id = false
  leads : heap.isParallelExecutionNode sub.id = true → sub.success.pipe? = some .parallelism
  first : heap.isParallelExecutionNode sub.id = true → ∀ other, ¬ParallelTo heap other sub.id

theorem TreeWalk.meets {trees : List TaskTree} (walk : TreeWalk heap tree trees)
    (planted : Planted heap above tree) (starts : heap.StartsAt tree) :
    ∀ sub ∈ trees, heap.Meets sub := by
  have plain : ∀ {tree : TaskTree} {above : Option TaskId} {subs : List TaskTree},
      Planted heap above tree → (∀ sub ∈ subs, sub ∈ tree.subtrees) →
      (∀ sub ∈ subs, heap.opensGroup sub.id = false) →
      ∀ sub ∈ subs.filter fun sub => !heap.isSkipped sub.id, heap.Meets sub := by
    intro tree above subs planted inside closed sub member
    rcases List.mem_filter.mp member with ⟨member, met⟩
    have met : heap.isSkipped sub.id = false := by simpa using met
    have alone : heap.isParallelExecutionNode sub.id = false := by
      simpa [Heap.opensGroup, met] using closed sub member
    refine ⟨planted.subtree (inside sub member), met, fun among => ?_, fun among => ?_⟩
    · rw [alone] at among
      cases among
    · rw [alone] at among
      cases among
  induction walk generalizing above with
  | @plain tree closed => exact plain planted (fun _ member => member) closed
  | @group tree before group after later split closed opens parallel _ induction =>
      have inTree : ∀ sub ∈ before ++ [group], sub ∈ tree.subtrees := by
        intro sub member
        rw [split, ← List.singleton_append, ← List.append_assoc]
        exact List.mem_append_left _ member
      have opened := Bool.and_eq_true_iff.mp opens
      rcases planted.subtree (inTree group (by simp)) with ⟨_, known⟩
      rcases known.last with ⟨_, last⟩
      intro sub member
      rcases List.mem_append.mp member with earlier | member
      · exact plain planted (fun sub member => inTree sub (List.mem_append_left _ member)) closed
          sub earlier
      · rcases List.mem_cons.mp member with rfl | later
        · refine ⟨⟨_, known⟩, by simpa using opened.1, fun _ => parallel, fun _ => ?_⟩
          by_cases root : sub = tree
          · subst root
            exact starts parallel
          · exact planted.not_reached split closed root
        · exact induction last (heap.startsAt_last group) sub later

theorem Heap.Meets.group_maximal (meets : heap.Meets sub)
    (parallel : heap.isParallelExecutionNode sub.id = true) :
    MaximalChain (ParallelTo heap) sub.group := by
  rcases meets.planted with ⟨_, planted⟩
  exact planted.stored.group_maximal (meets.first parallel)

theorem Planted.group_maximal_of_alone (planted : Planted heap above tree)
    (alone : heap.isParallelExecutionNode tree.id = false) (child : sub ∈ tree.children) :
    MaximalChain (ParallelTo heap) sub.group := by
  refine (planted.child child).stored.group_maximal fun other reached => ?_
  obtain rfl := reached.edge.parent_eq (planted.child child).stored.record_eq
    (sub.record_parentNode _)
  exact (not_parallelTo_of_alone alone sub.id).2 reached

end Groups

end EventPipeline
