import EventPipeline.Task.Edges
import Mathlib.Logic.Relation

/-! # Scripts build proper trees

The objects that `get_children` leads to from the root of an accepted script form
a tree: each of them but the root stands in one slot of one task, which is its
`parent_node`, and `bf_traversal` meets every task once and behind its parent.
-/

namespace EventPipeline

/-- The attributes of a task that can hold a child, and the descriptors. -/
inductive ChildSlot
  | onFailureEvent
  | sinkNode
  | onSuccessEvent
  | descriptor (key : Nat)
deriving DecidableEq, Repr

/-- The children with their slots, in the order of `get_children`. -/
def PipelineTask.slots (task : PipelineTask) : List (ChildSlot × TaskId) :=
  task.onFailureEvent.toList.map (Prod.mk .onFailureEvent) ++
    task.sinkNode.toList.map (Prod.mk .sinkNode) ++
    task.onSuccessEvent.toList.map (Prod.mk .onSuccessEvent) ++
    task.extraConfig.descriptors.map fun entry => (.descriptor entry.1, entry.2.task)

theorem PipelineTask.slots_getChildren (task : PipelineTask) :
    task.slots.map Prod.snd = task.getChildren := by
  simp [PipelineTask.slots, PipelineTask.getChildren, ExtraPipelineTaskConfig.getDescriptors,
    Function.comp_def]

def Occupies (heap : Heap) (task : TaskId) (slot : ChildSlot) (child : TaskId) : Prop :=
  ∃ record, heap.get? task = some record ∧ (slot, child) ∈ record.slots

def ChildOf (heap : Heap) (parent child : TaskId) : Prop :=
  ∃ record, heap.get? parent = some record ∧ child ∈ record.getChildren

/-- `get_children` leads from the first task to the second one. -/
def Reaches (heap : Heap) : TaskId → TaskId → Prop :=
  Relation.ReflTransGen (ChildOf heap)

theorem childOf_iff {heap : Heap} {parent child : TaskId} :
    ChildOf heap parent child ↔ ∃ slot, Occupies heap parent slot child := by
  simp only [ChildOf, Occupies, ← PipelineTask.slots_getChildren, List.mem_map]
  constructor
  · rintro ⟨record, found, ⟨slot, _⟩, member, rfl⟩
    exact ⟨slot, record, found, member⟩
  · rintro ⟨slot, record, found, member⟩
    exact ⟨record, found, _, member, rfl⟩

structure PlacedOnce (heap : Heap) (root id parent : TaskId) (slot : ChildSlot) : Prop where
  reached : Reaches heap root parent
  occupies : Occupies heap parent slot id
  parentNode : (heap.get? id).bind PipelineTask.parentNode = some parent
  unique : ∀ other otherSlot, Reaches heap root other → Occupies heap other otherSlot id →
    other = parent ∧ otherSlot = slot

/-- The traversal yields what is reached, every task once and each behind its
parent. -/
structure TraversedInOrder (heap : Heap) (root : TaskId) (order : List TaskId) : Prop where
  yields : heap.bfTraversal root = some order
  nodup : order.Nodup
  mem_iff : ∀ id, id ∈ order ↔ Reaches heap root id
  behind : ∀ id parent, Reaches heap root id →
    (heap.get? id).bind PipelineTask.parentNode = some parent → [parent, id].Sublist order

structure ProperTree (heap : Heap) (root : TaskId) : Prop where
  rootless : ∃ record, heap.get? root = some record ∧ record.parentNode = none
  placed : ∀ id, Relation.TransGen (ChildOf heap) root id →
    ∃ parent slot, PlacedOnce heap root id parent slot
  rooted : ∀ id, Reaches heap root id → heap.getRoot id = some root
  traversed : ∃ order, TraversedInOrder heap root order

/-! ## Slots of trees -/

def Customs.slots : Customs → List (ChildSlot × TaskTree)
  | .nil => []
  | .cons key _ tree rest => (.descriptor key, tree) :: rest.slots

def TaskTree.slots (tree : TaskTree) : List (ChildSlot × TaskTree) :=
  tree.failure.tree?.toList.map (Prod.mk .onFailureEvent) ++
    tree.sink.tree?.toList.map (Prod.mk .sinkNode) ++
    tree.success.tree?.toList.map (Prod.mk .onSuccessEvent) ++ tree.customs.slots

theorem Customs.slots_trees (customs : Customs) :
    customs.slots.map Prod.snd = customs.trees := by
  cases customs with
  | nil => rfl
  | cons key config tree rest => exact congrArg (List.cons tree) rest.slots_trees

theorem TaskTree.slots_children (tree : TaskTree) :
    tree.slots.map Prod.snd = tree.children := by
  simp [TaskTree.slots, TaskTree.children, Customs.slots_trees, Function.comp_def]

theorem Customs.configs_slots (customs : Customs) :
    customs.configs.map (fun entry => (ChildSlot.descriptor entry.1, entry.2.task)) =
      customs.slots.map fun entry => (entry.1, entry.2.id) := by
  cases customs with
  | nil => rfl
  | cons key config tree rest =>
      exact congrArg (List.cons (ChildSlot.descriptor key, tree.id)) rest.configs_slots

theorem Slot.id?_eq (slot : Slot) : slot.id? = slot.tree?.map TaskTree.id := by
  cases slot <;> rfl

theorem TaskTree.record_slots (parent : Option TaskId) (tree : TaskTree) :
    (tree.record parent).slots = tree.slots.map fun entry => (entry.1, entry.2.id) := by
  rcases tree with ⟨id, label, failure, sink, success, customs⟩
  simp only [PipelineTask.slots, TaskTree.record, TaskTree.slots, TaskTree.failure,
    TaskTree.sink, TaskTree.success, TaskTree.customs, Customs.configs_slots, List.map_append,
    Slot.id?_eq, Option.toList_map, List.map_map, Function.comp_def]

section Stored

variable {heap : Heap} {above : Option TaskId} {tree : TaskTree}
  (stored : tree.Stored heap above)
include stored

theorem TaskTree.Stored.occupies_iff {slot : ChildSlot} {child : TaskId} :
    Occupies heap tree.id slot child ↔ ∃ kid, (slot, kid) ∈ tree.slots ∧ kid.id = child := by
  simp only [Occupies, stored.record_eq, Option.some_inj, exists_eq_left', tree.record_slots,
    List.mem_map, Prod.mk.injEq, Prod.exists]
  constructor
  · rintro ⟨slot, kid, member, rfl, rfl⟩
    exact ⟨kid, member, rfl⟩
  · rintro ⟨kid, member, rfl⟩
    exact ⟨slot, kid, member, rfl, rfl⟩

theorem TaskTree.Stored.childOf_iff {child : TaskId} :
    ChildOf heap tree.id child ↔ ∃ kid ∈ tree.children, kid.id = child := by
  simp only [EventPipeline.childOf_iff, stored.occupies_iff, ← tree.slots_children,
    List.mem_map]
  constructor
  · rintro ⟨slot, kid, member, rfl⟩
    exact ⟨kid, ⟨_, member, rfl⟩, rfl⟩
  · rintro ⟨kid, ⟨⟨slot, _⟩, member, rfl⟩, rfl⟩
    exact ⟨slot, _, member, rfl⟩

end Stored

theorem TaskTree.child_mem_subtrees {tree sub child : TaskTree}
    (member : sub ∈ tree.subtrees) (among : child ∈ sub.children) : child ∈ tree.subtrees := by
  induction tree using TaskTree.children_induction with
  | step tree induction =>
      rw [tree.subtrees_eq] at member
      rcases List.mem_cons.mp member with rfl | below
      · exact TaskTree.mem_subtrees_of_child among child.self_mem_subtrees
      · rcases List.mem_flatMap.mp below with ⟨first, hangs, inside⟩
        exact TaskTree.mem_subtrees_of_child hangs (induction first hangs inside)

theorem TaskTree.Stored.reaches_subtree {heap : Heap} {tree : TaskTree} :
    ∀ {above : Option TaskId}, tree.Stored heap above →
      ∀ sub ∈ tree.subtrees, Reaches heap tree.id sub.id := by
  induction tree using TaskTree.children_induction with
  | step tree induction =>
      intro above stored sub member
      rw [tree.subtrees_eq] at member
      rcases List.mem_cons.mp member with rfl | below
      · exact .refl
      · rcases List.mem_flatMap.mp below with ⟨child, among, inside⟩
        exact .head (stored.childOf_iff.mpr ⟨child, among, rfl⟩)
          (induction child among (stored.child among) sub inside)

theorem TaskTree.Stored.exists_of_reaches {heap : Heap} {above : Option TaskId}
    {tree : TaskTree} (stored : tree.Stored heap above) {id : TaskId}
    (reaches : Reaches heap tree.id id) : ∃ sub ∈ tree.subtrees, sub.id = id := by
  induction reaches with
  | refl => exact ⟨tree, tree.self_mem_subtrees, rfl⟩
  | tail _ step induction =>
      rcases induction with ⟨sub, member, rfl⟩
      rcases stored.subtree member with ⟨_, subStored⟩
      rcases subStored.childOf_iff.mp step with ⟨kid, among, rfl⟩
      exact ⟨kid, TaskTree.child_mem_subtrees member among, rfl⟩

theorem TaskTree.Stored.reaches_iff {heap : Heap} {above : Option TaskId} {tree : TaskTree}
    (stored : tree.Stored heap above) {id : TaskId} :
    Reaches heap tree.id id ↔ id ∈ tree.ids := by
  rw [← tree.map_id_subtrees, List.mem_map]
  refine ⟨stored.exists_of_reaches, ?_⟩
  rintro ⟨sub, member, rfl⟩
  exact stored.reaches_subtree sub member

theorem TaskTree.Stored.placedOnce {heap : Heap} {tree sub kid : TaskTree} {slot : ChildSlot}
    (stored : tree.Stored heap none) (nodup : tree.ids.Nodup) (member : sub ∈ tree.subtrees)
    (inSlot : (slot, kid) ∈ sub.slots) : PlacedOnce heap tree.id kid.id sub.id slot := by
  rcases stored.subtree member with ⟨_, subStored⟩
  have child : kid ∈ sub.children := by
    rw [← sub.slots_children]
    exact List.mem_map_of_mem inSlot
  have kidRecord := (subStored.child child).record_eq
  refine ⟨stored.reaches_subtree sub member, subStored.occupies_iff.mpr ⟨kid, inSlot, rfl⟩, ?_,
    fun other otherSlot reached occupied => ?_⟩
  · simp [kidRecord]
  · rcases stored.exists_of_reaches reached with ⟨otherSub, otherMember, rfl⟩
    rcases stored.subtree otherMember with ⟨_, otherStored⟩
    rcases otherStored.occupies_iff.mp occupied with ⟨otherKid, otherInSlot, same⟩
    have otherChild : otherKid ∈ otherSub.children := by
      rw [← otherSub.slots_children]
      exact List.mem_map_of_mem otherInSlot
    have otherRecord := (otherStored.child otherChild).record_eq
    rw [same, kidRecord, Option.some_inj] at otherRecord
    have sameParent : otherSub.id = sub.id := by
      have parents := congrArg PipelineTask.parentNode otherRecord
      simpa using parents.symm
    rw [sameParent] at occupied
    rcases subStored.occupies_iff.mp occupied with ⟨third, thirdInSlot, sameThird⟩
    have distinct := TaskTree.nodup_children_ids (TaskTree.nodup_subtree nodup member)
    rw [← sub.slots_children, List.map_map] at distinct
    have equal := List.inj_on_of_nodup_map distinct thirdInSlot inSlot sameThird
    exact ⟨sameParent, congrArg Prod.fst equal⟩

theorem TaskTree.Stored.traversedInOrder {heap : Heap} {tree : TaskTree}
    (stored : tree.Stored heap none) (nodup : tree.ids.Nodup) :
    TraversedInOrder heap tree.id tree.ids := by
  refine ⟨stored.bfTraversal_eq nodup, nodup, fun id => stored.reaches_iff.symm,
    fun id parent reaches below => ?_⟩
  rcases stored.exists_of_reaches reaches with ⟨sub, member, rfl⟩
  rcases TaskTree.subtrees_cases member with rfl | ⟨aboveSub, aboveMember, hangs⟩
  · simp [stored.record_eq] at below
  · rcases stored.subtree aboveMember with ⟨_, aboveStored⟩
    simp only [(aboveStored.child hangs).record_eq, Option.bind_some,
      TaskTree.record_parentNode, Option.some_inj] at below
    subst below
    have edge : [aboveSub.id, sub.id].Sublist (aboveSub.id :: sub.ids) :=
      (List.singleton_sublist.mpr sub.id_mem_ids).cons_cons _
    exact edge.trans ((TaskTree.ids_sublist_of_child hangs).trans
      (TaskTree.ids_sublist_of_subtree aboveMember))

/-- Every accepted script builds a proper tree. -/
theorem AcceptedPipeline.properTree (pipeline : AcceptedPipeline) :
    ProperTree pipeline.heap pipeline.root := by
  rcases pipeline.planted with ⟨tree, same, planted⟩
  rw [← same]
  have stored := planted.stored
  refine ⟨⟨_, stored.record_eq, tree.record_parentNode _⟩, fun id reaches => ?_,
    fun id reaches => stored.getRoot_eq planted.nodup (stored.reaches_iff.mp reaches),
    tree.ids, stored.traversedInOrder planted.nodup⟩
  rcases Relation.TransGen.tail'_iff.mp reaches with ⟨parent, reached, step⟩
  rcases stored.exists_of_reaches reached with ⟨sub, member, rfl⟩
  rcases stored.subtree member with ⟨_, subStored⟩
  rcases EventPipeline.childOf_iff.mp step with ⟨slot, occupied⟩
  rcases subStored.occupies_iff.mp occupied with ⟨kid, inSlot, rfl⟩
  exact ⟨sub.id, slot, stored.placedOnce planted.nodup member inSlot⟩

end EventPipeline
