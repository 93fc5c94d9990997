import EventPipeline.Task.PipelineTask
import Mathlib.Data.List.Perm.Subperm

/-! # Task trees

The purpose of the heap of tasks: an inductive tree whose nodes carry what a
task records of itself, with one place for each kind of child. A heap stores a
tree when every record in it is the one the tree prescribes.
-/

namespace EventPipeline

open EventPipeline.Parser

/-- What a task records of itself. -/
structure Label where
  event : String
  numberOfRetries : Option Nat := none
  descriptor : Option Nat := none
  descriptorPipe : Option Operator := none
deriving DecidableEq, Repr

mutual
inductive TaskTree
  | node (id : TaskId) (label : Label) (failure sink success : Slot) (customs : Customs)

/-- The place for one child, with the pipe that leads to it. -/
inductive Slot
  | vacant
  | child (pipe : PipeType) (tree : TaskTree)

/-- The children under descriptors of their own. -/
inductive Customs
  | nil
  | cons (descriptor : Nat) (pipe : PipeType) (tree : TaskTree) (rest : Customs)
end

def TaskTree.id : TaskTree → TaskId
  | .node id _ _ _ _ _ => id

def TaskTree.label : TaskTree → Label
  | .node _ label _ _ _ _ => label

def TaskTree.failure : TaskTree → Slot
  | .node _ _ failure _ _ _ => failure

def TaskTree.sink : TaskTree → Slot
  | .node _ _ _ sink _ _ => sink

def TaskTree.success : TaskTree → Slot
  | .node _ _ _ _ success _ => success

def TaskTree.customs : TaskTree → Customs
  | .node _ _ _ _ _ customs => customs

def Slot.tree? : Slot → Option TaskTree
  | .vacant => none
  | .child _ tree => some tree

def Slot.id? : Slot → Option TaskId
  | .vacant => none
  | .child _ tree => some tree.id

def Slot.pipe? : Slot → Option PipeType
  | .vacant => none
  | .child pipe _ => some pipe

def Customs.configs : Customs → List (Nat × DescriptorConfig)
  | .nil => []
  | .cons descriptor pipe tree rest =>
      (descriptor, ⟨descriptor, pipe, tree.id⟩) :: rest.configs

def Customs.heads : Customs → List TaskId
  | .nil => []
  | .cons _ _ tree rest => tree.id :: rest.heads

def TaskTree.record (parent : Option TaskId) : TaskTree → PipelineTask
  | .node _ label failure sink success customs =>
      { event := label.event
        extraConfig := ⟨label.numberOfRetries, customs.configs⟩
        descriptor := label.descriptor
        descriptorPipe := label.descriptorPipe
        parentNode := parent
        sinkNode := sink.id?
        sinkPipe := sink.pipe?
        onSuccessEvent := success.id?
        onFailureEvent := failure.id?
        onSuccessPipe := success.pipe?
        onFailurePipe := failure.pipe? }

mutual
/-- The tasks of a tree in the order of `bf_traversal`. -/
def TaskTree.ids : TaskTree → List TaskId
  | .node id _ failure sink success customs =>
      id :: (failure.ids ++ (sink.ids ++ (success.ids ++ customs.ids)))

def Slot.ids : Slot → List TaskId
  | .vacant => []
  | .child _ tree => tree.ids

def Customs.ids : Customs → List TaskId
  | .nil => []
  | .cons _ _ tree rest => tree.ids ++ rest.ids
end

mutual
/-- The heap holds the records of a tree below the given parent. -/
def TaskTree.Stored (heap : Heap) (parent : Option TaskId) : TaskTree → Prop
  | .node id label failure sink success customs =>
      heap.get? id =
        some ((TaskTree.node id label failure sink success customs).record parent) ∧
      failure.Stored heap id ∧ sink.Stored heap id ∧ success.Stored heap id ∧
      customs.Stored heap id

def Slot.Stored (heap : Heap) (parent : TaskId) : Slot → Prop
  | .vacant => True
  | .child _ tree => tree.Stored heap (some parent)

def Customs.Stored (heap : Heap) (parent : TaskId) : Customs → Prop
  | .nil => True
  | .cons _ _ tree rest => tree.Stored heap (some parent) ∧ rest.Stored heap parent
end

/-! ## Frames -/

mutual
theorem TaskTree.Stored.frame {heap later : Heap} {parent : Option TaskId} :
    ∀ {tree : TaskTree}, tree.Stored heap parent →
    (∀ id ∈ tree.ids, later.get? id = heap.get? id) → tree.Stored later parent
  | .node id label failure sink success customs, stored, same => by
      rcases stored with ⟨record, failureStored, sinkStored, successStored, customsStored⟩
      simp only [TaskTree.ids, List.mem_cons, List.mem_append] at same
      refine ⟨(same id (.inl rfl)).trans record, failureStored.frame ?_, sinkStored.frame ?_,
        successStored.frame ?_, customsStored.frame ?_⟩
      · exact fun id member => same id (.inr (.inl member))
      · exact fun id member => same id (.inr (.inr (.inl member)))
      · exact fun id member => same id (.inr (.inr (.inr (.inl member))))
      · exact fun id member => same id (.inr (.inr (.inr (.inr member))))

theorem Slot.Stored.frame {heap later : Heap} {parent : TaskId} :
    ∀ {slot : Slot}, slot.Stored heap parent →
    (∀ id ∈ slot.ids, later.get? id = heap.get? id) → slot.Stored later parent
  | .vacant, _, _ => trivial
  | .child _ _, stored, same => TaskTree.Stored.frame stored same

theorem Customs.Stored.frame {heap later : Heap} {parent : TaskId} :
    ∀ {customs : Customs}, customs.Stored heap parent →
    (∀ id ∈ customs.ids, later.get? id = heap.get? id) → customs.Stored later parent
  | .nil, _, _ => trivial
  | .cons _ _ _ _, stored, same => by
      simp only [Customs.ids, List.mem_append] at same
      exact ⟨stored.1.frame fun id member => same id (.inl member),
        stored.2.frame fun id member => same id (.inr member)⟩
end

theorem TaskTree.id_mem_ids (tree : TaskTree) : tree.id ∈ tree.ids := by
  cases tree
  simp [TaskTree.id, TaskTree.ids]

theorem TaskTree.Stored.record_eq {heap : Heap} {parent : Option TaskId} {tree : TaskTree}
    (stored : tree.Stored heap parent) : heap.get? tree.id = some (tree.record parent) := by
  cases tree
  exact stored.1

/-! ## Climbing to the root -/

theorem Heap.getRootFrom_step {heap : Heap} {id parent : TaskId} {task : PipelineTask}
    (found : heap.get? id = some task) (below : task.parentNode = some parent) (fuel : Nat) :
    heap.getRootFrom (fuel + 1) id = heap.getRootFrom fuel parent := by
  simp [Heap.getRootFrom, found, below]

@[simp] theorem TaskTree.record_parentNode (parent : Option TaskId) (tree : TaskTree) :
    (tree.record parent).parentNode = parent := by
  cases tree
  rfl

mutual
theorem TaskTree.Stored.climbs {heap : Heap} {parent : Option TaskId} :
    ∀ {tree : TaskTree}, tree.Stored heap parent → ∀ id ∈ tree.ids,
    ∃ steps < tree.ids.length, ∀ fuel,
      heap.getRootFrom (fuel + steps) id = heap.getRootFrom fuel tree.id
  | .node root label failure sink success customs, stored, id, member => by
      simp only [TaskTree.ids, List.mem_cons, List.mem_append] at member
      simp only [TaskTree.ids, List.length_cons, List.length_append]
      rcases member with rfl | member | member | member | member
      · exact ⟨0, by omega, fun fuel => rfl⟩
      · rcases stored.2.1.climbs id member with ⟨steps, bound, climbs⟩
        exact ⟨steps, by omega, climbs⟩
      · rcases stored.2.2.1.climbs id member with ⟨steps, bound, climbs⟩
        exact ⟨steps, by omega, climbs⟩
      · rcases stored.2.2.2.1.climbs id member with ⟨steps, bound, climbs⟩
        exact ⟨steps, by omega, climbs⟩
      · rcases stored.2.2.2.2.climbs id member with ⟨steps, bound, climbs⟩
        exact ⟨steps, by omega, climbs⟩

theorem Slot.Stored.climbs {heap : Heap} {parent : TaskId} :
    ∀ {slot : Slot}, slot.Stored heap parent → ∀ id ∈ slot.ids,
    ∃ steps ≤ slot.ids.length, ∀ fuel,
      heap.getRootFrom (fuel + steps) id = heap.getRootFrom fuel parent
  | .child pipe tree, stored, id, member => by
      have stored : tree.Stored heap (some parent) := stored
      rcases stored.climbs id member with ⟨steps, bound, climbs⟩
      refine ⟨steps + 1, bound, fun fuel => ?_⟩
      rw [Nat.add_comm steps 1, ← Nat.add_assoc, climbs,
        Heap.getRootFrom_step stored.record_eq (tree.record_parentNode _)]

theorem Customs.Stored.climbs {heap : Heap} {parent : TaskId} :
    ∀ {customs : Customs}, customs.Stored heap parent → ∀ id ∈ customs.ids,
    ∃ steps ≤ customs.ids.length, ∀ fuel,
      heap.getRootFrom (fuel + steps) id = heap.getRootFrom fuel parent
  | .cons descriptor pipe tree rest, stored, id, member => by
      simp only [Customs.ids, List.mem_append] at member
      simp only [Customs.ids, List.length_append]
      rcases member with member | member
      · rcases stored.1.climbs id member with ⟨steps, bound, climbs⟩
        refine ⟨steps + 1, by omega, fun fuel => ?_⟩
        rw [Nat.add_comm steps 1, ← Nat.add_assoc, climbs,
          Heap.getRootFrom_step stored.1.record_eq (tree.record_parentNode _)]
      · rcases stored.2.climbs id member with ⟨steps, bound, climbs⟩
        exact ⟨steps, by omega, climbs⟩
end

mutual
theorem TaskTree.Stored.lt_size {heap : Heap} {parent : Option TaskId} :
    ∀ {tree : TaskTree}, tree.Stored heap parent → ∀ id ∈ tree.ids, id < heap.size
  | .node root label failure sink success customs, stored, id, member => by
      simp only [TaskTree.ids, List.mem_cons, List.mem_append] at member
      rcases member with rfl | member | member | member | member
      · exact Arena.lt_size_of_get? stored.1
      · exact stored.2.1.lt_size id member
      · exact stored.2.2.1.lt_size id member
      · exact stored.2.2.2.1.lt_size id member
      · exact stored.2.2.2.2.lt_size id member

theorem Slot.Stored.lt_size {heap : Heap} {parent : TaskId} :
    ∀ {slot : Slot}, slot.Stored heap parent → ∀ id ∈ slot.ids, id < heap.size
  | .child _ _, stored, id, member => TaskTree.Stored.lt_size stored id member

theorem Customs.Stored.lt_size {heap : Heap} {parent : TaskId} :
    ∀ {customs : Customs}, customs.Stored heap parent → ∀ id ∈ customs.ids, id < heap.size
  | .cons _ _ _ _, stored, id, member => by
      simp only [Customs.ids, List.mem_append] at member
      rcases member with member | member
      · exact stored.1.lt_size id member
      · exact stored.2.lt_size id member
end

theorem TaskTree.Stored.length_le_size {heap : Heap} {parent : Option TaskId}
    {tree : TaskTree} (stored : tree.Stored heap parent) (nodup : tree.ids.Nodup) :
    tree.ids.length ≤ heap.size := by
  have inside : tree.ids ⊆ List.range heap.size := fun id member =>
    List.mem_range.mpr (stored.lt_size id member)
  simpa using (nodup.subperm inside).length_le

theorem TaskTree.Stored.getRoot_eq {heap : Heap} {tree : TaskTree}
    (stored : tree.Stored heap none) (nodup : tree.ids.Nodup) {id : TaskId}
    (member : id ∈ tree.ids) : heap.getRoot id = some tree.id := by
  rcases stored.climbs id member with ⟨steps, bound, climbs⟩
  have enough := stored.length_le_size nodup
  rcases Nat.exists_eq_add_of_le (Nat.le_of_lt (Nat.lt_of_lt_of_le bound enough))
    with ⟨spare, total⟩
  rw [Heap.getRoot, show heap.size + 1 = spare + 1 + steps by omega, climbs]
  simp [Heap.getRootFrom, stored.record_eq]

/-! ## Traversal -/

theorem Customs.configs_tasks : ∀ customs : Customs,
    (customs.configs.map Prod.snd).map DescriptorConfig.task = customs.heads
  | .nil => rfl
  | .cons _ _ tree rest => by
      simp only [Customs.configs, List.map_cons, Customs.heads]
      rw [rest.configs_tasks]

theorem TaskTree.record_getChildren (parent : Option TaskId) : ∀ tree : TaskTree,
    (tree.record parent).getChildren =
      tree.failure.id?.toList ++ tree.sink.id?.toList ++ tree.success.id?.toList ++
        tree.customs.heads
  | .node id label failure sink success customs => by
      simp only [TaskTree.record, PipelineTask.getChildren, TaskTree.failure, TaskTree.sink,
        TaskTree.success, TaskTree.customs, ExtraPipelineTaskConfig.getDescriptors,
        customs.configs_tasks]

mutual
theorem TaskTree.Stored.bfTraversalFrom_eq {heap : Heap} {parent : Option TaskId} :
    ∀ {tree : TaskTree}, tree.Stored heap parent → ∀ fuel, tree.ids.length ≤ fuel →
    heap.bfTraversalFrom fuel tree.id = some tree.ids
  | .node root label failure sink success customs, stored, 0, enough => by
      simp [TaskTree.ids] at enough
  | .node root label failure sink success customs, stored, fuel + 1, enough => by
      simp only [TaskTree.ids, List.length_cons, List.length_append] at enough
      have record := stored.record_eq
      rcases stored.2.1.bfTraversalFrom_eq fuel (by omega) with
        ⟨failures, failureMaps, failureFlat⟩
      rcases stored.2.2.1.bfTraversalFrom_eq fuel (by omega) with
        ⟨sinks, sinkMaps, sinkFlat⟩
      rcases stored.2.2.2.1.bfTraversalFrom_eq fuel (by omega) with
        ⟨successes, successMaps, successFlat⟩
      rcases stored.2.2.2.2.bfTraversalFrom_eq fuel (by omega) with
        ⟨others, customMaps, customFlat⟩
      simp only [Heap.bfTraversalFrom, record, Option.map_some, Option.getD_some,
        TaskTree.record_getChildren, TaskTree.failure, TaskTree.sink, TaskTree.success,
        TaskTree.customs, List.mapM_append, failureMaps, sinkMaps, successMaps, customMaps]
      simp [TaskTree.id, TaskTree.ids, failureFlat, sinkFlat, successFlat, customFlat]

theorem Slot.Stored.bfTraversalFrom_eq {heap : Heap} {parent : TaskId} :
    ∀ {slot : Slot}, slot.Stored heap parent → ∀ fuel, slot.ids.length ≤ fuel →
    ∃ below, slot.id?.toList.mapM (heap.bfTraversalFrom fuel) = some below ∧
      below.flatten = slot.ids
  | .vacant, _, _, _ => ⟨[], rfl, rfl⟩
  | .child pipe tree, stored, fuel, enough => by
      have stored : tree.Stored heap (some parent) := stored
      refine ⟨[tree.ids], ?_, by simp [Slot.ids]⟩
      simp [Slot.id?, stored.bfTraversalFrom_eq fuel enough]

theorem Customs.Stored.bfTraversalFrom_eq {heap : Heap} {parent : TaskId} :
    ∀ {customs : Customs}, customs.Stored heap parent → ∀ fuel,
    customs.ids.length ≤ fuel →
    ∃ below, customs.heads.mapM (heap.bfTraversalFrom fuel) = some below ∧
      below.flatten = customs.ids
  | .nil, _, _, _ => ⟨[], rfl, rfl⟩
  | .cons descriptor pipe tree rest, stored, fuel, enough => by
      simp only [Customs.ids, List.length_append] at enough
      rcases stored.2.bfTraversalFrom_eq fuel (by omega) with ⟨below, maps, flat⟩
      refine ⟨tree.ids :: below, ?_, by simp [Customs.ids, flat]⟩
      simp [Customs.heads, stored.1.bfTraversalFrom_eq fuel (by omega), maps]
end

theorem TaskTree.Stored.bfTraversal_eq {heap : Heap} {parent : Option TaskId}
    {tree : TaskTree} (stored : tree.Stored heap parent) (nodup : tree.ids.Nodup) :
    heap.bfTraversal tree.id = some tree.ids :=
  stored.bfTraversalFrom_eq _ (Nat.le_succ_of_le (stored.length_le_size nodup))

theorem TaskTree.Stored.getTaskCount_eq {heap : Heap} {tree : TaskTree}
    (stored : tree.Stored heap none) (nodup : tree.ids.Nodup) {id : TaskId}
    (member : id ∈ tree.ids) : heap.getTaskCount id = some tree.ids.length := by
  simp [Heap.getTaskCount, stored.getRoot_eq nodup member, stored.bfTraversal_eq nodup]

end EventPipeline
