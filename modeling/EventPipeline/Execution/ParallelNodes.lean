import EventPipeline.Execution.ParallelGroups
import EventPipeline.Task.Edges

/-! # Parallel execution nodes

The methods by which a task finds the parallel group that it belongs to.
-/

namespace EventPipeline

namespace Heap

/-- A task that leads on over `||` or is reached over `||`. -/
def isParallelExecutionNode (heap : Heap) (id : TaskId) : Bool :=
  (heap.get? id).bind PipelineTask.onSuccessPipe = some .parallelism ∨
    heap.getPointerTypeToThisEvent id = some (.pipe .parallelism)

/-- A parallel task, the tasks that it leads on to over `||`, and the task behind them.
Where there is no task behind them, its event cannot be read. -/
def getParallelNodes (heap : Heap) (id : TaskId) : Except PyError (Option (List TaskId)) :=
  if heap.isParallelExecutionNode id then
    match collectParallel heap (heap.size + 1) (some id) with
    | none => .error .recursionError
    | some (_, none) => .error (.attributeError "'NoneType' object has no attribute 'event'")
    | some (tasks, some last) => .ok (some (tasks ++ [last]))
  else
    .ok none

/-- `get_parallel_execution_parent_node`: climb while the parent leads on over `||`. -/
def getParallelExecutionParentNodeFrom (heap : Heap) : Nat → TaskId → Option TaskId
  | 0, _ => none
  | fuel + 1, id =>
      if heap.isParallelExecutionNode id then
        match (heap.get? id).bind PipelineTask.parentNode with
        | none => some id
        | some parent =>
            if (heap.get? parent).bind PipelineTask.onSuccessPipe = some .parallelism then
              getParallelExecutionParentNodeFrom heap fuel parent
            else
              some id
      else
        none

def getParallelExecutionParentNode (heap : Heap) (id : TaskId) : Option TaskId :=
  getParallelExecutionParentNodeFrom heap (heap.size + 1) id

end Heap

theorem TaskTree.Stored.getParallelNodes_eq {heap : Heap} {tree : TaskTree}
    {above : Option TaskId} (stored : tree.Stored heap above)
    (enough : tree.group.length ≤ heap.size + 1) :
    heap.getParallelNodes tree.id =
      .ok (if heap.isParallelExecutionNode tree.id then some tree.group else none) := by
  unfold Heap.getParallelNodes
  have whole := tree.group_eq
  rw [stored.collectParallel_eq enough]
  split
  · simp only
    rw [← whole]
  · rfl

theorem TaskTree.group_eq_singleton {tree : TaskTree}
    (alone : tree.success.pipe? ≠ some .parallelism) : tree.group = [tree.id] := by
  induction tree using TaskTree.group_induction with
  | single tree _ group _ => exact group
  | parallel id label failure sink next customs _ => exact absurd rfl alone

theorem TaskTree.two_le_length_group {tree : TaskTree}
    (parallel : tree.success.pipe? = some .parallelism) : 2 ≤ tree.group.length := by
  induction tree using TaskTree.group_induction with
  | single tree other _ _ => exact absurd parallel other
  | parallel id label failure sink next customs _ =>
      exact Nat.succ_le_succ (List.length_pos_iff.mpr next.group_ne_nil)

section Climbing

variable {heap : Heap}

theorem ParallelTo.pointer {first second : TaskId} (reached : ParallelTo heap first second) :
    heap.getPointerTypeToThisEvent second = some (.pipe .parallelism) := by
  rcases reached with ⟨task, next, found, below, place, piped, parent⟩
  exact pointer_success found below parent place piped

theorem ParallelTo.isParallel_right {first second : TaskId}
    (reached : ParallelTo heap first second) : heap.isParallelExecutionNode second = true := by
  simp [Heap.isParallelExecutionNode, reached.pointer]

theorem ParallelTo.isParallel_left {first second : TaskId}
    (reached : ParallelTo heap first second) : heap.isParallelExecutionNode first = true := by
  rcases reached with ⟨task, next, found, below, place, piped, parent⟩
  simp [Heap.isParallelExecutionNode, found, piped]

theorem ParallelTo.climb {first second : TaskId} (reached : ParallelTo heap first second)
    (fuel : Nat) :
    heap.getParallelExecutionParentNodeFrom (fuel + 1) second =
      heap.getParallelExecutionParentNodeFrom fuel first := by
  have parallel := reached.isParallel_right
  rcases reached with ⟨task, next, found, below, place, piped, parent⟩
  simp [Heap.getParallelExecutionParentNodeFrom, parallel, below, parent, found, piped]

theorem TaskTree.Stored.climbs_group {tree : TaskTree} {above : Option TaskId}
    (stored : tree.Stored heap above) {task : TaskId} (member : task ∈ tree.group) :
    ∃ steps < tree.group.length, ∀ fuel,
      heap.getParallelExecutionParentNodeFrom (fuel + steps) task =
        heap.getParallelExecutionParentNodeFrom fuel tree.id := by
  induction tree using TaskTree.group_induction generalizing above with
  | single tree _ group _ =>
      rw [group] at member ⊢
      rw [List.mem_singleton.mp member]
      exact ⟨0, by simp, fun _ => rfl⟩
  | parallel id label failure sink next customs induction =>
      have below : next.Stored heap (some id) := stored.2.2.2.1
      rcases List.mem_cons.mp member with rfl | later
      · exact ⟨0, by simp [TaskTree.group], fun _ => rfl⟩
      · rcases induction below later with ⟨steps, bound, climbs⟩
        have reached : ParallelTo heap id next.id :=
          ⟨_, _, stored.record_eq, below.record_eq, rfl, rfl, next.record_parentNode _⟩
        refine ⟨steps + 1, by simpa [TaskTree.group, Slot.group] using bound, fun fuel => ?_⟩
        rw [Nat.add_comm steps 1, ← Nat.add_assoc, climbs, reached.climb]
        rfl

theorem Heap.climb_stop {id : TaskId} (parallel : heap.isParallelExecutionNode id = true)
    (top : ∀ parent, (heap.get? id).bind PipelineTask.parentNode = some parent →
      (heap.get? parent).bind PipelineTask.onSuccessPipe ≠ some .parallelism) (fuel : Nat) :
    heap.getParallelExecutionParentNodeFrom (fuel + 1) id = some id := by
  rw [Heap.getParallelExecutionParentNodeFrom, if_pos parallel]
  cases linked : (heap.get? id).bind PipelineTask.parentNode with
  | none => rfl
  | some parent => exact if_neg (top parent linked)

theorem TaskTree.Stored.getParallelExecutionParentNode_eq {tree : TaskTree}
    {above : Option TaskId} (stored : tree.Stored heap above)
    (enough : tree.group.length ≤ heap.size + 1) {task : TaskId} (member : task ∈ tree.group)
    (parallel : heap.isParallelExecutionNode tree.id = true)
    (top : ∀ parent ∈ above,
      (heap.get? parent).bind PipelineTask.onSuccessPipe ≠ some .parallelism) :
    heap.getParallelExecutionParentNode task = some tree.id := by
  rcases stored.climbs_group member with ⟨steps, bound, climbs⟩
  rcases Nat.exists_eq_add_of_lt (Nat.lt_of_lt_of_le bound enough) with ⟨spare, total⟩
  rw [Heap.getParallelExecutionParentNode, total,
    show steps + spare + 1 = spare + 1 + steps by omega, climbs]
  refine Heap.climb_stop parallel (fun parent linked => top parent ?_) spare
  rw [stored.record_eq, Option.bind_some, TaskTree.record_parentNode] at linked
  exact linked

theorem TaskTree.Stored.isParallel_of_mem {tree : TaskTree} {above : Option TaskId}
    (stored : tree.Stored heap above) {task : TaskId} (member : task ∈ tree.group)
    (other : task ≠ tree.id) :
    heap.isParallelExecutionNode task = true ∧ heap.isParallelExecutionNode tree.id = true := by
  constructor
  · rcases stored.mem_group_cases member with same | ⟨before, _, reached⟩
    · exact absurd same other
    · exact reached.isParallel_right
  · rcases tree with ⟨id, label, failure, sink, success, customs⟩
    rcases List.mem_cons.mp member with same | later
    · exact absurd same other
    · cases success with
      | vacant => cases later
      | child pipe next =>
          cases pipe with
          | parallelism => simp [Heap.isParallelExecutionNode, TaskTree.id, stored.1,
              TaskTree.record, Slot.pipe?]
          | pointer => cases later
          | pipePointer => cases later
          | retry => cases later

end Climbing

/-! ## Ways into a tree -/

section Ways

variable {heap : Heap} {above : Option TaskId} {root tree kid : TaskTree}

theorem TaskTree.branch_edge {failed : Bool} (member : kid ∈ (tree.branch failed).tree?) :
    ∃ position pipe, (position, pipe, kid) ∈ tree.edges ∧
      position ≠ .sink ∧ position ≠ .custom := by
  rcases tree with ⟨id, label, failure, sink, success, customs⟩
  unfold TaskTree.branch at member
  simp only [TaskTree.edges, List.mem_append]
  split at member
  · cases failure with
    | vacant => cases member
    | child pipe other =>
        cases member
        exact ⟨.failure, pipe, .inl (by simp [TaskTree.failure, Slot.edges]), by simp, by simp⟩
  · cases success with
    | vacant => cases member
    | child pipe other =>
        cases member
        exact ⟨.success, pipe, .inr (.inr (.inl (by simp [TaskTree.success, Slot.edges]))),
          by simp, by simp⟩

theorem Customs.edge_of_mem : ∀ {customs : Customs}, kid ∈ customs.trees →
    ∃ pipe, (Position.custom, pipe, kid) ∈ customs.edges
  | .cons _ pipe _ _, member => by
      rcases List.mem_cons.mp member with rfl | member
      · exact ⟨pipe, List.mem_cons_self⟩
      · rcases Customs.edge_of_mem member with ⟨pipe, edge⟩
        exact ⟨pipe, List.mem_cons_of_mem _ edge⟩

theorem TaskTree.customs_edge (member : kid ∈ tree.customs.trees) :
    ∃ pipe, (Position.custom, pipe, kid) ∈ tree.edges := by
  rcases Customs.edge_of_mem member with ⟨pipe, edge⟩
  refine ⟨pipe, ?_⟩
  simp only [TaskTree.edges, List.mem_append]
  exact .inr (.inr (.inr edge))

theorem TaskTree.sink_edge (member : kid ∈ tree.sink.tree?) :
    ∃ pipe, (Position.sink, pipe, kid) ∈ tree.edges := by
  rcases tree with ⟨id, label, failure, sink, success, customs⟩
  cases sink with
  | vacant => cases member
  | child pipe other =>
      cases member
      refine ⟨pipe, ?_⟩
      simp only [TaskTree.edges, List.mem_append]
      exact .inr (.inl List.mem_cons_self)

theorem ParallelTo.edge {first second : TaskId} (reached : ParallelTo heap first second) :
    Edge heap first .success .parallelism second := by
  rcases reached with ⟨task, next, found, below, position, piped, parent⟩
  refine ⟨task, next, found, below, parent, ?_⟩
  simp [PipelineTask.edges, edgeAt, position, piped]

/-- A child that is reached over `||` is the next item of its chain. -/
theorem Planted.parallelTo_edge (planted : Planted heap above tree) {position : Position}
    {pipe : PipeType} (edge : (position, pipe, kid) ∈ tree.edges) {before : TaskId}
    (reached : ParallelTo heap before kid.id) :
    before = tree.id ∧ position = .success ∧ pipe = .parallelism := by
  have below := planted.stored.child (TaskTree.mem_children_of_edge edge)
  obtain rfl := reached.edge.parent_eq below.record_eq (kid.record_parentNode _)
  rcases planted.stored.exists_of_edge reached.edge with ⟨other, same, otherEdge⟩
  rcases TaskTree.edge_unique planted.nodup otherEdge edge same.symm with ⟨rfl, rfl, _⟩
  exact ⟨rfl, rfl, rfl⟩

theorem TaskTree.success_of_edge {pipe : PipeType}
    (edge : (Position.success, pipe, kid) ∈ tree.edges) : tree.success = .child pipe kid := by
  rcases tree with ⟨id, label, failure, sink, success, customs⟩
  simp only [TaskTree.edges, TaskTree.failure, TaskTree.sink, TaskTree.success,
    TaskTree.customs, List.mem_append] at edge
  rcases edge with edge | edge | edge | edge
  · cases failure with
    | vacant => cases edge
    | child => cases List.mem_singleton.mp edge
  · cases sink with
    | vacant => cases edge
    | child => cases List.mem_singleton.mp edge
  · cases success with
    | vacant => cases edge
    | child =>
        cases List.mem_singleton.mp edge
        rfl
  · cases Customs.position_of_edge edge

theorem Planted.turn (planted : Planted heap above tree) (previous : Option ContextId) :
    ∃ above, Planted heap above (tree.turn previous) := by
  cases previous with
  | none => exact ⟨above, planted⟩
  | some previous =>
      simp only [TaskTree.turn]
      induction tree using TaskTree.group_induction generalizing above with
      | single tree _ _ last =>
          rw [last]
          exact ⟨above, planted⟩
      | parallel id label failure sink next customs induction =>
          refine induction (planted.child ?_)
          rw [TaskTree.mem_children]
          exact .inr (.inr (.inl rfl))

end Ways

theorem TaskTree.members_subset_group (tree : TaskTree) (previous : Option ContextId) :
    tree.members previous ⊆ tree.group := by
  cases previous with
  | none =>
      intro task member
      rw [List.mem_singleton.mp member]
      exact List.mem_of_mem_head? (Option.mem_def.mpr tree.head?_group)
  | some previous => exact List.Subset.refl _

section Parents

variable {heap : Heap} {root : TaskTree} (planted : Planted heap none root)
include planted

theorem Planted.exists_above {child : TaskId} (inside : child ∈ root.ids)
    {parent : TaskId} {position : Position} {pipe : PipeType}
    (edge : Edge heap parent position pipe child) :
    ∃ above tree, Planted heap above tree ∧ tree.id = parent ∧ tree ∈ root.subtrees := by
  rcases TaskTree.exists_subtree inside with ⟨sub, member, rfl⟩
  rcases TaskTree.subtrees_cases member with rfl | ⟨tree, further, hangs⟩
  · rcases edge with ⟨_, record, _, found, linked, _⟩
    rw [planted.stored.record_eq, Option.some_inj] at found
    rw [← found, TaskTree.record_parentNode] at linked
    cases linked
  · rcases planted.subtree further with ⟨above, known⟩
    have below := (known.stored.child hangs).record_eq
    exact ⟨above, tree, known, (edge.parent_eq below (sub.record_parentNode _)).symm, further⟩

theorem Planted.edge_unique_of_mem {child : TaskId} (inside : child ∈ root.ids)
    {parent other : TaskId} {position otherPosition : Position} {pipe otherPipe : PipeType}
    (edge : Edge heap parent position pipe child)
    (otherEdge : Edge heap other otherPosition otherPipe child) :
    parent = other ∧ position = otherPosition ∧ pipe = otherPipe := by
  rcases planted.exists_above inside edge with ⟨above, tree, known, rfl, _⟩
  have same : other = tree.id := by
    rcases edge with ⟨_, record, _, found, linked, _⟩
    exact otherEdge.parent_eq found linked
  subst same
  rcases known.stored.exists_of_edge edge with ⟨kid, rfl, member⟩
  rcases known.stored.exists_of_edge otherEdge with ⟨_, same, otherMember⟩
  rcases TaskTree.edge_unique known.nodup otherMember member same.symm with ⟨rfl, rfl, _⟩
  exact ⟨rfl, rfl, rfl⟩

theorem Planted.mem_ids_of_reflTransGen {first second : TaskId}
    (leads : Relation.ReflTransGen (ParallelTo heap) first second) (inside : second ∈ root.ids) :
    first ∈ root.ids := by
  induction leads using Relation.ReflTransGen.head_induction_on with
  | refl => exact inside
  | head reached _ induction =>
      rcases planted.exists_above induction reached.edge with ⟨_, tree, _, rfl, member⟩
      rw [← root.map_id_subtrees]
      exact List.mem_map_of_mem member

end Parents

theorem Planted.group_length_le {heap : Heap} {tree : TaskTree} {above : Option TaskId}
    (planted : Planted heap above tree) : tree.group.length ≤ heap.size + 1 :=
  calc tree.group.length ≤ tree.ids.length := tree.group_subperm.length_le
    _ ≤ heap.size := planted.stored.length_le_size planted.nodup
    _ ≤ heap.size + 1 := Nat.le_succ _

end EventPipeline
