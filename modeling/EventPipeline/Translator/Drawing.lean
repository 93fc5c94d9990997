import EventPipeline.Translator.Dot

/-! # What one iteration draws

The statements that an iteration of `generate_dot_from_task_state` adds for a task of
the tree of a script, and the walk that it leaves.
-/

namespace EventPipeline

theorem Slot.map_id_toList (slot : Slot) :
    slot.tree?.toList.map TaskTree.id = slot.id?.toList := by
  cases slot <;> rfl

theorem Customs.map_id_trees (customs : Customs) :
    customs.trees.map TaskTree.id = customs.heads := by
  cases customs with
  | nil => rfl
  | cons descriptor pipe tree rest =>
      exact congrArg (List.cons tree.id) (Customs.map_id_trees rest)

theorem TaskTree.getChildren_eq (parent : Option TaskId) (tree : TaskTree) :
    (tree.record parent).getChildren = tree.children.map TaskTree.id := by
  rw [TaskTree.record_getChildren]
  simp only [TaskTree.children, List.map_append, Slot.map_id_toList, Customs.map_id_trees,
    List.append_assoc]

/-! ## Statements -/

/-- The statement that a task is drawn with when the walk comes to it. -/
def Heap.ownNode (heap : Heap) (tree : TaskTree) : DotNode :=
  if heap.isSink tree.id then ⟨tree.id, tree.label.event, .box⟩
  else if tree.isConditional then ⟨tree.id, tree.label.event, .diamond⟩
  else if heap.isParallelExecutionNode tree.id then heap.recordNode tree.id tree.group
  else ⟨tree.id, tree.label.event, .circle⟩

/-- The statements of the groups among the children. -/
def Heap.childNodes (heap : Heap) (tree : TaskTree) : List DotNode :=
  (tree.children.filter fun child => heap.isParallelExecutionNode child.id).map fun child =>
    heap.recordNode child.id child.group

/-- The edges to the children, from the node of the given task. -/
def TaskTree.childEdges (source : TaskId) (tree : TaskTree) : List DotEdge :=
  tree.children.map fun child => ⟨source, child.id, child.label.descriptor⟩

section Steps

variable {heap : Heap} {above : Option TaskId} {tree : TaskTree}
  (planted : Planted heap above tree)
include planted

theorem Planted.eventOf_eq : heap.eventOf tree.id = tree.label.event := by
  rcases tree with ⟨id, label, failure, sink, success, customs⟩
  simp [Heap.eventOf, TaskTree.id, planted.stored.1, TaskTree.record, TaskTree.label]

theorem Planted.descriptorOf_eq : heap.descriptorOf tree.id = tree.label.descriptor := by
  rw [Heap.descriptorOf, planted.stored.record_eq, Option.bind_some, TaskTree.record_descriptor]

theorem Planted.childrenOf_eq : heap.childrenOf tree.id = tree.children.map TaskTree.id := by
  simp [Heap.childrenOf, planted.stored.record_eq, TaskTree.getChildren_eq]

theorem Planted.getParallelNodes_eq : heap.getParallelNodes tree.id =
    .ok (if heap.isParallelExecutionNode tree.id then some tree.group else none) :=
  planted.stored.getParallelNodes_eq planted.group_length_le

omit planted in
theorem TaskTree.group_cons (tree : TaskTree) : ∃ rest, tree.group = tree.id :: rest := by
  cases tree
  exact ⟨_, rfl⟩

theorem Planted.getDotNodeData_eq :
    heap.getDotNodeData tree.id = .ok (some (heap.ownNode tree)) := by
  have conditional : (heap.get? tree.id).any PipelineTask.isConditional = tree.isConditional := by
    rw [planted.stored.record_eq, Option.any_some, TaskTree.record_isConditional]
  rcases tree.group_cons with ⟨rest, group⟩
  unfold Heap.getDotNodeData Heap.ownNode
  rw [conditional, planted.getParallelNodes_eq, planted.eventOf_eq]
  split
  · rfl
  · split
    · rfl
    · split
      · rw [group]
        rfl
      · rfl

theorem Planted.childStatements_eq {child : TaskTree} (member : child ∈ tree.children) :
    heap.childStatements tree.id child.id =
      .ok (if heap.isParallelExecutionNode child.id then [heap.recordNode child.id child.group]
          else [], [⟨tree.id, child.id, child.label.descriptor⟩]) := by
  have below := planted.child member
  rcases child.group_cons with ⟨rest, group⟩
  unfold Heap.childStatements
  rw [below.getParallelNodes_eq]
  split
  · simp only [bind, Except.bind, pure, Except.pure, group, Heap.processParallelNodes]
    rw [below.descriptorOf_eq]
    rfl
  · simp only [bind, Except.bind, pure, Except.pure, below.descriptorOf_eq]

theorem Planted.traverse_eq : traverse heap tree.id = .ok tree.ids := by
  rw [traverse, planted.stored.bfTraversal_eq planted.nodup]

theorem Planted.drawChildren_eq (state : DotState) :
    drawChildren heap state tree.id = .ok { state with
      nodes := addAll state.nodes (heap.childNodes tree)
      edges := addAll state.edges (tree.childEdges tree.id) } := by
  have statements := mapM_eq_ok fun child member =>
    @Planted.childStatements_eq _ _ _ planted child member
  have nodes : ∀ children : List TaskTree,
      (children.flatMap fun child =>
        if heap.isParallelExecutionNode child.id then [heap.recordNode child.id child.group]
        else []) =
      (children.filter fun child => heap.isParallelExecutionNode child.id).map fun child =>
        heap.recordNode child.id child.group := by
    intro children
    induction children with
    | nil => rfl
    | cons child rest induction =>
        rw [List.flatMap_cons, induction, List.filter_cons]
        split <;> rfl
  rw [drawChildren, planted.childrenOf_eq, List.mapM_map]
  rw [show (heap.childStatements tree.id ∘ TaskTree.id) =
    fun child => heap.childStatements tree.id child.id from rfl, statements]
  simp only [bind, Except.bind, pure, Except.pure, List.flatMap_map, nodes, Heap.childNodes,
    TaskTree.childEdges]
  rw [← List.map_eq_flatMap]

/-! ## Iterations -/

variable (rest : List TaskId) (nodes : List DotNode) (edges : List DotEdge)

omit planted in
theorem dotStep_skip {id : TaskId} (skipped : heap.isSkipped id = true) :
    dotStep heap ⟨id :: rest, nodes, edges⟩ = .ok (some ⟨rest, nodes, edges⟩) := by
  simp [dotStep, skipped]

/-- A task outside of parallel groups is drawn with the edges to its children. -/
theorem Planted.dotStep_plain (met : heap.isSkipped tree.id = false)
    (alone : heap.isParallelExecutionNode tree.id = false) :
    dotStep heap ⟨tree.id :: rest, nodes, edges⟩ =
      .ok (some ⟨rest, addAll nodes (heap.ownNode tree :: heap.childNodes tree),
        addAll edges (tree.childEdges tree.id)⟩) := by
  simp only [dotStep, met, Bool.false_eq_true, if_false, planted.getDotNodeData_eq,
    planted.getParallelNodes_eq, alone, bind, Except.bind, planted.drawChildren_eq]
  rfl

/-- A parallel task is drawn with its group, and the walk starts again at the last task. -/
theorem Planted.dotStep_group (met : heap.isSkipped tree.id = false)
    (parallel : heap.isParallelExecutionNode tree.id = true) :
    dotStep heap ⟨tree.id :: rest, nodes, edges⟩ =
      .ok (some ⟨tree.last.ids,
        addAll nodes [heap.ownNode tree, heap.recordNode tree.id tree.group],
        addAll edges (tree.last.childEdges tree.id)⟩) := by
  rcases planted.turn (some 0) with ⟨_, last⟩
  have last : Planted heap _ tree.last := last
  rcases tree.group_cons with ⟨others, group⟩
  have ends : tree.group.getLast? = some tree.last.id := by
    rw [tree.group_eq, List.getLast?_concat]
  have drawn : heap.processParallelNodes tree.group =
      some (heap.recordNode tree.id tree.group) := by
    rw [group]
    rfl
  have outgoing : (heap.childrenOf tree.last.id).map
      (fun child => (⟨tree.id, child, heap.descriptorOf child⟩ : DotEdge)) =
        tree.last.childEdges tree.id := by
    rw [last.childrenOf_eq, List.map_map, TaskTree.childEdges]
    refine List.map_congr_left fun child member => ?_
    simp only [Function.comp_apply, (last.child member).descriptorOf_eq]
  simp only [dotStep, met, Bool.false_eq_true, if_false, planted.getDotNodeData_eq,
    planted.getParallelNodes_eq, parallel, if_true, bind, Except.bind, drawn, ends, drawGroup,
    last.traverse_eq, Heap.recordNode, pure, Except.pure]
  rw [outgoing]
  rfl

end Steps

end EventPipeline
