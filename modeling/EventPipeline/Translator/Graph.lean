import EventPipeline.Translator.Opened

/-! # Complete graphs

What the graph of a tree should hold, and which tasks a walk has to come to for it.
-/

namespace EventPipeline

/-- The statement of a node stands for the group of the task: it is the record of the
group, or the task is alone in its group and the statement is its own. -/
def Declares (heap : Heap) (node : DotNode) (task : TaskId) : Prop :=
  ∃ chain, MaximalChain (ParallelTo heap) chain ∧ task ∈ chain ∧ chain.head? = some node.id ∧
    (node = heap.recordNode node.id chain ∨ chain = [task] ∧ node.label = heap.eventOf task)

/-- The statement of an edge leads from the node of the parent to the node of the child
and is labelled with the descriptor of the child. -/
def Links (heap : Heap) (edge : DotEdge) (parent child : TaskId) : Prop :=
  ∃ left right, MaximalChain (ParallelTo heap) left ∧ parent ∈ left ∧
    left.head? = some edge.source ∧ MaximalChain (ParallelTo heap) right ∧ child ∈ right ∧
    right.head? = some edge.target ∧ edge.taillabel = heap.descriptorOf child

/-- Every task is declared once, every pair of a parent and a child that are not inside of
one group is linked once, and there are no other statements. -/
structure CompleteGraph (heap : Heap) (tasks : List TaskId) (graph : DotState) : Prop where
  nodup : graph.nodes.Nodup ∧ graph.edges.Nodup
  nodes : ∀ task ∈ tasks, ∃! node, node ∈ graph.nodes ∧ Declares heap node task
  onlyNodes : ∀ node ∈ graph.nodes, ∃ task ∈ tasks, Declares heap node task
  edges : ∀ parent ∈ tasks, ∀ child ∈ heap.childrenOf parent, ¬ParallelTo heap parent child →
    ∃! edge, edge ∈ graph.edges ∧ Links heap edge parent child
  onlyEdges : ∀ edge ∈ graph.edges, ∃ parent ∈ tasks, ∃ child ∈ heap.childrenOf parent,
    ¬ParallelTo heap parent child ∧ Links heap edge parent child

/-- The task is in a group that is drawn when the walk comes to the given trees. -/
def Heap.Met (heap : Heap) (trees : List TaskTree) (task : TaskId) : Prop :=
  ∃ sub ∈ trees, task ∈ sub.group ∨ heap.isParallelExecutionNode sub.id = false ∧
    ∃ child ∈ sub.children, heap.isParallelExecutionNode child.id = true ∧ task ∈ child.group

/-- The edges to the children of the task are drawn. -/
def Source (trees : List TaskTree) (task : TaskId) : Prop :=
  ∃ sub ∈ trees, task = sub.last.id

/-- The walk comes to all that is required to be drawn and draws no group twice. -/
structure Heap.Covered (heap : Heap) (Required : TaskTree → Prop) (trees : List TaskTree) :
    Prop where
  heads : ∀ sub ∈ trees, heap.isParallelExecutionNode sub.id = true →
    heap.isSink sub.id = false ∧ sub.isConditional = false
  met : ∀ sub, Required sub → heap.Met trees sub.id
  sources : ∀ sub, Required sub → ∀ child ∈ sub.children,
    ¬ParallelTo heap sub.id child.id → Source trees sub.id

/-! ## Statements of a walk -/

section Statements

variable {heap : Heap} {above : Option TaskId} {tree sub : TaskTree}

theorem Heap.ownNode_id (heap : Heap) (tree : TaskTree) : (heap.ownNode tree).id = tree.id := by
  unfold Heap.ownNode
  split
  · rfl
  · split
    · rfl
    · split <;> rfl

theorem chain_unique {left right : List TaskId} (leftMaximal : MaximalChain (ParallelTo heap) left)
    (rightMaximal : MaximalChain (ParallelTo heap) right) {task : TaskId}
    (leftMember : task ∈ left) (rightMember : task ∈ right) : left = right :=
  leftMaximal.eq_of_mem (parallelTo_rightUnique heap) (parallelTo_leftUnique heap) rightMaximal
    leftMember rightMember

theorem TaskTree.id_mem_group (tree : TaskTree) : tree.id ∈ tree.group :=
  List.mem_of_mem_head? (Option.mem_def.mpr tree.head?_group)

theorem chain_unique_of_head {chain : List TaskId}
    (maximal : MaximalChain (ParallelTo heap) chain)
    (groupMaximal : MaximalChain (ParallelTo heap) sub.group)
    (head : chain.head? = some sub.id) : chain = sub.group :=
  chain_unique maximal groupMaximal (List.mem_of_mem_head? (Option.mem_def.mpr head))
    sub.id_mem_group

theorem Planted.alone_success (planted : Planted heap above sub)
    (alone : heap.isParallelExecutionNode sub.id = false) :
    sub.success.pipe? ≠ some .parallelism := by
  intro parallel
  simp [Heap.isParallelExecutionNode, planted.stored.record_eq, parallel] at alone

theorem Heap.Meets.maximal (meets : heap.Meets sub) :
    MaximalChain (ParallelTo heap) sub.group := by
  by_cases parallel : heap.isParallelExecutionNode sub.id = true
  · exact meets.group_maximal parallel
  · have alone : heap.isParallelExecutionNode sub.id = false := by simpa using parallel
    rcases meets.planted with ⟨_, planted⟩
    rw [TaskTree.group_eq_singleton (planted.alone_success alone)]
    exact maximalChain_of_alone alone

theorem TaskTree.last_id_mem_group (tree : TaskTree) : tree.last.id ∈ tree.group := by
  rw [tree.group_eq]
  simp

theorem TaskTree.last_of_alone (alone : tree.success.pipe? ≠ some .parallelism) :
    tree.last = tree := by
  refine TaskTree.last_eq_self ?_
  rw [TaskTree.group_eq_singleton alone]
  rfl

theorem Heap.Meets.drawnEdges_eq (meets : heap.Meets sub) :
    heap.drawnEdges sub = sub.last.childEdges sub.id := by
  unfold Heap.drawnEdges
  split
  · rfl
  · rename_i parallel
    rcases meets.planted with ⟨_, planted⟩
    rw [TaskTree.last_of_alone (planted.alone_success (by simpa using parallel))]

/-- The statements that are drawn for a task, by the group that they stand for. -/
theorem Heap.mem_drawnNodes {node : DotNode} (drawn : node ∈ heap.drawnNodes sub) :
    node.id = sub.id ∨ heap.isParallelExecutionNode sub.id = false ∧ ∃ child ∈ sub.children,
      heap.isParallelExecutionNode child.id = true ∧
        node = heap.recordNode child.id child.group := by
  unfold Heap.drawnNodes at drawn
  split at drawn
  · rcases List.mem_cons.mp drawn with rfl | drawn
    · exact .inl (heap.ownNode_id sub)
    · rw [List.mem_singleton.mp drawn]
      exact .inl rfl
  · rename_i parallel
    rcases List.mem_cons.mp drawn with rfl | drawn
    · exact .inl (heap.ownNode_id sub)
    · rcases List.mem_map.mp drawn with ⟨child, inside, rfl⟩
      rcases List.mem_filter.mp inside with ⟨member, among⟩
      exact .inr ⟨by simpa using parallel, child, member, among, rfl⟩

theorem TaskTree.eq_of_id {other : TaskTree} (nodup : tree.ids.Nodup)
    (member : sub ∈ tree.subtrees) (otherMember : other ∈ tree.subtrees)
    (same : sub.id = other.id) : sub = other := by
  rw [← tree.map_id_subtrees] at nodup
  exact List.inj_on_of_nodup_map nodup member otherMember same

theorem Planted.parallelTo_child (planted : Planted heap above tree)
    (child : sub ∈ tree.children) {other : TaskId} (reached : ParallelTo heap other sub.id) :
    other = tree.id :=
  reached.edge.parent_eq (planted.child child).stored.record_eq (sub.record_parentNode _)

theorem Planted.child_group_maximal (planted : Planted heap above tree)
    (child : sub ∈ tree.children) (apart : ¬ParallelTo heap tree.id sub.id) :
    MaximalChain (ParallelTo heap) sub.group := by
  refine (planted.child child).stored.group_maximal fun other reached => ?_
  obtain rfl := planted.parallelTo_child child reached
  exact apart reached

theorem Planted.last_apart (planted : Planted heap above tree)
    (alone : tree.success.pipe? ≠ some .parallelism) (other : TaskId) :
    ¬ParallelTo heap tree.id other := by
  rintro ⟨task, _, found, _, _, pipe, _⟩
  rw [planted.stored.record_eq, Option.some_inj] at found
  rw [← found, TaskTree.record_onSuccessPipe] at pipe
  exact alone pipe

end Statements

/-! ## From complete graphs to walks -/

section Complete

variable {heap : Heap} {tree : TaskTree} {trees : List TaskTree}

/-- The graph that a walk over the given trees draws. -/
def Heap.graphOf (heap : Heap) (trees : List TaskTree) : DotState :=
  ⟨[], addAll [] (trees.flatMap heap.drawnNodes), addAll [] (trees.flatMap heap.drawnEdges)⟩

theorem Heap.mem_graph_nodes {node : DotNode} :
    node ∈ (heap.graphOf trees).nodes ↔ ∃ sub ∈ trees, node ∈ heap.drawnNodes sub := by
  simp [Heap.graphOf]

theorem Heap.mem_graph_edges {edge : DotEdge} :
    edge ∈ (heap.graphOf trees).edges ↔ ∃ sub ∈ trees, edge ∈ heap.drawnEdges sub := by
  simp [Heap.graphOf]

variable (planted : Planted heap none tree) (meets : ∀ sub ∈ trees, heap.Meets sub)
include meets

/-- The node of a group with a sink or a conditional task in front is drawn twice. -/
theorem CompleteGraph.heads {tasks : List TaskId}
    (complete : CompleteGraph heap tasks (heap.graphOf trees)) {sub : TaskTree}
    (member : sub ∈ trees) (parallel : heap.isParallelExecutionNode sub.id = true) :
    heap.isSink sub.id = false ∧ sub.isConditional = false := by
  have met := meets sub member
  have drawn : heap.ownNode sub ∈ (heap.graphOf trees).nodes := by
    refine Heap.mem_graph_nodes.mpr ⟨sub, member, ?_⟩
    unfold Heap.drawnNodes
    split <;> exact List.mem_cons_self
  rcases complete.onlyNodes _ drawn with ⟨task, _, chain, maximal, inside, head, kind⟩
  rw [heap.ownNode_id] at head
  obtain rfl := chain_unique_of_head maximal met.maximal head
  rcases kind with record | ⟨alone, _⟩
  · have shape := congrArg DotNode.shape record
    unfold Heap.ownNode at shape
    split at shape
    · cases shape
    · split at shape
      · cases shape
      · rename_i notSink notConditional
        exact ⟨by simpa using notSink, by simpa using notConditional⟩
  · have several := TaskTree.two_le_length_group (met.leads parallel)
    rw [alone] at several
    simp at several

theorem Heap.met_of_declares {node : DotNode} {task : TaskId}
    (drawn : node ∈ (heap.graphOf trees).nodes) (declares : Declares heap node task) :
    heap.Met trees task := by
  rcases Heap.mem_graph_nodes.mp drawn with ⟨sub, member, drawn⟩
  rcases declares with ⟨chain, maximal, inside, head, _⟩
  refine ⟨sub, member, ?_⟩
  rcases Heap.mem_drawnNodes drawn with same | ⟨alone, child, among, parallel, rfl⟩
  · rw [same] at head
    rw [chain_unique_of_head maximal (meets sub member).maximal head] at inside
    exact .inl inside
  · rcases (meets sub member).planted with ⟨_, known⟩
    have whole := known.group_maximal_of_alone alone among
    rw [chain_unique_of_head maximal whole head] at inside
    exact .inr ⟨alone, child, among, parallel, inside⟩

theorem Heap.source_of_links {edge : DotEdge} {sub child : TaskTree} {above : Option TaskId}
    (known : Planted heap above sub) (among : child ∈ sub.children)
    (apart : ¬ParallelTo heap sub.id child.id) (drawn : edge ∈ (heap.graphOf trees).edges)
    (links : Links heap edge sub.id child.id) : Source trees sub.id := by
  rcases Heap.mem_graph_edges.mp drawn with ⟨other, member, drawn⟩
  rw [(meets other member).drawnEdges_eq] at drawn
  rcases List.mem_map.mp drawn with ⟨target, targetAmong, rfl⟩
  rcases links with ⟨left, right, leftMaximal, leftInside, leftHead, rightMaximal, rightInside,
    rightHead, _⟩
  have group := known.child_group_maximal among apart
  have whole := chain_unique rightMaximal group rightInside child.id_mem_group
  rw [whole, child.head?_group, Option.some_inj] at rightHead
  rcases (meets other member).planted with ⟨_, otherPlanted⟩
  rcases otherPlanted.last with ⟨_, last⟩
  have record := (last.child targetAmong).stored.record_eq
  rw [show target.id = child.id from rightHead.symm, (known.child among).stored.record_eq,
    Option.some_inj] at record
  have parents := congrArg PipelineTask.parentNode record
  rw [TaskTree.record_parentNode, TaskTree.record_parentNode, Option.some_inj] at parents
  exact ⟨other, member, parents⟩

include planted

theorem CompleteGraph.covered
    (complete : CompleteGraph heap tree.ids (heap.graphOf trees)) :
    heap.Covered (· ∈ tree.subtrees) trees := by
  have inside : ∀ sub ∈ tree.subtrees, sub.id ∈ tree.ids := by
    intro sub member
    rw [← tree.map_id_subtrees]
    exact List.mem_map_of_mem member
  refine ⟨fun sub member => complete.heads meets member, fun sub member => ?_,
    fun sub member child among apart => ?_⟩
  · rcases complete.nodes sub.id (inside sub member) with ⟨node, ⟨drawn, declares⟩, _⟩
    exact Heap.met_of_declares meets drawn declares
  · rcases planted.subtree member with ⟨_, known⟩
    have listed : child.id ∈ heap.childrenOf sub.id := by
      rw [known.childrenOf_eq]
      exact List.mem_map_of_mem among
    rcases complete.edges sub.id (inside sub member) child.id listed apart with
      ⟨edge, ⟨drawn, links⟩, _⟩
    exact Heap.source_of_links meets known among apart drawn links

end Complete

/-! ## From walks to complete graphs -/

section Drawn

variable {heap : Heap} {tree sub : TaskTree} {trees : List TaskTree}

def Heap.groupNode (heap : Heap) (tree : TaskTree) : DotNode :=
  if heap.isParallelExecutionNode tree.id then heap.recordNode tree.id tree.group
  else heap.ownNode tree

theorem Heap.groupNode_id (heap : Heap) (tree : TaskTree) :
    (heap.groupNode tree).id = tree.id := by
  unfold Heap.groupNode
  split
  · rfl
  · exact heap.ownNode_id tree

theorem declares_groupNode {above : Option TaskId} (planted : Planted heap above sub)
    (maximal : MaximalChain (ParallelTo heap) sub.group) {task : TaskId}
    (member : task ∈ sub.group) : Declares heap (heap.groupNode sub) task := by
  refine ⟨sub.group, maximal, member, ?_, ?_⟩
  · rw [heap.groupNode_id, sub.head?_group]
  · unfold Heap.groupNode
    split
    · exact .inl rfl
    · rename_i parallel
      have alone : heap.isParallelExecutionNode sub.id = false := by simpa using parallel
      have single := TaskTree.group_eq_singleton (planted.alone_success alone)
      rw [single, List.mem_singleton] at member
      subst member
      refine .inr ⟨single, ?_⟩
      rw [planted.eventOf_eq]
      unfold Heap.ownNode
      split
      · rfl
      · split
        · rfl
        · rfl

theorem Links.unique {edge other : DotEdge} {parent child : TaskId}
    (links : Links heap edge parent child) (otherLinks : Links heap other parent child) :
    edge = other := by
  rcases edge with ⟨source, target, taillabel⟩
  rcases other with ⟨otherSource, otherTarget, otherTaillabel⟩
  rcases links with ⟨left, right, leftMaximal, leftInside, leftHead, rightMaximal, rightInside,
    rightHead, label⟩
  rcases otherLinks with ⟨otherLeft, otherRight, otherLeftMaximal, otherLeftInside, otherLeftHead,
    otherRightMaximal, otherRightInside, otherRightHead, otherLabel⟩
  obtain rfl := chain_unique leftMaximal otherLeftMaximal leftInside otherLeftInside
  obtain rfl := chain_unique rightMaximal otherRightMaximal rightInside otherRightInside
  have sources := Option.some_inj.mp (leftHead.symm.trans otherLeftHead)
  have targets := Option.some_inj.mp (rightHead.symm.trans otherRightHead)
  have labels := label.trans otherLabel.symm
  simp only at sources targets labels
  rw [sources, targets, labels]

section Covers

variable (planted : Planted heap none tree) (inside : trees ⊆ tree.subtrees)
  (meets : ∀ sub ∈ trees, heap.Meets sub)
  (covered : heap.Covered (· ∈ tree.subtrees) trees)
include planted inside meets covered

omit planted in
theorem Heap.Covered.stands {node : DotNode} (drawn : node ∈ (heap.graphOf trees).nodes) :
    ∃ sub ∈ tree.subtrees, MaximalChain (ParallelTo heap) sub.group ∧
      node = heap.groupNode sub := by
  rcases Heap.mem_graph_nodes.mp drawn with ⟨sub, member, drawn⟩
  have whole := (meets sub member).maximal
  unfold Heap.drawnNodes at drawn
  split at drawn
  · rename_i parallel
    have heads := covered.heads sub member parallel
    have own : heap.ownNode sub = heap.recordNode sub.id sub.group := by
      simp [Heap.ownNode, heads, parallel]
    have record : heap.groupNode sub = heap.recordNode sub.id sub.group := if_pos parallel
    refine ⟨sub, inside member, whole, ?_⟩
    rw [own] at drawn
    rw [record]
    simpa using drawn
  · rename_i parallel
    rcases List.mem_cons.mp drawn with rfl | drawn
    · exact ⟨sub, inside member, whole, (if_neg parallel).symm⟩
    · rcases List.mem_map.mp drawn with ⟨child, filtered, rfl⟩
      rcases List.mem_filter.mp filtered with ⟨among, childParallel⟩
      rcases (meets sub member).planted with ⟨_, known⟩
      refine ⟨child, TaskTree.subtrees_trans (inside member) ?_,
        known.group_maximal_of_alone (by simpa using parallel) among,
        (if_pos childParallel).symm⟩
      exact TaskTree.mem_subtrees_of_child among child.self_mem_subtrees

omit planted inside in
theorem Heap.Covered.declared {task : TaskId} (member : task ∈ tree.ids) :
    ∃ node ∈ (heap.graphOf trees).nodes, Declares heap node task := by
  rcases TaskTree.exists_subtree member with ⟨sub, among, rfl⟩
  rcases covered.met sub among with ⟨met, visited, here | ⟨alone, child, below, parallel, here⟩⟩
  · rcases (meets met visited).planted with ⟨_, known⟩
    refine ⟨heap.groupNode met, Heap.mem_graph_nodes.mpr ⟨met, visited, ?_⟩,
      declares_groupNode known (meets met visited).maximal here⟩
    unfold Heap.groupNode Heap.drawnNodes
    split <;> simp
  · rcases (meets met visited).planted with ⟨_, known⟩
    have whole := known.group_maximal_of_alone alone below
    have record : heap.groupNode child = heap.recordNode child.id child.group := if_pos parallel
    refine ⟨heap.groupNode child, Heap.mem_graph_nodes.mpr ⟨met, visited, ?_⟩,
      declares_groupNode (known.child below) whole here⟩
    rw [record, Heap.drawnNodes, if_neg (by simp [alone])]
    refine List.mem_cons_of_mem _ (List.mem_map.mpr ⟨child, ?_, rfl⟩)
    exact List.mem_filter.mpr ⟨below, parallel⟩

theorem Heap.Covered.declared_once {node other : DotNode} {task : TaskId}
    (drawn : node ∈ (heap.graphOf trees).nodes) (declares : Declares heap node task)
    (otherDrawn : other ∈ (heap.graphOf trees).nodes)
    (otherDeclares : Declares heap other task) : node = other := by
  rcases covered.stands inside meets drawn with ⟨sub, among, whole, rfl⟩
  rcases covered.stands inside meets otherDrawn with
    ⟨otherSub, otherAmong, otherWhole, rfl⟩
  rcases declares with ⟨chain, maximal, member, head, _⟩
  rcases otherDeclares with ⟨otherChain, otherMaximal, otherMember, otherHead, _⟩
  obtain rfl := chain_unique maximal otherMaximal member otherMember
  rw [heap.groupNode_id] at head otherHead
  have same := Option.some_inj.mp (head.symm.trans otherHead)
  rw [TaskTree.eq_of_id planted.nodup among otherAmong same]

theorem Heap.Covered.complete : CompleteGraph heap tree.ids (heap.graphOf trees) := by
  have listed : ∀ {sub : TaskTree}, sub ∈ tree.subtrees → sub.id ∈ tree.ids := by
    intro sub member
    rw [← tree.map_id_subtrees]
    exact List.mem_map_of_mem member
  refine ⟨⟨nodup_addAll List.nodup_nil _, nodup_addAll List.nodup_nil _⟩, ?_, ?_, ?_, ?_⟩
  · intro task member
    rcases covered.declared meets member with ⟨node, drawn, declares⟩
    refine ⟨node, ⟨drawn, declares⟩, fun other second => ?_⟩
    exact covered.declared_once planted inside meets second.1 second.2 drawn declares
  · intro node drawn
    rcases covered.stands inside meets drawn with ⟨sub, among, whole, rfl⟩
    rcases planted.subtree among with ⟨_, known⟩
    exact ⟨sub.id, listed among, declares_groupNode known whole sub.id_mem_group⟩
  · intro parent member child below apart
    rcases TaskTree.exists_subtree member with ⟨sub, among, rfl⟩
    rcases planted.subtree among with ⟨_, known⟩
    rw [known.childrenOf_eq] at below
    rcases List.mem_map.mp below with ⟨kid, hangs, rfl⟩
    rcases covered.sources sub among kid hangs apart with ⟨met, visited, ends⟩
    have lastIn := TaskTree.subtrees_trans (inside visited) met.last_mem_subtrees
    have same := TaskTree.eq_of_id planted.nodup among lastIn ends
    have links : Links heap ⟨met.id, kid.id, kid.label.descriptor⟩ sub.id kid.id := by
      refine ⟨met.group, kid.group, (meets met visited).maximal, ?_, met.head?_group,
        known.child_group_maximal hangs apart, kid.id_mem_group, kid.head?_group, ?_⟩
      · rw [ends]
        exact met.last_id_mem_group
      · exact (known.child hangs).descriptorOf_eq.symm
    refine ⟨⟨met.id, kid.id, kid.label.descriptor⟩, ⟨?_, links⟩, fun other second => ?_⟩
    · refine Heap.mem_graph_edges.mpr ⟨met, visited, ?_⟩
      rw [(meets met visited).drawnEdges_eq, ← same]
      exact List.mem_map_of_mem hangs
    · exact second.2.unique links
  · intro edge drawn
    rcases Heap.mem_graph_edges.mp drawn with ⟨met, visited, drawn⟩
    rw [(meets met visited).drawnEdges_eq] at drawn
    rcases List.mem_map.mp drawn with ⟨kid, hangs, rfl⟩
    have lastIn := TaskTree.subtrees_trans (inside visited) met.last_mem_subtrees
    rcases planted.subtree lastIn with ⟨_, known⟩
    have apart := known.last_apart met.last_success kid.id
    refine ⟨met.last.id, listed lastIn, kid.id, ?_, apart, met.group, kid.group,
      (meets met visited).maximal, met.last_id_mem_group, met.head?_group,
      known.child_group_maximal hangs apart, kid.id_mem_group, kid.head?_group,
      (known.child hangs).descriptorOf_eq.symm⟩
    rw [known.childrenOf_eq]
    exact List.mem_map_of_mem hangs

end Covers

end Drawn

end EventPipeline
