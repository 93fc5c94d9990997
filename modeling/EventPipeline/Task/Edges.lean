import EventPipeline.Task.Scripted

/-! # Edges between tasks

The positions at which a task keeps its children, with the pipes that lead to them.
In the tree of a script every child has one position below its parent, and
`get_pointer_type_to_this_event` finds the pipe of that position.
-/

namespace EventPipeline

open EventPipeline.Parser

/-- Where a task keeps a child. -/
inductive Position
  | failure
  | sink
  | success
  | custom
deriving DecidableEq, Repr

def edgeAt (position : Position) (pipe : Option PipeType) (child : Option TaskId) :
    List (Position × PipeType × TaskId) :=
  match pipe, child with
  | some pipe, some child => [(position, pipe, child)]
  | _, _ => []

/-- The children with their positions and pipes, in the order of `get_children`. -/
def PipelineTask.edges (task : PipelineTask) : List (Position × PipeType × TaskId) :=
  edgeAt .failure task.onFailurePipe task.onFailureEvent ++
    (edgeAt .sink task.sinkPipe task.sinkNode ++
      (edgeAt .success task.onSuccessPipe task.onSuccessEvent ++
        task.extraConfig.getDescriptors.map fun config => (.custom, config.pipe, config.task)))

/-- The second task hangs below the first one. -/
def Edge (heap : Heap) (parent : TaskId) (position : Position) (pipe : PipeType) (child : TaskId) :
    Prop :=
  ∃ task below, heap.get? parent = some task ∧ heap.get? child = some below ∧
    below.parentNode = some parent ∧ (position, pipe, child) ∈ task.edges

theorem Edge.parent_eq {heap : Heap} {parent other child : TaskId} {position : Position}
    {pipe : PipeType} {record : PipelineTask} (edge : Edge heap parent position pipe child)
    (found : heap.get? child = some record) (below : record.parentNode = some other) :
    parent = other := by
  rcases edge with ⟨_, same, _, sameFound, sameBelow, _⟩
  rw [found, Option.some_inj] at sameFound
  rw [← sameFound, below, Option.some_inj] at sameBelow
  exact sameBelow.symm

/-! ## Edges of trees -/

def Slot.edges (position : Position) : Slot → List (Position × PipeType × TaskTree)
  | .vacant => []
  | .child pipe tree => [(position, pipe, tree)]

def Customs.edges : Customs → List (Position × PipeType × TaskTree)
  | .nil => []
  | .cons _ pipe tree rest => (.custom, pipe, tree) :: rest.edges

def TaskTree.edges (tree : TaskTree) : List (Position × PipeType × TaskTree) :=
  tree.failure.edges .failure ++ (tree.sink.edges .sink ++
    (tree.success.edges .success ++ tree.customs.edges))

theorem Slot.edges_trees (position : Position) (slot : Slot) :
    (slot.edges position).map (fun edge => edge.2.2) = slot.tree?.toList := by
  cases slot <;> rfl

theorem Customs.edges_trees (customs : Customs) :
    customs.edges.map (fun edge => edge.2.2) = customs.trees := by
  cases customs with
  | nil => rfl
  | cons descriptor pipe tree rest => exact congrArg (List.cons tree) (Customs.edges_trees rest)

theorem TaskTree.edges_children (tree : TaskTree) :
    tree.edges.map (fun edge => edge.2.2) = tree.children := by
  simp only [TaskTree.edges, List.map_append, Slot.edges_trees, Customs.edges_trees,
    TaskTree.children]

theorem TaskTree.mem_children_of_edge {tree kid : TaskTree} {position : Position} {pipe : PipeType}
    (edge : (position, pipe, kid) ∈ tree.edges) : kid ∈ tree.children := by
  rw [← tree.edges_children]
  exact List.mem_map_of_mem edge

theorem Slot.edgeAt_eq (position : Position) (slot : Slot) :
    edgeAt position slot.pipe? slot.id? =
      (slot.edges position).map fun edge => (edge.1, edge.2.1, edge.2.2.id) := by
  cases slot <;> rfl

theorem Customs.edges_configs (customs : Customs) :
    (customs.configs.map Prod.snd).map
        (fun config => (Position.custom, config.pipe, config.task)) =
      customs.edges.map fun edge => (edge.1, edge.2.1, edge.2.2.id) := by
  cases customs with
  | nil => rfl
  | cons descriptor pipe tree rest =>
      exact congrArg (List.cons (Position.custom, pipe, tree.id)) (Customs.edges_configs rest)

theorem TaskTree.record_edges (parent : Option TaskId) (tree : TaskTree) :
    (tree.record parent).edges =
      tree.edges.map fun edge => (edge.1, edge.2.1, edge.2.2.id) := by
  rcases tree with ⟨id, label, failure, sink, success, customs⟩
  simp only [TaskTree.record, PipelineTask.edges, Slot.edgeAt_eq,
    ExtraPipelineTaskConfig.getDescriptors, Customs.edges_configs, TaskTree.edges,
    TaskTree.failure, TaskTree.sink, TaskTree.success, TaskTree.customs, List.map_append]

theorem TaskTree.nodup_children_ids {tree : TaskTree} (nodup : tree.ids.Nodup) :
    (tree.children.map TaskTree.id).Nodup := by
  have heads : (tree.children.map TaskTree.id).Sublist
      (tree.children.flatMap TaskTree.ids) := by
    induction tree.children with
    | nil => exact List.nil_sublist _
    | cons child rest induction =>
        rw [List.map_cons, List.flatMap_cons, ← List.singleton_append]
        exact (List.singleton_sublist.mpr child.id_mem_ids).append induction
  rw [tree.ids_eq] at nodup
  exact (List.nodup_cons.mp nodup).2.sublist heads

theorem TaskTree.edge_unique {tree kid other : TaskTree} {position otherPosition : Position}
    {pipe otherPipe : PipeType} (nodup : tree.ids.Nodup) (edge : (position, pipe, kid) ∈ tree.edges)
    (otherEdge : (otherPosition, otherPipe, other) ∈ tree.edges) (same : other.id = kid.id) :
    otherPosition = position ∧ otherPipe = pipe ∧ other = kid := by
  have distinct := TaskTree.nodup_children_ids nodup
  rw [← tree.edges_children, List.map_map] at distinct
  have equal := List.inj_on_of_nodup_map distinct otherEdge edge same
  simpa using equal

section Stored

variable {heap : Heap} {above : Option TaskId} {tree : TaskTree}
  (stored : tree.Stored heap above)
include stored

theorem TaskTree.Stored.edge {kid : TaskTree} {position : Position} {pipe : PipeType}
    (member : (position, pipe, kid) ∈ tree.edges) : Edge heap tree.id position pipe kid.id := by
  have below := stored.child (TaskTree.mem_children_of_edge member)
  refine ⟨_, _, stored.record_eq, below.record_eq, kid.record_parentNode _, ?_⟩
  rw [TaskTree.record_edges]
  exact List.mem_map_of_mem (f := fun edge => (edge.1, edge.2.1, edge.2.2.id)) member

theorem TaskTree.Stored.exists_of_edge {child : TaskId} {position : Position} {pipe : PipeType}
    (edge : Edge heap tree.id position pipe child) :
    ∃ kid, kid.id = child ∧ (position, pipe, kid) ∈ tree.edges := by
  rcases edge with ⟨task, _, found, _, _, member⟩
  rw [stored.record_eq, Option.some_inj] at found
  rw [← found, TaskTree.record_edges] at member
  rcases List.mem_map.mp member with ⟨⟨position, pipe, kid⟩, inside, same⟩
  cases same
  exact ⟨kid, rfl, inside⟩

end Stored

/-! ## Pointer types -/

theorem Customs.get_of_edge {tree : TaskTree} {position : Position} {pipe : PipeType} :
    ∀ {customs : Customs}, customs.keys.Nodup → customs.Scripted →
      (position, pipe, tree) ∈ customs.edges →
      ∃ key, tree.label.descriptor = some key ∧
        OrderedDict.get key customs.configs = some ⟨key, pipe, tree.id⟩
  | .cons key _ _ rest, nodup, scripted, member => by
      rcases List.mem_cons.mp member with same | member
      · cases same
        exact ⟨key, scripted.1, by simp [Customs.configs, OrderedDict.get]⟩
      · have parts := List.nodup_cons.mp nodup
        rcases Customs.get_of_edge parts.2 scripted.2.2.2.2 member with ⟨other, keyed, found⟩
        refine ⟨other, keyed, ?_⟩
        have different : key ≠ other := by
          rintro rfl
          refine parts.1 (List.mem_map.mpr ⟨_, OrderedDict.mem_of_get found, rfl⟩)
        simpa [Customs.configs, OrderedDict.get, different] using found

theorem Customs.position_of_edge {position : Position} {pipe : PipeType} {tree : TaskTree} :
    ∀ {customs : Customs}, (position, pipe, tree) ∈ customs.edges → position = .custom
  | .cons _ _ _ _, member => by
      rcases List.mem_cons.mp member with same | member
      · cases same
        rfl
      · exact Customs.position_of_edge member

theorem pointer_custom {heap : Heap} {id child : TaskId} {task record : PipelineTask}
    {key : Nat} {config : DescriptorConfig} (found : heap.get? id = some task)
    (below : heap.get? child = some record) (parent : record.parentNode = some id)
    (notSuccess : task.onSuccessEvent ≠ some child)
    (notFailure : task.onFailureEvent ≠ some child) (notSink : task.sinkNode ≠ some child)
    (keyed : record.descriptor = some key)
    (configured : task.extraConfig.getDescriptorConfig key = some config) :
    heap.getPointerTypeToThisEvent child = some (.pipe config.pipe) := by
  simp [Heap.getPointerTypeToThisEvent, below, parent, found, notSuccess, notFailure, notSink,
    keyed, configured]

theorem TaskTree.record_descriptor (parent : Option TaskId) (tree : TaskTree) :
    (tree.record parent).descriptor = tree.label.descriptor := by
  cases tree
  rfl

theorem TaskTree.Stored.pointer_of_edge {heap : Heap} {above : Option TaskId}
    {tree kid : TaskTree} {position : Position} {pipe : PipeType} (stored : tree.Stored heap above)
    (nodup : tree.ids.Nodup) (scripted : tree.Scripted)
    (edge : (position, pipe, kid) ∈ tree.edges) :
    heap.getPointerTypeToThisEvent kid.id = some (.pipe pipe) := by
  have below := stored.child (TaskTree.mem_children_of_edge edge)
  have unique := fun otherPosition otherPipe other => @TaskTree.edge_unique tree kid other position
    otherPosition pipe otherPipe nodup edge
  rcases tree with ⟨id, label, failure, sink, success, customs⟩
  have elsewhere : ∀ (otherPosition : Position) (slot : Slot), otherPosition ≠ position →
      (∀ entry ∈ slot.edges otherPosition,
        entry ∈ (TaskTree.node id label failure sink success customs).edges) →
      slot.id? ≠ some kid.id := by
    intro otherPosition slot different inside same
    cases slot with
    | vacant => cases same
    | child otherPipe other =>
        have found := unique otherPosition otherPipe other (inside _ List.mem_cons_self)
          (Option.some_inj.mp same)
        exact different found.1
  have notSuccess : Position.success ≠ position → success.id? ≠ some kid.id := fun different =>
    elsewhere _ _ different fun entry member => by
      simp only [TaskTree.edges, TaskTree.success, List.mem_append]
      exact .inr (.inr (.inl member))
  have notFailure : Position.failure ≠ position → failure.id? ≠ some kid.id := fun different =>
    elsewhere _ _ different fun entry member => by
      simp only [TaskTree.edges, TaskTree.failure, List.mem_append]
      exact .inl member
  have notSink : Position.sink ≠ position → sink.id? ≠ some kid.id := fun different =>
    elsewhere _ _ different fun entry member => by
      simp only [TaskTree.edges, TaskTree.sink, List.mem_append]
      exact .inr (.inl member)
  have linked := kid.record_parentNode (some id)
  simp only [TaskTree.edges, TaskTree.failure, TaskTree.sink, TaskTree.success,
    TaskTree.customs, List.mem_append] at edge
  rcases edge with edge | edge | edge | edge
  · cases failure with
    | vacant => cases edge
    | child otherPipe other =>
        cases List.mem_singleton.mp edge
        exact pointer_failure stored.1 below.record_eq linked (notSuccess (by simp)) rfl rfl
  · cases sink with
    | vacant => cases edge
    | child otherPipe other =>
        cases List.mem_singleton.mp edge
        exact pointer_sink stored.1 below.record_eq linked (notSuccess (by simp))
          (notFailure (by simp)) rfl rfl
  · cases success with
    | vacant => cases edge
    | child otherPipe other =>
        cases List.mem_singleton.mp edge
        exact pointer_success stored.1 below.record_eq linked rfl rfl
  · rcases Customs.get_of_edge scripted.2.2.1 scripted.2.2.2.2.2.2 edge with ⟨key, keyed, found⟩
    obtain rfl := Customs.position_of_edge edge
    have recorded := (kid.record_descriptor (some id)).trans keyed
    exact pointer_custom stored.1 below.record_eq linked (notSuccess (by simp))
      (notFailure (by simp)) (notSink (by simp)) recorded found

end EventPipeline
