import EventPipeline.Task.Proper

/-! # Subtrees

The trees below the tasks of a tree. What holds of a tree and is handed down to
the trees of its children holds at every task of the tree.
-/

namespace EventPipeline

def Customs.trees : Customs → List TaskTree
  | .nil => []
  | .cons _ _ tree rest => tree :: rest.trees

/-- The trees of the children, in the order of `get_children`. -/
def TaskTree.children (tree : TaskTree) : List TaskTree :=
  tree.failure.tree?.toList ++ (tree.sink.tree?.toList ++
    (tree.success.tree?.toList ++ tree.customs.trees))

mutual
/-- The trees of all tasks, in the order of `bf_traversal`. -/
def TaskTree.subtrees : TaskTree → List TaskTree
  | .node id label failure sink success customs =>
      .node id label failure sink success customs ::
        (failure.subtrees ++ (sink.subtrees ++ (success.subtrees ++ customs.subtrees)))

def Slot.subtrees : Slot → List TaskTree
  | .vacant => []
  | .child _ tree => tree.subtrees

def Customs.subtrees : Customs → List TaskTree
  | .nil => []
  | .cons _ _ tree rest => tree.subtrees ++ rest.subtrees
end

theorem Slot.subtrees_eq (slot : Slot) :
    slot.subtrees = slot.tree?.toList.flatMap TaskTree.subtrees := by
  cases slot <;> simp [Slot.subtrees, Slot.tree?]

theorem Customs.subtrees_eq (customs : Customs) :
    customs.subtrees = customs.trees.flatMap TaskTree.subtrees := by
  cases customs with
  | nil => rfl
  | cons descriptor pipe tree rest =>
      rw [Customs.subtrees, Customs.subtrees_eq rest]
      rfl

theorem TaskTree.subtrees_eq (tree : TaskTree) :
    tree.subtrees = tree :: tree.children.flatMap TaskTree.subtrees := by
  rcases tree with ⟨id, label, failure, sink, success, customs⟩
  simp only [TaskTree.subtrees, TaskTree.children, TaskTree.failure, TaskTree.sink,
    TaskTree.success, TaskTree.customs, List.flatMap_append, ← Slot.subtrees_eq,
    ← Customs.subtrees_eq]

mutual
theorem TaskTree.map_id_subtrees : ∀ tree : TaskTree,
    tree.subtrees.map TaskTree.id = tree.ids
  | .node id label failure sink success customs => by
      simp only [TaskTree.subtrees, TaskTree.ids, List.map_cons, List.map_append,
        failure.map_id_subtrees, sink.map_id_subtrees, success.map_id_subtrees,
        customs.map_id_subtrees, TaskTree.id]

theorem Slot.map_id_subtrees : ∀ slot : Slot, slot.subtrees.map TaskTree.id = slot.ids
  | .vacant => rfl
  | .child _ tree => tree.map_id_subtrees

theorem Customs.map_id_subtrees : ∀ customs : Customs,
    customs.subtrees.map TaskTree.id = customs.ids
  | .nil => rfl
  | .cons _ _ tree rest => by
      simp only [Customs.subtrees, Customs.ids, List.map_append, tree.map_id_subtrees,
        rest.map_id_subtrees]
end

theorem TaskTree.exists_subtree {tree : TaskTree} {id : TaskId} (member : id ∈ tree.ids) :
    ∃ sub ∈ tree.subtrees, sub.id = id := by
  rw [← tree.map_id_subtrees] at member
  exact List.mem_map.mp member

theorem TaskTree.ids_eq (tree : TaskTree) :
    tree.ids = tree.id :: tree.children.flatMap TaskTree.ids := by
  rw [← tree.map_id_subtrees, tree.subtrees_eq, List.map_cons, List.map_flatMap]
  simp only [TaskTree.map_id_subtrees]

theorem TaskTree.ids_sublist_of_child {tree child : TaskTree} (member : child ∈ tree.children) :
    (tree.id :: child.ids).Sublist tree.ids := by
  rw [tree.ids_eq]
  exact List.Sublist.cons_cons _ (List.sublist_flatten_of_mem (List.mem_map_of_mem member))

theorem TaskTree.children_induction {motive : TaskTree → Prop}
    (step : ∀ tree : TaskTree, (∀ child ∈ tree.children, motive child) → motive tree)
    (tree : TaskTree) : motive tree := by
  induction size : tree.ids.length using Nat.strong_induction_on generalizing tree with
  | _ length induction =>
      refine step tree fun child member => induction _ ?_ child rfl
      rw [← size]
      exact (TaskTree.ids_sublist_of_child member).length_le

theorem TaskTree.forall_subtrees {Holds : TaskTree → Prop}
    (step : ∀ tree : TaskTree, Holds tree → ∀ child ∈ tree.children, Holds child)
    {tree : TaskTree} (holds : Holds tree) : ∀ sub ∈ tree.subtrees, Holds sub := by
  induction tree using TaskTree.children_induction with
  | step tree induction =>
      intro sub member
      rw [tree.subtrees_eq] at member
      rcases List.mem_cons.mp member with rfl | below
      · exact holds
      · rcases List.mem_flatMap.mp below with ⟨child, among, inside⟩
        exact induction child among (step tree holds child among) sub inside

theorem TaskTree.self_mem_subtrees (tree : TaskTree) : tree ∈ tree.subtrees := by
  rw [tree.subtrees_eq]
  exact List.mem_cons_self

theorem TaskTree.mem_subtrees_of_child {tree child sub : TaskTree}
    (member : child ∈ tree.children) (inside : sub ∈ child.subtrees) : sub ∈ tree.subtrees := by
  rw [tree.subtrees_eq]
  exact List.mem_cons_of_mem _ (List.mem_flatMap.mpr ⟨child, member, inside⟩)

theorem TaskTree.subtrees_cases {tree sub : TaskTree} (member : sub ∈ tree.subtrees) :
    sub = tree ∨ ∃ above ∈ tree.subtrees, sub ∈ above.children := by
  induction tree using TaskTree.children_induction with
  | step tree induction =>
      rw [tree.subtrees_eq] at member
      rcases List.mem_cons.mp member with same | below
      · exact .inl same
      · rcases List.mem_flatMap.mp below with ⟨child, among, inside⟩
        rcases induction child among inside with rfl | ⟨above, further, hangs⟩
        · exact .inr ⟨tree, tree.self_mem_subtrees, among⟩
        · exact .inr ⟨above, TaskTree.mem_subtrees_of_child among further, hangs⟩

theorem TaskTree.ids_sublist_of_subtree {tree sub : TaskTree} (member : sub ∈ tree.subtrees) :
    sub.ids.Sublist tree.ids := by
  induction tree using TaskTree.children_induction with
  | step tree induction =>
      rw [tree.subtrees_eq] at member
      rcases List.mem_cons.mp member with rfl | below
      · exact List.Sublist.refl _
      · rcases List.mem_flatMap.mp below with ⟨child, among, inside⟩
        have inner := (induction child among inside).cons tree.id
        exact inner.trans (TaskTree.ids_sublist_of_child among)

theorem subtrees_split_of_children {children : List TaskTree}
    (each : ∀ child ∈ children, ∀ before sub after, child.subtrees = before ++ sub :: after →
      sub.subtrees <+: sub :: after)
    {before after : List TaskTree} {sub : TaskTree}
    (split : children.flatMap TaskTree.subtrees = before ++ sub :: after) :
    sub.subtrees <+: sub :: after := by
  induction children generalizing before with
  | nil => simp at split
  | cons child rest induction =>
      rw [List.flatMap_cons] at split
      rcases List.append_eq_append_iff.mp split with ⟨part, shorter, further⟩ |
        ⟨part, longer, further⟩
      · exact induction (fun child member => each child (List.mem_cons_of_mem _ member)) further
      · cases part with
        | nil =>
            have others : rest.flatMap TaskTree.subtrees = [] ++ sub :: after := further.symm
            exact induction (fun child member => each child (List.mem_cons_of_mem _ member)) others
        | cons head part =>
            rw [List.cons_append, List.cons.injEq] at further
            rcases further with ⟨rfl, rfl⟩
            have inner := each child List.mem_cons_self before sub part longer
            exact inner.trans (List.cons_prefix_cons.mpr ⟨rfl, List.prefix_append _ _⟩)

theorem TaskTree.subtrees_prefix {tree sub : TaskTree} {before after : List TaskTree}
    (split : tree.subtrees = before ++ sub :: after) : sub.subtrees <+: sub :: after := by
  induction tree using TaskTree.children_induction generalizing before sub after with
  | step tree induction =>
      rw [tree.subtrees_eq] at split
      cases before with
      | nil =>
          rw [List.nil_append, List.cons.injEq] at split
          rcases split with ⟨rfl, rfl⟩
          rw [tree.subtrees_eq]
      | cons head before =>
          rw [List.cons_append, List.cons.injEq] at split
          exact subtrees_split_of_children
            (fun child member before sub after split => induction child member split) split.2

/-! ## What is handed down -/

theorem Slot.Stored.tree {heap : Heap} {parent : TaskId} {slot : Slot} {tree : TaskTree}
    (stored : slot.Stored heap parent) (member : tree ∈ slot.tree?) :
    tree.Stored heap (some parent) := by
  cases slot with
  | vacant => cases member
  | child pipe other =>
      cases member
      exact stored

theorem Slot.Proper.tree {slot : Slot} {tree : TaskTree} (proper : slot.Proper)
    (member : tree ∈ slot.tree?) : tree.Proper := by
  cases slot with
  | vacant => cases member
  | child pipe other =>
      cases member
      exact proper

theorem Customs.Stored.tree {heap : Heap} {parent : TaskId} {tree : TaskTree} :
    ∀ {customs : Customs}, customs.Stored heap parent → tree ∈ customs.trees →
      tree.Stored heap (some parent)
  | .cons _ _ _ _, stored, member => by
      rcases List.mem_cons.mp member with rfl | member
      · exact stored.1
      · exact Customs.Stored.tree stored.2 member

theorem Customs.Proper.tree {tree : TaskTree} :
    ∀ {customs : Customs}, customs.Proper → tree ∈ customs.trees → tree.Proper
  | .cons _ _ _ _, proper, member => by
      rcases List.mem_cons.mp member with rfl | member
      · exact proper.2.1
      · exact Customs.Proper.tree proper.2.2 member

theorem TaskTree.mem_children {tree child : TaskTree} :
    child ∈ tree.children ↔ child ∈ tree.failure.tree? ∨ child ∈ tree.sink.tree? ∨
      child ∈ tree.success.tree? ∨ child ∈ tree.customs.trees := by
  simp [TaskTree.children]

theorem TaskTree.Stored.child {heap : Heap} {parent : Option TaskId} {tree child : TaskTree}
    (stored : tree.Stored heap parent) (member : child ∈ tree.children) :
    child.Stored heap (some tree.id) := by
  rw [TaskTree.mem_children] at member
  rcases tree with ⟨id, label, failure, sink, success, customs⟩
  rcases member with member | member | member | member
  · exact stored.2.1.tree member
  · exact stored.2.2.1.tree member
  · exact stored.2.2.2.1.tree member
  · exact stored.2.2.2.2.tree member

theorem TaskTree.Proper.child {tree child : TaskTree} (proper : tree.Proper)
    (member : child ∈ tree.children) : child.Proper := by
  rw [TaskTree.mem_children] at member
  rcases tree with ⟨id, label, failure, sink, success, customs⟩
  rcases member with member | member | member | member
  · exact proper.2.1.tree member
  · exact proper.2.2.1.tree member
  · exact proper.2.2.2.1.tree member
  · exact proper.2.2.2.2.tree member

theorem TaskTree.Stored.subtree {heap : Heap} {tree sub : TaskTree} {parent : Option TaskId}
    (stored : tree.Stored heap parent) (member : sub ∈ tree.subtrees) :
    ∃ parent, sub.Stored heap parent :=
  @TaskTree.forall_subtrees (fun tree => ∃ parent, tree.Stored heap parent)
    (fun _ ⟨_, stored⟩ _ member => ⟨_, stored.child member⟩) tree ⟨parent, stored⟩ sub member

theorem TaskTree.Proper.subtree {tree sub : TaskTree} (proper : tree.Proper)
    (member : sub ∈ tree.subtrees) : sub.Proper :=
  TaskTree.forall_subtrees (fun _ proper _ member => proper.child member) proper sub member

theorem TaskTree.nodup_subtree {tree sub : TaskTree} (nodup : tree.ids.Nodup)
    (member : sub ∈ tree.subtrees) : sub.ids.Nodup :=
  @TaskTree.forall_subtrees (fun tree => tree.ids.Nodup)
    (fun _ nodup _ member =>
      (List.nodup_cons.mp (nodup.sublist (TaskTree.ids_sublist_of_child member))).2)
    tree nodup sub member

end EventPipeline
