import EventPipeline.Execution.Termination

/-! # Traces of trees

What a run without stops and switches dispatches, read off the tree of the
pipeline: a group, then the branch that its last task leads to, then its sink.
-/

namespace EventPipeline

section Definitions

variable (failed : TaskId → Bool)

mutual
/-- The groups dispatched from a call with the root of the tree on, when `failed`
tells of every task whether its context has failed. -/
def TaskTree.trace : TaskTree → List (List TaskId)
  | .node id label failure sink success customs =>
      (id :: success.group) ::
        (success.behind
          (if (TaskTree.node id label failure sink success customs).isConditional && failed id
            then some failure.trace else none) ++ sink.trace)

/-- What is dispatched behind the last task of the group that starts at the root. -/
def TaskTree.behind : TaskTree → List (List TaskId)
  | .node id label failure sink success customs =>
      success.behind
        (if (TaskTree.node id label failure sink success customs).isConditional && failed id
          then some failure.trace else none)

def Slot.trace : Slot → List (List TaskId)
  | .vacant => []
  | .child _ tree => tree.trace

/-- A group goes on over `||`. Otherwise its last task leads on, unless it is a
conditional task that has failed. -/
def Slot.behind : Slot → Option (List (List TaskId)) → List (List TaskId)
  | .vacant, onFailure => onFailure.getD []
  | .child .parallelism tree, _ => tree.behind
  | .child _ tree, onFailure => onFailure.getD tree.trace
end

/-- The groups dispatched from a call on, with the context that the call follows. -/
def TaskTree.entered (tree : TaskTree) (previous : Option ContextId) : List (List TaskId) :=
  tree.members previous ::
    (((tree.turn previous).branch (failed (tree.turn previous).id)).trace failed ++
      (tree.pushed previous).flatMap (TaskTree.trace failed))

end Definitions

section Traces

variable {failed : TaskId → Bool}

theorem Slot.behind_eq_getD {slot : Slot} (other : slot.pipe? ≠ some .parallelism)
    (onFailure : Option (List (List TaskId))) :
    slot.behind failed onFailure = onFailure.getD (slot.trace failed) := by
  rcases slot with _ | ⟨_ | _ | _ | _, tree⟩
  · rfl
  · rfl
  · rfl
  · exact absurd rfl other
  · rfl

theorem TaskTree.behind_eq (tree : TaskTree) :
    tree.behind failed = (tree.last.branch (failed tree.last.id)).trace failed := by
  induction tree using TaskTree.group_induction with
  | single tree other _ last =>
      rw [last]
      rcases tree with ⟨id, label, failure, sink, success, customs⟩
      have plain := @Slot.behind_eq_getD failed success other
      rw [TaskTree.behind, plain, TaskTree.branch]
      change _ = Slot.trace failed
        (if (TaskTree.node id label failure sink success customs).isConditional && failed id
          then failure else success)
      split <;> rfl
  | parallel id label failure sink next customs induction => exact induction

theorem TaskTree.trace_eq_entered (tree : TaskTree) (previous : ContextId) :
    tree.trace failed = tree.entered failed (some previous) := by
  have behind := @TaskTree.behind_eq failed tree
  rcases tree with ⟨id, label, failure, sink, success, customs⟩
  simp only [TaskTree.entered, TaskTree.turn, ← behind, TaskTree.members, TaskTree.pushed]
  cases sink <;> simp [TaskTree.trace, TaskTree.behind, TaskTree.group, TaskTree.sink,
    Slot.tree?, Slot.trace]

theorem Slot.trace_eq_flatMap (slot : Slot) :
    slot.trace failed = slot.tree?.toList.flatMap (TaskTree.trace failed) := by
  cases slot <;> simp [Slot.trace, Slot.tree?]

/-- The trees that a run enters after the members of a tree. -/
def TaskTree.onward (failed : TaskId → Bool) (tree : TaskTree) (previous : Option ContextId) :
    List TaskTree :=
  ((tree.turn previous).branch (failed (tree.turn previous).id)).tree?.toList ++
    tree.pushed previous

theorem TaskTree.entered_eq (tree : TaskTree) (previous : Option ContextId) :
    tree.entered failed previous =
      tree.members previous ::
        (tree.onward failed previous).flatMap (TaskTree.trace failed) := by
  simp [TaskTree.entered, TaskTree.onward, Slot.trace_eq_flatMap]

theorem TaskTree.onward_account (tree : TaskTree) (previous : Option ContextId) :
    (tree.members previous ++ forestIds (tree.onward failed previous)).Subperm tree.ids :=
  TaskTree.visit_account fun _ member => TaskTree.branch_mem_kids member

theorem TaskTree.length_onward_lt {tree kid : TaskTree} {previous : Option ContextId}
    (member : kid ∈ tree.onward failed previous) : kid.ids.length < tree.ids.length := by
  have account := (@TaskTree.onward_account failed tree previous).length_le
  have inside : kid.ids.length ≤ (forestIds (tree.onward failed previous)).length :=
    (List.sublist_flatten_of_mem (List.mem_map_of_mem member)).length_le
  have some_ := tree.members_length_pos previous
  rw [List.length_append] at account
  omega

theorem TaskTree.onward_induction {motive : TaskTree → Prop}
    (step : ∀ tree, (∀ previous, ∀ kid ∈ tree.onward failed previous, motive kid) →
      motive tree) (tree : TaskTree) : motive tree := by
  induction size : tree.ids.length using Nat.strong_induction_on generalizing tree with
  | _ length induction =>
      refine step tree fun previous kid member => induction _ ?_ kid rfl
      rw [← size]
      exact TaskTree.length_onward_lt member

theorem flatten_flatMap_subperm {trees : List TaskTree}
    (each : ∀ tree ∈ trees, (tree.trace failed).flatten.Subperm tree.ids) :
    (trees.flatMap (TaskTree.trace failed)).flatten.Subperm (forestIds trees) := by
  induction trees with
  | nil => exact List.Subperm.refl _
  | cons tree rest induction =>
      simp only [List.flatMap_cons, List.flatten_append, forestIds]
      exact (each tree List.mem_cons_self).append
        (induction fun other member => each other (List.mem_cons_of_mem _ member))

theorem TaskTree.entered_subperm_of_onward {tree : TaskTree} {previous : Option ContextId}
    (each : ∀ kid ∈ tree.onward failed previous, (kid.trace failed).flatten.Subperm kid.ids) :
    (tree.entered failed previous).flatten.Subperm tree.ids := by
  rw [tree.entered_eq, List.flatten_cons]
  exact ((List.Subperm.refl _).append (flatten_flatMap_subperm each)).trans
    (tree.onward_account previous)

theorem TaskTree.trace_subperm (tree : TaskTree) :
    (tree.trace failed).flatten.Subperm tree.ids := by
  induction tree using @TaskTree.onward_induction failed with
  | step tree induction =>
      rw [tree.trace_eq_entered 0]
      exact TaskTree.entered_subperm_of_onward (induction (some 0))

theorem TaskTree.entered_subperm (tree : TaskTree) (previous : Option ContextId) :
    (tree.entered failed previous).flatten.Subperm tree.ids :=
  TaskTree.entered_subperm_of_onward fun kid _ => kid.trace_subperm

/-! ## Where the tasks of a trace come from -/

theorem TaskTree.group_append_last (tree : TaskTree) :
    (tree.group.dropLast ++ tree.last.ids).Subperm tree.ids := by
  induction tree using TaskTree.group_induction with
  | single tree _ group last =>
      rw [group, last]
      exact List.Subperm.refl _
  | parallel id label failure sink next customs induction =>
      simp only [TaskTree.group, Slot.group, TaskTree.last, Slot.last, TaskTree.ids, Slot.ids,
        List.dropLast_cons_of_ne_nil next.group_ne_nil, List.cons_append]
      refine (List.subperm_cons id).mpr (induction.trans (List.Sublist.subperm ?_))
      exact (List.sublist_append_left _ _).trans
        ((List.sublist_append_right _ _).trans (List.sublist_append_right _ _))

theorem TaskTree.members_append_turn (tree : TaskTree) (previous : Option ContextId) :
    ((tree.members previous).dropLast ++ (tree.turn previous).ids).Subperm tree.ids := by
  cases previous with
  | none => exact List.Subperm.refl _
  | some previous => exact tree.group_append_last

theorem TaskTree.members_eq (tree : TaskTree) (previous : Option ContextId) :
    tree.members previous =
      (tree.members previous).dropLast ++ [(tree.turn previous).id] := by
  cases previous with
  | none => rfl
  | some previous => exact tree.group_eq

theorem TaskTree.mem_dropLast_or_eq_turn {tree : TaskTree} {previous : Option ContextId}
    {task : TaskId} (member : task ∈ tree.members previous) :
    task ∈ tree.group.dropLast ∨ task = (tree.turn previous).id := by
  rw [tree.members_eq, List.mem_append, List.mem_singleton] at member
  rcases member with earlier | last
  · cases previous with
    | none => cases earlier
    | some context => exact .inl earlier
  · exact .inr last

theorem TaskTree.Proper.pushed_cases {tree : TaskTree} (proper : tree.Proper)
    (previous : Option ContextId) :
    tree.pushed previous = [] ∨
      (previous ≠ none ∧ tree.turn previous = tree ∧
        tree.pushed previous = (tree.turn previous).sink.tree?.toList) := by
  cases previous with
  | none => exact .inl rfl
  | some context =>
      rcases tree with ⟨id, label, failure, sink, success, customs⟩
      cases sink with
      | vacant => exact .inl rfl
      | child pipe sink =>
          have alone : (TaskTree.node id label failure (.child pipe sink) success
              customs).group.dropLast = [] := by
            have other := proper.1 rfl
            rcases success with _ | ⟨_ | _ | _ | _, next⟩
            · rfl
            · rfl
            · rfl
            · exact absurd rfl other
            · rfl
          have same := TaskTree.last_eq_self alone
          exact .inr ⟨by simp, same, by simp only [TaskTree.turn, same, TaskTree.pushed]⟩

theorem Slot.mem_of_trace {slot : Slot} {task : TaskId}
    (member : task ∈ (slot.trace failed).flatten) : task ∈ slot.ids := by
  cases slot with
  | vacant => cases member
  | child pipe tree => exact tree.trace_subperm.subset member

/-- A task that a call dispatches is one of its members, lies in the branch that is
taken behind the last one, or in the sink when that is pushed. -/
theorem TaskTree.Proper.mem_entered_cases {tree : TaskTree} (proper : tree.Proper)
    {previous : Option ContextId} {task : TaskId}
    (member : task ∈ (tree.entered failed previous).flatten) :
    task ∈ (tree.members previous).dropLast ∨ task = (tree.turn previous).id ∨
      task ∈ ((tree.turn previous).branch (failed (tree.turn previous).id)).ids ∨
      (task ∈ (tree.turn previous).sink.ids ∧ tree.pushed previous ≠ []) := by
  rw [TaskTree.entered, List.flatten_cons, List.flatten_append, List.mem_append,
    List.mem_append, tree.members_eq, List.mem_append, List.mem_singleton] at member
  rcases member with (earlier | last) | branch | sink
  · exact .inl earlier
  · exact .inr (.inl last)
  · exact .inr (.inr (.inl (Slot.mem_of_trace branch)))
  · refine .inr (.inr (.inr ?_))
    rcases proper.pushed_cases previous with none | ⟨_, _, pushed⟩
    · rw [none] at sink
      cases sink
    · rw [pushed, ← Slot.trace_eq_flatMap] at sink
      refine ⟨Slot.mem_of_trace sink, fun none => ?_⟩
      rw [pushed] at none
      rw [Slot.trace_eq_flatMap, none] at sink
      cases sink

end Traces

end EventPipeline
