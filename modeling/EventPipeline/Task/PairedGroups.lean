import EventPipeline.Task.Scripted

/-! # Scripts whose groups have both branches

A group with a branch under 0 and one under 1 makes its task conditional, so that what is linked
behind it becomes its sink. A task that leads on over `||` then has no other child.
-/

namespace EventPipeline

open EventPipeline.Parser

mutual
/-- Every group that the syntax tree keeps has a branch under 0 and one under 1. -/
def Parser.Ast.Paired : Ast → Prop
  | .binOp _ left right => left.Paired ∧ right.Paired
  | .conditionalBinOP parent exprGroup =>
      parent.Paired ∧ (OrderedDict.get 0 exprGroup).isSome = true ∧
        (OrderedDict.get 1 exprGroup).isSome = true ∧ Parser.Ast.PairedAll exprGroup
  | .taskName _ | .descriptor _ | .number _ => True

def Parser.Ast.PairedAll : List (Nat × Ast) → Prop
  | [] => True
  | (_, branch) :: rest => branch.Paired ∧ Parser.Ast.PairedAll rest
end

mutual
/-- No task that leads on over `||` has a branch for a failure. -/
def TaskTree.Paired : TaskTree → Prop
  | .node _ _ failure sink success customs =>
      (failure.isVacant = false → success.pipe? ≠ some .parallelism) ∧
        failure.Paired ∧ sink.Paired ∧ success.Paired ∧ customs.Paired

def Slot.Paired : Slot → Prop
  | .vacant => True
  | .child _ tree => tree.Paired

def Customs.Paired : Customs → Prop
  | .nil => True
  | .cons _ _ tree rest => tree.Paired ∧ rest.Paired
end

structure TaskTree.Branched (tree : TaskTree) : Prop where
  paired : tree.Paired
  conditional : tree.failure.isVacant = false → tree.isConditional = true

theorem TaskTree.Branched.setRetries {tree : TaskTree} (branched : tree.Branched)
    (factor : Nat) : (tree.setRetries factor).Branched := by
  cases tree
  exact ⟨branched.paired, branched.conditional⟩

theorem TaskTree.Branched.setDescriptor {tree : TaskTree} (branched : tree.Branched)
    (descriptor : Nat) (op : Operator) : (tree.setDescriptor descriptor op).Branched := by
  cases tree
  exact ⟨branched.paired, branched.conditional⟩

theorem TaskTree.Branched.attach {tree next : TaskTree} (branched : tree.Branched)
    (pipe : PipeType) (nextPaired : next.Paired) : (tree.attach pipe next).Paired := by
  rcases tree with ⟨id, label, failure, sink, success, customs⟩
  rcases branched.paired with ⟨alone, failurePaired, sinkPaired, successPaired, customsPaired⟩
  simp only [TaskTree.attach]
  split
  · exact ⟨alone, failurePaired, nextPaired, successPaired, customsPaired⟩
  · rename_i unconditional
    refine ⟨fun occupied => ?_, failurePaired, sinkPaired, nextPaired, customsPaired⟩
    exact absurd (branched.conditional occupied) unconditional

theorem close_paired {first : TaskTree} {rest : List (PipeType × TaskTree)}
    (firstBranched : first.Branched) (restBranched : ∀ entry ∈ rest, entry.2.Branched) :
    (close first rest).Paired :=
  @close_induction TaskTree.Branched TaskTree.Paired TaskTree.Branched.paired
    (fun pipe branched => branched.attach pipe) _ _ firstBranched restBranched

theorem Parser.Ast.PairedAll.branch {chains : List (Nat × Chain)}
    (paired : Ast.PairedAll (chains.map fun entry => (entry.1, entry.2.ast))) :
    ∀ entry ∈ chains, entry.2.ast.Paired := by
  induction chains with
  | nil => exact fun entry member => absurd member List.not_mem_nil
  | cons first rest induction =>
      intro entry member
      rcases List.mem_cons.mp member with rfl | member
      · exact paired.1
      · exact induction paired.2 entry member

theorem Parser.Group.paired {task : TaskExpr} {group : Group}
    (paired : (TaskExpr.conditional task group).ast.Paired) :
    (∃ chain, OrderedDict.get 0 group.dict = some chain) ∧
      (∃ chain, OrderedDict.get 1 group.dict = some chain) ∧
      ∀ entry ∈ group.dict, entry.2.ast.Paired := by
  rw [TaskExpr.ast, Ast.Paired, group.ast_eq, OrderedDict.get_map, OrderedDict.get_map,
    Option.isSome_map, Option.isSome_map] at paired
  exact ⟨Option.isSome_iff_exists.mp paired.2.1, Option.isSome_iff_exists.mp paired.2.2.1,
    paired.2.2.2.branch⟩

/-! ## The trees of such scripts -/

mutual
theorem Parser.TaskExpr.Denotes.branched {task : TaskExpr} {tree : TaskTree}
    (denotes : task.Denotes tree) (paired : task.ast.Paired) : tree.Branched := by
  match denotes with
  | .name =>
      refine ⟨⟨?_, trivial, trivial, trivial, trivial⟩, ?_⟩
      · intro occupied
        cases occupied
      · intro occupied
        cases occupied
  | .conditional failureDenotes successDenotes customsDenote =>
      rcases Parser.Group.paired paired with ⟨⟨onFailure, zero⟩, ⟨onSuccess, one⟩, each⟩
      have failurePaired := SlotDenotes.paired failureDenotes fun chain found =>
        each _ (OrderedDict.mem_of_get found)
      have successPaired := SlotDenotes.paired successDenotes fun chain found =>
        each _ (OrderedDict.mem_of_get found)
      have customsPaired := CustomsDenote.paired customsDenote each
      have other := (SlotDenotes.proper successDenotes).2
      refine ⟨⟨fun _ => other, failurePaired, trivial, successPaired, customsPaired⟩, ?_⟩
      intro _
      rw [zero] at failureDenotes
      rw [one] at successDenotes
      cases failureDenotes
      cases successDenotes
      simp [TaskTree.isConditional, Slot.isVacant]

theorem Parser.Item.Denotes.branched {item : Item} {tree : TaskTree}
    (denotes : item.Denotes tree) (paired : item.ast.Paired) : tree.Branched := by
  match denotes with
  | .task denotes => exact Parser.TaskExpr.Denotes.branched denotes paired
  | .prefixed denotes =>
      exact (Parser.TaskExpr.Denotes.branched denotes paired.2).setRetries _
  | .postfixed denotes =>
      exact (Parser.TaskExpr.Denotes.branched denotes paired.1).setRetries _
  | .described denotes =>
      exact (Parser.Item.Denotes.branched denotes paired.2).setDescriptor _ _

theorem Parser.Chain.Denotes.branched {chain : Chain} {first : TaskTree}
    {rest : List (PipeType × TaskTree)} (denotes : chain.Denotes first rest)
    (paired : chain.ast.Paired) : first.Branched ∧ ∀ entry ∈ rest, entry.2.Branched := by
  match denotes with
  | .item denotes => exact ⟨Parser.Item.Denotes.branched denotes paired, by simp⟩
  | .link denotes itemDenotes =>
      have before := Parser.Chain.Denotes.branched denotes paired.1
      refine ⟨before.1, fun entry member => ?_⟩
      rcases List.mem_append.mp member with earlier | latest
      · exact before.2 entry earlier
      · rw [List.mem_singleton.mp latest]
        exact Parser.Item.Denotes.branched itemDenotes paired.2

theorem SlotDenotes.paired {kept : Option Chain} {slot : Slot}
    (denotes : SlotDenotes kept slot) (paired : ∀ chain, kept = some chain → chain.ast.Paired) :
    slot.Paired := by
  match denotes with
  | .vacant => trivial
  | .child denotes _ =>
      have branched := Parser.Chain.Denotes.branched denotes (paired _ rfl)
      exact close_paired branched.1 branched.2

theorem CustomsDenote.paired {dict : List (Nat × Chain)} {customs : Customs}
    (denotes : CustomsDenote dict customs) (paired : ∀ entry ∈ dict, entry.2.ast.Paired) :
    customs.Paired := by
  match denotes with
  | .nil => trivial
  | .skip _ denotes =>
      exact CustomsDenote.paired denotes fun entry member =>
        paired entry (List.mem_cons_of_mem _ member)
  | .cons _ itemDenotes _ denotes =>
      have branched := Parser.Item.Denotes.branched itemDenotes (paired _ List.mem_cons_self)
      refine ⟨branched.paired, ?_⟩
      exact CustomsDenote.paired denotes fun entry member =>
        paired entry (List.mem_cons_of_mem _ member)
end

/-- An accepted script whose groups have both branches, with its syntax tree. -/
structure PairedPipeline extends AcceptedPipeline where
  ast : Ast
  parsed : (pointyParser lexer code).1 = .ok ast
  paired : ast.Paired

theorem PairedPipeline.planted (pipeline : PairedPipeline) :
    ∃ tree : TaskTree, tree.id = pipeline.root ∧ Planted pipeline.heap none tree ∧
      tree.Paired := by
  rcases pipeline with ⟨⟨lexer, code, root, heap, accepted⟩, ast, parsed, paired⟩
  have nonempty : code ≠ "" := by
    rintro rfl
    cases accepted
  rcases pointyParser_cases lexer code with ⟨chain, outcome, _⟩ | ⟨error, raised⟩
  · obtain rfl : chain.ast = ast :=
      Except.ok.inj ((pointyParser_accepted outcome).symm.trans parsed)
    rcases build_of_accepted nonempty outcome with
      ⟨_, other, first, rest, built, denotes, owned⟩ | ⟨_, message, raised⟩
    · rw [accepted] at built
      cases built
      have unlinked := denotes.unlinked
      have scripted := denotes.scripted
      have branched := denotes.branched paired
      refine ⟨close first rest, close_id first rest, ⟨owned.stored, owned.nodup, ?_, ?_⟩, ?_⟩
      · exact close_proper unlinked.1 unlinked.2
      · exact close_scripted scripted.1 scripted.2
      · exact close_paired branched.1 branched.2
    · rw [accepted] at raised
      cases raised
  · rw [parsed] at raised
    cases raised

theorem Slot.Paired.tree {slot : Slot} {tree : TaskTree} (paired : slot.Paired)
    (member : tree ∈ slot.tree?) : tree.Paired := by
  cases slot with
  | vacant => cases member
  | child pipe other =>
      cases member
      exact paired

theorem Customs.Paired.tree {tree : TaskTree} :
    ∀ {customs : Customs}, customs.Paired → tree ∈ customs.trees → tree.Paired
  | .cons _ _ _ _, paired, member => by
      rcases List.mem_cons.mp member with rfl | member
      · exact paired.1
      · exact Customs.Paired.tree paired.2 member

theorem TaskTree.Paired.child {tree child : TaskTree} (paired : tree.Paired)
    (member : child ∈ tree.children) : child.Paired := by
  rw [TaskTree.mem_children] at member
  rcases tree with ⟨id, label, failure, sink, success, customs⟩
  rcases paired with ⟨_, failurePaired, sinkPaired, successPaired, customsPaired⟩
  rcases member with member | member | member | member
  · exact failurePaired.tree member
  · exact sinkPaired.tree member
  · exact successPaired.tree member
  · exact customsPaired.tree member

theorem TaskTree.Paired.subtree {tree sub : TaskTree} (paired : tree.Paired)
    (member : sub ∈ tree.subtrees) : sub.Paired :=
  TaskTree.forall_subtrees (fun _ paired _ member => paired.child member) paired sub member

theorem Planted.eq_success_of_parallel {heap : Heap} {above : Option TaskId}
    {tree child : TaskTree} (planted : Planted heap above tree) (paired : tree.Paired)
    (parallel : tree.success.pipe? = some .parallelism) (member : child ∈ tree.children) :
    child ∈ tree.success.tree? := by
  rw [TaskTree.mem_children] at member
  have proper := planted.proper
  have scripted := planted.scripted
  rcases tree with ⟨id, label, failure, sink, success, customs⟩
  rcases member with failed | sunk | succeeded | custom
  · cases failure with
    | vacant => cases failed
    | child pipe other => exact absurd parallel (paired.1 rfl)
  · cases sink with
    | vacant => cases sunk
    | child pipe other => exact absurd parallel (proper.1 rfl)
  · exact succeeded
  · cases customs with
    | nil => cases custom
    | cons key pipe other rest => exact absurd parallel (scripted.2.1 (List.cons_ne_nil _ _))

end EventPipeline
