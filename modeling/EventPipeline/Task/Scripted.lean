import EventPipeline.Task.Subtrees

/-! # What scripts write into their trees

Descriptors of a task are distinct, and each one is recorded by the task that it
leads to. Only the next item of a chain is reached over `||`: no branch of a group
is, and no task that has a descriptor above 1 leads on over `||`.
-/

namespace EventPipeline

open EventPipeline.Parser

def Customs.keys (customs : Customs) : List Nat :=
  OrderedDict.keys customs.configs

mutual
def TaskTree.Scripted : TaskTree → Prop
  | .node _ _ failure sink success customs =>
      failure.pipe? ≠ some .parallelism ∧
        (customs.keys ≠ [] → success.pipe? ≠ some .parallelism) ∧ customs.keys.Nodup ∧
        failure.Scripted ∧ sink.Scripted ∧ success.Scripted ∧ customs.Scripted

def Slot.Scripted : Slot → Prop
  | .vacant => True
  | .child _ tree => tree.Scripted

def Customs.Scripted : Customs → Prop
  | .nil => True
  | .cons key pipe tree rest =>
      tree.label.descriptor = some key ∧ pipe ≠ .parallelism ∧
        tree.success.pipe? ≠ some .parallelism ∧ tree.Scripted ∧ rest.Scripted
end

theorem TaskTree.Scripted.setRetries {tree : TaskTree} (scripted : tree.Scripted)
    (factor : Nat) : (tree.setRetries factor).Scripted := by
  cases tree
  exact scripted

theorem TaskTree.Scripted.setDescriptor {tree : TaskTree} (scripted : tree.Scripted)
    (descriptor : Nat) (op : Operator) : (tree.setDescriptor descriptor op).Scripted := by
  cases tree
  exact scripted

theorem TaskTree.Scripted.attach {tree next : TaskTree} (scripted : tree.Scripted)
    (pipe : PipeType) (nextScripted : next.Scripted) : (tree.attach pipe next).Scripted := by
  rcases tree with ⟨id, label, failure, sink, success, customs⟩
  rcases scripted with ⟨notParallel, customed, nodup, failureScripted, sinkScripted,
    successScripted, customsScripted⟩
  simp only [TaskTree.attach]
  split
  · exact ⟨notParallel, customed, nodup, failureScripted, nextScripted, successScripted,
      customsScripted⟩
  · rename_i unconditional
    refine ⟨notParallel, fun keyed => ?_, nodup, failureScripted, sinkScripted, nextScripted,
      customsScripted⟩
    cases customs with
    | nil => exact absurd rfl keyed
    | cons key pipe tree rest => exact absurd rfl unconditional

theorem close_scripted {first : TaskTree} {rest : List (PipeType × TaskTree)}
    (firstScripted : first.Scripted) (restScripted : ∀ entry ∈ rest, entry.2.Scripted) :
    (close first rest).Scripted :=
  @close_induction TaskTree.Scripted TaskTree.Scripted id
    (fun pipe scripted => scripted.attach pipe) _ _ firstScripted restScripted

/-- The descriptors of the branches that are kept are those of the dictionary. -/
theorem CustomsDenote.keys_sublist {dict : List (Nat × Chain)} {customs : Customs}
    (denotes : CustomsDenote dict customs) : customs.keys.Sublist (OrderedDict.keys dict) := by
  cases denotes with
  | nil => exact List.nil_sublist _
  | skip _ denotes => exact (CustomsDenote.keys_sublist denotes).cons _
  | cons _ _ _ denotes => exact (CustomsDenote.keys_sublist denotes).cons_cons _

/-! ## The trees of scripts -/

mutual
theorem Parser.TaskExpr.Denotes.scripted {task : TaskExpr} {tree : TaskTree}
    (denotes : task.Denotes tree) : tree.Scripted := by
  match denotes with
  | .name =>
      refine ⟨?_, ?_, List.nodup_nil, trivial, trivial, trivial, trivial⟩ <;>
        simp [Slot.pipe?]
  | @Parser.TaskExpr.Denotes.conditional name group id failure success customs
      failureDenotes successDenotes customsDenote =>
      have nodup := group.nodup_keys_dict
      refine ⟨(SlotDenotes.proper failureDenotes).2,
        fun _ => (SlotDenotes.proper successDenotes).2,
        nodup.sublist (CustomsDenote.keys_sublist customsDenote),
        SlotDenotes.scripted failureDenotes, trivial, SlotDenotes.scripted successDenotes,
        CustomsDenote.scripted customsDenote fun entry member => ?_⟩
      exact (Group.mem_dict member).2

theorem Parser.Item.Denotes.scripted {item : Item} {tree : TaskTree}
    (denotes : item.Denotes tree) : tree.Scripted := by
  match denotes with
  | .task denotes => exact Parser.TaskExpr.Denotes.scripted denotes
  | .prefixed denotes => exact (Parser.TaskExpr.Denotes.scripted denotes).setRetries _
  | .postfixed denotes => exact (Parser.TaskExpr.Denotes.scripted denotes).setRetries _
  | .described denotes => exact (Parser.Item.Denotes.scripted denotes).setDescriptor _ _

theorem Parser.Chain.Denotes.scripted {chain : Chain} {first : TaskTree}
    {rest : List (PipeType × TaskTree)} (denotes : chain.Denotes first rest) :
    first.Scripted ∧ ∀ entry ∈ rest, entry.2.Scripted := by
  match denotes with
  | .item denotes => exact ⟨Parser.Item.Denotes.scripted denotes, by simp⟩
  | .link denotes itemDenotes =>
      have before := Parser.Chain.Denotes.scripted denotes
      refine ⟨before.1, fun entry member => ?_⟩
      rcases List.mem_append.mp member with earlier | latest
      · exact before.2 entry earlier
      · rw [List.mem_singleton.mp latest]
        exact Parser.Item.Denotes.scripted itemDenotes

theorem SlotDenotes.scripted {chain : Option Chain} {slot : Slot}
    (denotes : SlotDenotes chain slot) : slot.Scripted := by
  match denotes with
  | .vacant => trivial
  | .child denotes _ =>
      have scripted := Parser.Chain.Denotes.scripted denotes
      exact close_scripted scripted.1 scripted.2

theorem CustomsDenote.scripted {dict : List (Nat × Chain)} {customs : Customs}
    (denotes : CustomsDenote dict customs)
    (keyed : ∀ entry ∈ dict, entry.2.key = some entry.1) : customs.Scripted := by
  match denotes with
  | .nil => trivial
  | .skip _ denotes =>
      exact CustomsDenote.scripted denotes fun entry member =>
        keyed entry (List.mem_cons_of_mem _ member)
  | .cons _ itemDenotes piped denotes =>
      have unlinked := Parser.Item.Denotes.unlinked itemDenotes
      have other := unlinked.descriptor
      rw [piped, ne_eq, Option.some_inj] at other
      refine ⟨(itemDenotes.descriptor (keyed _ List.mem_cons_self)).1,
        PipeType.getPipeTypeEnum_ne_parallelism other, unlinked.success,
        Parser.Item.Denotes.scripted itemDenotes, ?_⟩
      exact CustomsDenote.scripted denotes fun entry member =>
        keyed entry (List.mem_cons_of_mem _ member)
end

/-! ## Planted trees -/

theorem Slot.Scripted.tree {slot : Slot} {tree : TaskTree} (scripted : slot.Scripted)
    (member : tree ∈ slot.tree?) : tree.Scripted := by
  cases slot with
  | vacant => cases member
  | child pipe other =>
      cases member
      exact scripted

theorem Customs.Scripted.tree {tree : TaskTree} :
    ∀ {customs : Customs}, customs.Scripted → tree ∈ customs.trees →
      tree.Scripted ∧ tree.success.pipe? ≠ some .parallelism
  | .cons _ _ _ _, scripted, member => by
      rcases List.mem_cons.mp member with rfl | member
      · exact ⟨scripted.2.2.2.1, scripted.2.2.1⟩
      · exact Customs.Scripted.tree scripted.2.2.2.2 member

theorem TaskTree.Scripted.child {tree child : TaskTree} (scripted : tree.Scripted)
    (member : child ∈ tree.children) : child.Scripted := by
  rw [TaskTree.mem_children] at member
  rcases tree with ⟨id, label, failure, sink, success, customs⟩
  rcases scripted with ⟨_, _, _, failureScripted, sinkScripted, successScripted,
    customsScripted⟩
  rcases member with member | member | member | member
  · exact failureScripted.tree member
  · exact sinkScripted.tree member
  · exact successScripted.tree member
  · exact (customsScripted.tree member).1

/-- A tree of a script that the heap stores below the given parent. -/
structure Planted (heap : Heap) (parent : Option TaskId) (tree : TaskTree) : Prop where
  stored : tree.Stored heap parent
  nodup : tree.ids.Nodup
  proper : tree.Proper
  scripted : tree.Scripted

theorem Planted.child {heap : Heap} {parent : Option TaskId} {tree child : TaskTree}
    (planted : Planted heap parent tree) (member : child ∈ tree.children) :
    Planted heap (some tree.id) child :=
  ⟨planted.stored.child member,
    (List.nodup_cons.mp (planted.nodup.sublist (TaskTree.ids_sublist_of_child member))).2,
    planted.proper.child member, planted.scripted.child member⟩

theorem Planted.subtree {heap : Heap} {parent : Option TaskId} {tree sub : TaskTree}
    (planted : Planted heap parent tree) (member : sub ∈ tree.subtrees) :
    ∃ parent, Planted heap parent sub :=
  @TaskTree.forall_subtrees (fun tree => ∃ parent, Planted heap parent tree)
    (fun _ ⟨_, planted⟩ _ member => ⟨_, planted.child member⟩) tree ⟨parent, planted⟩ sub member

theorem AcceptedPipeline.planted (pipeline : AcceptedPipeline) :
    ∃ tree : TaskTree, tree.id = pipeline.root ∧ Planted pipeline.heap none tree := by
  rcases pipeline.denoted with ⟨chain, first, rest, _, _, denotes, owned, same⟩
  have unlinked := denotes.unlinked
  have scripted := denotes.scripted
  exact ⟨close first rest, by rw [close_id, same], owned.stored, owned.nodup,
    close_proper unlinked.1 unlinked.2, close_scripted scripted.1 scripted.2⟩

end EventPipeline
