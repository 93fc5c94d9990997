import EventPipeline.Task.Acceptance

/-! # Proper trees

What the trees of accepted scripts have in common beyond being trees: a task
with a sink does not lead on over `||`, and children under descriptors of their
own have descriptors above 1.
-/

namespace EventPipeline

open EventPipeline.Parser

mutual
def TaskTree.Proper : TaskTree → Prop
  | .node _ _ failure sink success customs =>
      (sink.isVacant = false → success.pipe? ≠ some .parallelism) ∧
        failure.Proper ∧ sink.Proper ∧ success.Proper ∧ customs.Proper

def Slot.Proper : Slot → Prop
  | .vacant => True
  | .child _ tree => tree.Proper

def Customs.Proper : Customs → Prop
  | .nil => True
  | .cons descriptor _ tree rest => 1 < descriptor ∧ tree.Proper ∧ rest.Proper
end

/-- A proper tree behind which nothing has been linked yet. -/
structure TaskTree.Unlinked (tree : TaskTree) : Prop where
  proper : tree.Proper
  sink : tree.sink = .vacant
  success : tree.success.pipe? ≠ some .parallelism
  descriptor : tree.label.descriptorPipe ≠ some .parallel

theorem TaskTree.Unlinked.setRetries {tree : TaskTree} (unlinked : tree.Unlinked)
    (factor : Nat) : (tree.setRetries factor).Unlinked := by
  cases tree
  exact ⟨unlinked.proper, unlinked.sink, unlinked.success, unlinked.descriptor⟩

theorem TaskTree.Unlinked.setDescriptor {tree : TaskTree} (unlinked : tree.Unlinked)
    (descriptor : Nat) (arrow : Arrow) :
    (tree.setDescriptor descriptor arrow.operator).Unlinked := by
  cases tree
  refine ⟨unlinked.proper, unlinked.sink, unlinked.success, ?_⟩
  cases arrow <;> simp [TaskTree.setDescriptor, TaskTree.label, Arrow.operator]

theorem TaskTree.Unlinked.attach {tree next : TaskTree} (unlinked : tree.Unlinked)
    (pipe : PipeType) (nextProper : next.Proper) : (tree.attach pipe next).Proper := by
  rcases tree with ⟨id, label, failure, sink, success, customs⟩
  obtain rfl : sink = .vacant := unlinked.sink
  rcases unlinked.proper with ⟨_, failureProper, _, successProper, customsProper⟩
  simp only [TaskTree.attach]
  split
  · exact ⟨fun _ => unlinked.success, failureProper, nextProper, successProper, customsProper⟩
  · refine ⟨fun occupied => ?_, failureProper, trivial, nextProper, customsProper⟩
    cases occupied

theorem close_proper {first : TaskTree} {rest : List (PipeType × TaskTree)}
    (firstUnlinked : first.Unlinked) (restUnlinked : ∀ entry ∈ rest, entry.2.Unlinked) :
    (close first rest).Proper :=
  @close_induction TaskTree.Unlinked TaskTree.Proper TaskTree.Unlinked.proper
    (fun pipe unlinked => unlinked.attach pipe) _ _ firstUnlinked restUnlinked

theorem PipeType.getPipeTypeEnum_ne_parallelism {operator : Operator}
    (other : operator ≠ .parallel) : getPipeTypeEnum operator ≠ .parallelism := by
  cases operator <;> simp_all [getPipeTypeEnum]

/-! ## The trees of scripts are proper -/

mutual
theorem Parser.TaskExpr.Denotes.unlinked {task : TaskExpr} {tree : TaskTree}
    (denotes : task.Denotes tree) : tree.Unlinked := by
  match denotes with
  | .name =>
      refine ⟨⟨?_, trivial, trivial, trivial, trivial⟩, rfl, ?_, ?_⟩ <;>
        simp [TaskTree.success, TaskTree.label, Slot.pipe?]
  | .conditional failureDenotes successDenotes customsDenote =>
      have failureProper := SlotDenotes.proper failureDenotes
      have successProper := SlotDenotes.proper successDenotes
      refine ⟨⟨fun occupied => ?_, failureProper.1, trivial, successProper.1,
        CustomsDenote.proper customsDenote⟩, rfl, successProper.2, ?_⟩
      · cases occupied
      · simp [TaskTree.label]

theorem Parser.Item.Denotes.unlinked {item : Item} {tree : TaskTree}
    (denotes : item.Denotes tree) : tree.Unlinked := by
  match denotes with
  | .task denotes => exact Parser.TaskExpr.Denotes.unlinked denotes
  | .prefixed denotes => exact (Parser.TaskExpr.Denotes.unlinked denotes).setRetries _
  | .postfixed denotes => exact (Parser.TaskExpr.Denotes.unlinked denotes).setRetries _
  | .described denotes => exact (Parser.Item.Denotes.unlinked denotes).setDescriptor _ _

theorem Parser.Chain.Denotes.unlinked {chain : Chain} {first : TaskTree}
    {rest : List (PipeType × TaskTree)} (denotes : chain.Denotes first rest) :
    first.Unlinked ∧ ∀ entry ∈ rest, entry.2.Unlinked := by
  match denotes with
  | .item denotes => exact ⟨Parser.Item.Denotes.unlinked denotes, by simp⟩
  | .link denotes itemDenotes =>
      have before := Parser.Chain.Denotes.unlinked denotes
      refine ⟨before.1, fun entry member => ?_⟩
      rcases List.mem_append.mp member with earlier | latest
      · exact before.2 entry earlier
      · rw [List.mem_singleton.mp latest]
        exact Parser.Item.Denotes.unlinked itemDenotes

theorem SlotDenotes.proper {chain : Option Chain} {slot : Slot}
    (denotes : SlotDenotes chain slot) :
    slot.Proper ∧ slot.pipe? ≠ some .parallelism := by
  match denotes with
  | .vacant => exact ⟨trivial, by simp [Slot.pipe?]⟩
  | .child denotes piped =>
      have unlinked := Parser.Chain.Denotes.unlinked denotes
      refine ⟨close_proper unlinked.1 unlinked.2, ?_⟩
      have other := unlinked.1.descriptor
      rw [piped, ne_eq, Option.some_inj] at other
      simpa [Slot.pipe?] using PipeType.getPipeTypeEnum_ne_parallelism other

theorem CustomsDenote.proper {dict : List (Nat × Chain)} {customs : Customs}
    (denotes : CustomsDenote dict customs) : customs.Proper := by
  match denotes with
  | .nil => trivial
  | .skip _ denotes => exact CustomsDenote.proper denotes
  | .cons custom itemDenotes _ denotes =>
      exact ⟨custom, (Parser.Item.Denotes.unlinked itemDenotes).proper,
        CustomsDenote.proper denotes⟩
end

theorem AcceptedPipeline.stored (pipeline : AcceptedPipeline) :
    ∃ tree : TaskTree, tree.id = pipeline.root ∧ tree.Stored pipeline.heap none ∧
      tree.ids.Nodup ∧ tree.Proper := by
  rcases pipeline.denoted with ⟨chain, first, rest, _, _, denotes, owned, same⟩
  have unlinked := denotes.unlinked
  exact ⟨close first rest, by rw [close_id, same], owned.stored, owned.nodup,
    close_proper unlinked.1 unlinked.2⟩

end EventPipeline
