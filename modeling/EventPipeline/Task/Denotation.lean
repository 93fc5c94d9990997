import EventPipeline.Parser.Syntax
import EventPipeline.Task.Spine

/-! # The trees that scripts denote

Which task trees a derivation stands for, up to the identities of the tasks,
and which derivations stand for none: a group behind a group, and a branch of
several items under a descriptor other than 0 and 1. Only the branches that a
group keeps count.
-/

namespace EventPipeline

open EventPipeline.Parser

def Parser.Link.pipe : Link → PipeType
  | .pointer => .pointer
  | .ppointer => .pipePointer
  | .parallel => .parallelism

@[simp] theorem linkPipe_operator (link : Link) : linkPipe link.operator = link.pipe := by
  cases link <;> rfl

def TaskTree.setRetries (tree : TaskTree) (factor : Nat) : TaskTree :=
  match tree with
  | .node id label failure sink success customs =>
      .node id { label with numberOfRetries := some factor } failure sink success customs

def TaskTree.setDescriptor (tree : TaskTree) (descriptor : Nat) (op : Operator) : TaskTree :=
  match tree with
  | .node id label failure sink success customs =>
      .node id { label with descriptor := some descriptor, descriptorPipe := some op }
        failure sink success customs

mutual
inductive Parser.TaskExpr.Denotes : TaskExpr → TaskTree → Prop
  | name {name id} :
      (TaskExpr.name name).Denotes (.node id { event := name } .vacant .vacant .vacant .nil)
  | conditional {name group id failure success customs} :
      SlotDenotes (OrderedDict.get 0 group.dict) failure →
      SlotDenotes (OrderedDict.get 1 group.dict) success →
      CustomsDenote group.dict customs →
      (TaskExpr.conditional (.name name) group).Denotes
        (.node id { event := name } failure .vacant success customs)

inductive Parser.Item.Denotes : Item → TaskTree → Prop
  | task {task tree} : task.Denotes tree → (Item.task task).Denotes tree
  | prefixed {factor task tree} : task.Denotes tree →
      (Item.prefixed factor task).Denotes (tree.setRetries factor)
  | postfixed {task factor tree} : task.Denotes tree →
      (Item.postfixed task factor).Denotes (tree.setRetries factor)
  | described {descriptor arrow item tree} : item.Denotes tree →
      (Item.described descriptor arrow item).Denotes
        (tree.setDescriptor descriptor arrow.operator)

inductive Parser.Chain.Denotes : Chain → TaskTree → List (PipeType × TaskTree) → Prop
  | item {item tree} : item.Denotes tree → (Chain.item item).Denotes tree []
  | link {chain link item first rest tree} :
      chain.Denotes first rest → item.Denotes tree →
      (Chain.link chain link item).Denotes first (rest ++ [(link.pipe, tree)])

/-- The branch under 0 or 1. Its pipe is the operator behind its descriptor. -/
inductive SlotDenotes : Option Chain → Slot → Prop
  | vacant : SlotDenotes none .vacant
  | child {chain first rest op} :
      chain.Denotes first rest → first.label.descriptorPipe = some op →
      SlotDenotes (some chain) (.child (PipeType.getPipeTypeEnum op) (close first rest))

/-- The branches under other descriptors. -/
inductive CustomsDenote : List (Nat × Chain) → Customs → Prop
  | nil : CustomsDenote [] .nil
  | skip {key chain rest customs} : key ≤ 1 → CustomsDenote rest customs →
      CustomsDenote ((key, chain) :: rest) customs
  | cons {key item rest tree op customs} : 1 < key → item.Denotes tree →
      tree.label.descriptorPipe = some op → CustomsDenote rest customs →
      CustomsDenote ((key, .item item) :: rest)
        (.cons key (PipeType.getPipeTypeEnum op) tree customs)
end

mutual
/-- The builder can build a tree. -/
inductive Parser.TaskExpr.Buildable : TaskExpr → Prop
  | name {name} : (TaskExpr.name name).Buildable
  | conditional {name group} :
      (∀ entry ∈ group.dict, entry.2.Buildable) →
      (∀ entry ∈ group.dict, 1 < entry.1 → ∃ item, entry.2 = .item item) →
      (TaskExpr.conditional (.name name) group).Buildable

inductive Parser.Item.Buildable : Item → Prop
  | task {task} : task.Buildable → (Item.task task).Buildable
  | prefixed {factor task} : task.Buildable → (Item.prefixed factor task).Buildable
  | postfixed {task factor} : task.Buildable → (Item.postfixed task factor).Buildable
  | described {descriptor arrow item} : item.Buildable →
      (Item.described descriptor arrow item).Buildable

inductive Parser.Chain.Buildable : Chain → Prop
  | item {item} : item.Buildable → (Chain.item item).Buildable
  | link {chain link item} : chain.Buildable → item.Buildable →
      (Chain.link chain link item).Buildable
end

/-! ## Descriptors -/

@[simp] theorem TaskTree.setRetries_id (tree : TaskTree) (factor : Nat) :
    (tree.setRetries factor).id = tree.id := by
  cases tree
  rfl

@[simp] theorem TaskTree.setDescriptor_id (tree : TaskTree) (descriptor : Nat)
    (op : Operator) : (tree.setDescriptor descriptor op).id = tree.id := by
  cases tree
  rfl

@[simp] theorem TaskTree.setRetries_ids (tree : TaskTree) (factor : Nat) :
    (tree.setRetries factor).ids = tree.ids := by
  cases tree
  rfl

@[simp] theorem TaskTree.setDescriptor_ids (tree : TaskTree) (descriptor : Nat)
    (op : Operator) : (tree.setDescriptor descriptor op).ids = tree.ids := by
  cases tree
  rfl

theorem Parser.Item.Denotes.descriptor {item : Item} {tree : TaskTree} {key : Nat}
    (denotes : item.Denotes tree) (keyed : item.key = some key) :
    tree.label.descriptor = some key ∧ ∃ op, tree.label.descriptorPipe = some op := by
  cases denotes with
  | described denotes =>
      rename_i tree
      cases tree
      exact ⟨keyed, _, rfl⟩
  | task denotes => cases keyed
  | prefixed denotes => cases keyed
  | postfixed denotes => cases keyed

theorem Parser.Chain.Denotes.descriptor {chain : Chain} {first : TaskTree}
    {rest : List (PipeType × TaskTree)} {key : Nat} (denotes : chain.Denotes first rest)
    (keyed : chain.key = some key) :
    first.label.descriptor = some key ∧ ∃ op, first.label.descriptorPipe = some op := by
  match denotes with
  | .item denotes => exact denotes.descriptor keyed
  | .link denotes _ => exact Parser.Chain.Denotes.descriptor denotes keyed

end EventPipeline
