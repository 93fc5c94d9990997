import EventPipeline.Task.Coverage
import EventPipeline.Task.Edges
import EventPipeline.Task.Mirroring

/-! # Branches under descriptors of their own

What it means that the tasks of a heap stand for a script with groups of any kind. The branches
under other descriptors than 0 and 1 are built like the others, but their descriptor is read off
the top of their syntax tree, where it stands for branches of a single item only.
-/

namespace EventPipeline

open EventPipeline.Parser

/-- The operator behind the descriptor that a chain starts with. -/
def Parser.Chain.arrow? (chain : Chain) : Option Arrow :=
  match chain.first with
  | .described _ arrow _ => some arrow
  | _ => none

/-- The task in front of the group is conditional: what follows it becomes its sink. -/
def Parser.Group.decides (group : Group) : Bool :=
  group.dict.any (fun entry => 1 < entry.1) ||
    ((OrderedDict.get 1 group.dict).isSome && (OrderedDict.get 0 group.dict).isSome)

def Parser.TaskExpr.decides : TaskExpr → Bool
  | .name _ => false
  | .conditional _ group => group.decides

def Parser.Item.decides : Item → Bool
  | .task inner | .prefixed _ inner | .postfixed inner _ => inner.decides
  | .described _ _ inner => inner.decides

def Parser.Chain.decides : Chain → Bool
  | .item last | .link _ _ last => last.decides

/-- The branch of the task `id` under a descriptor starts with the task `head`. -/
structure Registers (heap : Heap) (id : TaskId) (task : PipelineTask) (descriptor : Nat)
    (op : Arrow) (head : TaskId) : Prop where
  leads : task.getDescriptor descriptor = some head
  config : 1 < descriptor → ∃ config,
    task.extraConfig.getDescriptorConfig descriptor = some config ∧ config.pipe = op.pipe ∧
      config.task = head
  parent : (heap.get? head).bind PipelineTask.parentNode = some id
  pointer : heap.getPointerTypeToThisEvent head = some (.pipe op.pipe)

mutual
/-- The task `id` stands for an expression with another one behind it, or without. What follows a
task that does not decide takes the place of its branch under 1. -/
inductive TaskStands (heap : Heap) : Bool → TaskExpr → TaskId → Prop
  | name {followed name id task} : heap.get? id = some task → task.event = name →
      TaskStands heap followed (.name name) id
  | conditional {followed name group id task} : heap.get? id = some task → task.event = name →
      (∀ descriptor branch, (descriptor, branch) ∈ group.dict →
        (descriptor = 1 → followed = false ∨ group.decides = true) →
        BranchStands heap id task descriptor branch) →
      TaskStands heap followed (.conditional (.name name) group) id

inductive ItemStands (heap : Heap) : Bool → Item → TaskId → Prop
  | task {followed task id} : TaskStands heap followed task id →
      ItemStands heap followed (.task task) id
  | prefixed {followed factor task id} : TaskStands heap followed task id →
      ItemStands heap followed (.prefixed factor task) id
  | postfixed {followed task factor id} : TaskStands heap followed task id →
      ItemStands heap followed (.postfixed task factor) id
  | described {followed descriptor arrow item id} : ItemStands heap followed item id →
      ItemStands heap followed (.described descriptor arrow item) id

inductive ChainStands (heap : Heap) : Bool → Chain → TaskId → TaskId → Prop
  | item {followed item id} : ItemStands heap followed item id →
      ChainStands heap followed (.item item) id id
  | link {followed chain link item first last next} : ChainStands heap true chain first last →
      Follows heap chain.decides last link next → ItemStands heap followed item next →
      ChainStands heap followed (.link chain link item) first next

/-- The branch of the task `id` under a descriptor stands for a chain. -/
inductive BranchStands (heap : Heap) : TaskId → PipelineTask → Nat → Chain → Prop
  | branch {id task descriptor branch op head last} : branch.arrow? = some op →
      Registers heap id task descriptor op head → ChainStands heap false branch head last →
      BranchStands heap id task descriptor branch
end

/-- The lexer reads the chain from the text, to the end of the text. -/
structure Writes (code : String) (chain : Chain) : Prop where
  tokens : tokensOf code = chain.tokens
  ending : (Lexer.initial.input code.toList).tokens.2 = none

/-- The text is accepted, and the tree below the root stands for the script with the branches of
all its groups. -/
def RegistersBranches (lexer : Lexer) (code : String) (chain : Chain) : Prop :=
  ∃ root heap last, (buildPipelineFromExecutionCode lexer code).1 = .ok (root, heap) ∧
    (heap.get? root).bind PipelineTask.parentNode = none ∧
    ChainStands heap false chain root last

/-! ## Trees with something behind them -/

/-- A tree to whose root nothing, or another tree, has been attached. -/
structure Grown (followed : Bool) (tree grown : TaskTree) : Prop where
  id : grown.id = tree.id
  event : grown.label.event = tree.label.event
  failure : grown.failure = tree.failure
  customs : grown.customs = tree.customs
  success : followed = false ∨ tree.isConditional = true → grown.success = tree.success

theorem Grown.refl (tree : TaskTree) : Grown false tree tree :=
  ⟨rfl, rfl, rfl, rfl, fun _ => rfl⟩

theorem Grown.attach (tree : TaskTree) (pipe : PipeType) (next : TaskTree) :
    Grown true tree (tree.attach pipe next) := by
  rcases tree with ⟨id, label, failure, sink, success, customs⟩
  rw [TaskTree.attach]
  by_cases conditional :
      (TaskTree.node id label failure sink success customs).isConditional = true
  · rw [if_pos conditional]
    exact ⟨rfl, rfl, rfl, rfl, fun _ => rfl⟩
  · rw [if_neg conditional]
    refine ⟨rfl, rfl, rfl, rfl, ?_⟩
    rintro (absent | decides)
    · cases absent
    · exact absurd decides conditional

theorem Grown.close (first : TaskTree) (rest : List (PipeType × TaskTree)) :
    Grown (!rest.isEmpty) first (close first rest) := by
  cases rest with
  | nil => exact Grown.refl first
  | cons entry rest => exact Grown.attach first entry.1 _

theorem Grown.of_setRetries {followed : Bool} {tree grown : TaskTree} {factor : Nat}
    (grows : Grown followed (tree.setRetries factor) grown) : Grown followed tree grown := by
  cases tree
  exact ⟨grows.id, grows.event, grows.failure, grows.customs, grows.success⟩

theorem Grown.of_setDescriptor {followed : Bool} {tree grown : TaskTree} {descriptor : Nat}
    {op : Operator} (grows : Grown followed (tree.setDescriptor descriptor op) grown) :
    Grown followed tree grown := by
  cases tree
  exact ⟨grows.id, grows.event, grows.failure, grows.customs, grows.success⟩

/-! ## Conditional trees -/

theorem CustomsDenote.isEmpty_heads {dict : List (Nat × Chain)} {customs : Customs}
    (denotes : CustomsDenote dict customs) :
    (!customs.heads.isEmpty) = dict.any fun entry => 1 < entry.1 := by
  rw [Bool.eq_iff_iff, Bool.not_eq_true', List.isEmpty_eq_false_iff, ← List.length_pos_iff,
    denotes.length_heads, List.length_filter_pos_iff, List.any_eq_true]

theorem Parser.TaskExpr.Denotes.isConditional_eq {task : TaskExpr} {tree : TaskTree}
    (denotes : task.Denotes tree) : tree.isConditional = task.decides := by
  cases denotes with
  | name => rfl
  | conditional failureDenotes successDenotes customsDenote =>
      rw [TaskTree.isConditional, customsDenote.isEmpty_heads, successDenotes.isVacant_eq,
        failureDenotes.isVacant_eq, Option.not_isNone, Option.not_isNone]
      rfl

theorem Parser.Item.Denotes.isConditional_eq {item : Item} {tree : TaskTree}
    (denotes : item.Denotes tree) : tree.isConditional = item.decides := by
  cases denotes with
  | task denotes => exact denotes.isConditional_eq
  | @prefixed _ _ tree denotes =>
      cases tree
      exact denotes.isConditional_eq
  | @postfixed _ _ tree denotes =>
      cases tree
      exact denotes.isConditional_eq
  | @described _ _ _ tree denotes =>
      have inner := Parser.Item.Denotes.isConditional_eq denotes
      cases tree
      exact inner

theorem Parser.Chain.Denotes.isConditional_lastOf {chain : Chain} {first : TaskTree}
    {rest : List (PipeType × TaskTree)} (denotes : chain.Denotes first rest) :
    (lastOf first rest).isConditional = chain.decides := by
  cases denotes with
  | item denotes => exact denotes.isConditional_eq
  | link _ denotes =>
      rw [lastOf_append]
      exact denotes.isConditional_eq

/-! ## Chains in the heap -/

theorem TaskTree.attach_edge (tree : TaskTree) (pipe : PipeType) (next : TaskTree) :
    (if tree.isConditional then Position.sink else .success, pipe, next) ∈
      (tree.attach pipe next).edges := by
  rcases tree with ⟨id, label, failure, sink, success, customs⟩
  rw [TaskTree.attach]
  split
  · simp [TaskTree.edges, TaskTree.sink, Slot.edges]
  · simp [TaskTree.edges, TaskTree.success, Slot.edges]

section Planted

variable {heap : Heap} {above : Option TaskId}

theorem Planted.attached {tree next : TaskTree} {pipe : PipeType}
    (planted : Planted heap above (tree.attach pipe next)) :
    Planted heap (some tree.id) next := by
  have below := planted.child (TaskTree.mem_children_of_edge (tree.attach_edge pipe next))
  rwa [TaskTree.attach_id] at below

theorem Planted.lastOf {first : TaskTree} {rest more : List (PipeType × TaskTree)}
    (planted : Planted heap above (close first (rest ++ more))) :
    ∃ above, Planted heap above (close (lastOf first rest) more) := by
  induction rest generalizing first above with
  | nil => exact ⟨above, planted⟩
  | cons entry rest induction => exact induction planted.attached

theorem Planted.follows {tree next : TaskTree} {link : Link}
    (planted : Planted heap above (tree.attach link.pipe next)) :
    Follows heap tree.isConditional tree.id link next.id := by
  have record := planted.stored.record_eq
  rw [TaskTree.attach_id] at record
  refine ⟨⟨_, planted.attached.stored.record_eq, TaskTree.record_parentNode _ _⟩,
    planted.stored.pointer_of_edge planted.nodup planted.scripted (tree.attach_edge _ _),
    _, record, ?_⟩
  rcases tree with ⟨id, label, failure, sink, success, customs⟩
  rw [TaskTree.attach]
  split
  · exact ⟨rfl, rfl⟩
  · exact ⟨rfl, rfl⟩

theorem Registers.of_edge {tree kid : TaskTree} {position : Position} {descriptor : Nat}
    {op : Arrow} (planted : Planted heap above tree)
    (edge : (position, op.pipe, kid) ∈ tree.edges)
    (leads : (tree.record above).getDescriptor descriptor = some kid.id)
    (config : 1 < descriptor → (tree.record above).extraConfig.getDescriptorConfig descriptor =
      some ⟨descriptor, op.pipe, kid.id⟩) :
    Registers heap tree.id (tree.record above) descriptor op kid.id := by
  have below := planted.child (TaskTree.mem_children_of_edge edge)
  refine ⟨leads, fun custom => ⟨_, config custom, rfl, rfl⟩, ?_,
    planted.stored.pointer_of_edge planted.nodup planted.scripted edge⟩
  rw [below.stored.record_eq, Option.bind_some, TaskTree.record_parentNode]

end Planted

/-! ## The branches of a group -/

theorem Parser.Chain.Denotes.arrow {chain : Chain} {first : TaskTree}
    {rest : List (PipeType × TaskTree)} {descriptor : Nat} (denotes : chain.Denotes first rest)
    (keyed : chain.key = some descriptor) :
    ∃ op : Arrow, chain.arrow? = some op ∧ first.label.descriptorPipe = some op.operator := by
  match denotes with
  | .link denotes _ =>
      have inner := Parser.Chain.Denotes.arrow denotes keyed
      exact inner
  | @Parser.Chain.Denotes.item only _ denotes =>
      cases only with
      | described _ arrow _ => exact ⟨arrow, rfl, (described_label denotes).2⟩
      | task _ => cases keyed
      | prefixed _ _ => cases keyed
      | postfixed _ _ => cases keyed

theorem SlotDenotes.branch {chain : Chain} {slot : Slot} {descriptor : Nat}
    (denotes : SlotDenotes (some chain) slot) (keyed : chain.key = some descriptor) :
    ∃ (op : Arrow) (first : TaskTree) (rest : List (PipeType × TaskTree)),
      chain.arrow? = some op ∧ chain.Denotes first rest ∧
      slot = .child op.pipe (close first rest) := by
  cases denotes with
  | @child _ first rest op denotes piped =>
      rcases denotes.arrow keyed with ⟨arrow, written, recorded⟩
      rw [piped, Option.some_inj] at recorded
      rw [recorded, arrow.getPipeTypeEnum_operator]
      exact ⟨arrow, first, rest, written, denotes, rfl⟩

theorem CustomsDenote.branch {dict : List (Nat × Chain)} {customs : Customs} {descriptor : Nat}
    {chain : Chain} (denotes : CustomsDenote dict customs) (member : (descriptor, chain) ∈ dict)
    (custom : 1 < descriptor) (keyed : chain.key = some descriptor) :
    ∃ (op : Arrow) (tree : TaskTree), chain.arrow? = some op ∧ chain.Denotes tree [] ∧
      (Position.custom, op.pipe, tree) ∈ customs.edges := by
  match denotes with
  | .nil => cases member
  | .skip small denotes =>
      rcases List.mem_cons.mp member with same | member
      · cases same
        exact absurd custom (Nat.not_lt.mpr small)
      · exact CustomsDenote.branch denotes member custom keyed
  | @CustomsDenote.cons _ item _ tree _ _ _ itemDenotes piped denotes =>
      rcases List.mem_cons.mp member with same | member
      · cases same
        have chainDenotes : (Chain.item item).Denotes tree [] := .item itemDenotes
        rcases chainDenotes.arrow keyed with ⟨arrow, written, recorded⟩
        rw [piped, Option.some_inj] at recorded
        rw [recorded, arrow.getPipeTypeEnum_operator]
        exact ⟨arrow, tree, written, chainDenotes, List.mem_cons_self⟩
      · rcases CustomsDenote.branch denotes member custom keyed with
          ⟨arrow, tree, written, treeDenotes, edge⟩
        exact ⟨arrow, tree, written, treeDenotes, List.mem_cons_of_mem _ edge⟩

theorem TaskTree.record_getDescriptor_zero (above : Option TaskId) (tree : TaskTree) :
    (tree.record above).getDescriptor 0 = tree.failure.id? := by
  cases tree
  rfl

theorem TaskTree.record_getDescriptor_one (above : Option TaskId) (tree : TaskTree) :
    (tree.record above).getDescriptor 1 = tree.success.id? := by
  cases tree
  rfl

theorem Registers.of_slot {heap : Heap} {above : Option TaskId} {tree kid : TaskTree}
    {slot : Slot} {descriptor : Nat} {op : Arrow} (position : Position)
    (planted : Planted heap above tree) (small : descriptor ≤ 1)
    (place : slot = .child op.pipe kid)
    (inside : ∀ edge ∈ slot.edges position, edge ∈ tree.edges)
    (leads : (tree.record above).getDescriptor descriptor = slot.id?) :
    Planted heap (some tree.id) kid ∧
      Registers heap tree.id (tree.record above) descriptor op kid.id := by
  subst place
  have edge := inside (position, op.pipe, kid) List.mem_cons_self
  refine ⟨planted.child (TaskTree.mem_children_of_edge edge), .of_edge planted edge leads ?_⟩
  intro custom
  exact absurd custom (Nat.not_lt.mpr small)

theorem Registers.of_custom {heap : Heap} {above : Option TaskId} {tree kid : TaskTree}
    {descriptor : Nat} {op : Arrow} (planted : Planted heap above tree) (custom : 1 < descriptor)
    (keyed : kid.label.descriptor = some descriptor)
    (edge : (Position.custom, op.pipe, kid) ∈ tree.customs.edges) :
    Planted heap (some tree.id) kid ∧
      Registers heap tree.id (tree.record above) descriptor op kid.id := by
  have inside : (Position.custom, op.pipe, kid) ∈ tree.edges := by
    simp only [TaskTree.edges, List.mem_append]
    exact .inr (.inr (.inr edge))
  have config : (tree.record above).extraConfig.getDescriptorConfig descriptor =
      some ⟨descriptor, op.pipe, kid.id⟩ := by
    have scripted := planted.scripted
    cases tree
    rcases Customs.get_of_edge scripted.2.2.1 scripted.2.2.2.2.2.2 edge with ⟨key, same, found⟩
    rw [keyed, Option.some_inj] at same
    subst same
    exact found
  have other : descriptor ≠ 0 ∧ descriptor ≠ 1 := by omega
  have leads : (tree.record above).getDescriptor descriptor = some kid.id := by
    rw [PipelineTask.getDescriptor, if_neg other.1, if_neg other.2, config]
    rfl
  exact ⟨planted.child (TaskTree.mem_children_of_edge inside),
    .of_edge planted inside leads fun _ => config⟩

theorem registers_branch {heap : Heap} {above : Option TaskId} {followed : Bool} {name : String}
    {group : Group} {tree grown : TaskTree}
    (denotes : (TaskExpr.conditional (.name name) group).Denotes tree)
    (grows : Grown followed tree grown) (planted : Planted heap above grown) {descriptor : Nat}
    {chain : Chain} (member : (descriptor, chain) ∈ group.dict)
    (kept : descriptor = 1 → followed = false ∨ group.decides = true) :
    ∃ (op : Arrow) (first : TaskTree) (rest : List (PipeType × TaskTree)),
      chain.arrow? = some op ∧ chain.Denotes first rest ∧
      Planted heap (some grown.id) (close first rest) ∧
      Registers heap grown.id (grown.record above) descriptor op (close first rest).id := by
  have keyed := (Group.mem_dict member).2
  have found := OrderedDict.get_of_mem group.nodup_keys_dict member
  have decides : tree.isConditional = group.decides := denotes.isConditional_eq
  rw [← decides] at kept
  rcases denotes with _ | ⟨failureDenotes, successDenotes, customsDenote⟩
  by_cases zero : descriptor = 0
  · subst zero
    rw [found] at failureDenotes
    rcases failureDenotes.branch keyed with ⟨op, first, rest, written, denotes, place⟩
    refine ⟨op, first, rest, written, denotes, Registers.of_slot .failure planted
      (Nat.zero_le 1) (grows.failure.trans place) ?_ (grown.record_getDescriptor_zero above)⟩
    exact fun edge member => List.mem_append_left _ member
  by_cases one : descriptor = 1
  · subst one
    rw [found] at successDenotes
    rcases successDenotes.branch keyed with ⟨op, first, rest, written, denotes, place⟩
    refine ⟨op, first, rest, written, denotes, Registers.of_slot .success planted
      (Nat.le_refl 1) ((grows.success (kept rfl)).trans place) ?_
      (grown.record_getDescriptor_one above)⟩
    intro edge member
    simp only [TaskTree.edges, List.mem_append]
    exact .inr (.inr (.inl member))
  · have custom : 1 < descriptor := by omega
    rcases customsDenote.branch member custom keyed with ⟨op, only, written, denotes, edge⟩
    refine ⟨op, only, [], written, denotes, Registers.of_custom planted custom
      (denotes.descriptor keyed).1 ?_⟩
    rw [grows.customs]
    exact edge

/-! ## All derivations -/

theorem TaskTree.record_event (above : Option TaskId) (tree : TaskTree) :
    (tree.record above).event = tree.label.event := by
  cases tree
  rfl

theorem Parser.TaskExpr.Denotes.event {name : String} {group : Group} {tree : TaskTree}
    (denotes : (TaskExpr.conditional (.name name) group).Denotes tree) :
    tree.label.event = name := by
  cases denotes
  rfl

section Stands

variable {heap : Heap}

mutual
theorem Parser.TaskExpr.stands : ∀ (task : TaskExpr) {followed : Bool} {tree grown : TaskTree}
    {above : Option TaskId}, task.Denotes tree → Grown followed tree grown →
    Planted heap above grown → TaskStands heap followed task grown.id
  | .name _, _, _, grown, above, .name, grows, planted =>
      .name planted.stored.record_eq ((grown.record_event above).trans grows.event)
  | .conditional (.name _) group, _, _, grown, above, denotes, grows, planted => by
      refine .conditional planted.stored.record_eq
        ((grown.record_event above).trans (grows.event.trans denotes.event)) ?_
      intro descriptor branch member kept
      rcases registers_branch denotes grows planted member kept with
        ⟨op, first, rest, written, branchDenotes, below, registers⟩
      rw [close_id] at registers
      exact .branch written registers
        (Parser.Group.stands group branch (Group.mem_dict member).1 branchDenotes below)

theorem Parser.Item.stands : ∀ (item : Item) {followed : Bool} {tree grown : TaskTree}
    {above : Option TaskId}, item.Denotes tree → Grown followed tree grown →
    Planted heap above grown → ItemStands heap followed item grown.id
  | .task task, _, _, _, _, .task denotes, grows, planted =>
      .task (Parser.TaskExpr.stands task denotes grows planted)
  | .prefixed _ task, _, _, _, _, .prefixed denotes, grows, planted =>
      .prefixed (Parser.TaskExpr.stands task denotes grows.of_setRetries planted)
  | .postfixed task _, _, _, _, _, .postfixed denotes, grows, planted =>
      .postfixed (Parser.TaskExpr.stands task denotes grows.of_setRetries planted)
  | .described _ _ item, _, _, _, _, .described denotes, grows, planted =>
      .described (Parser.Item.stands item denotes grows.of_setDescriptor planted)

theorem Parser.Chain.stands : ∀ (chain : Chain) {first : TaskTree}
    {rest more : List (PipeType × TaskTree)} {above : Option TaskId}, chain.Denotes first rest →
    Planted heap above (close first (rest ++ more)) →
    ChainStands heap (!more.isEmpty) chain first.id (lastOf first rest).id
  | .item item, first, _, more, _, .item denotes, planted => by
      have stands := Parser.Item.stands item denotes (Grown.close first more) planted
      rw [close_id] at stands
      exact .item stands
  | .link chain link item, first, _, more, _, @Parser.Chain.Denotes.link _ _ _ _ rest tree
      chainDenotes itemDenotes, planted => by
      rw [List.append_assoc, List.singleton_append] at planted
      have stands := Parser.Chain.stands chain chainDenotes planted
      rcases planted.lastOf with ⟨above, ending⟩
      have follows := ending.follows
      have itemStands := Parser.Item.stands item itemDenotes (Grown.close tree more)
        ending.attached
      rw [chainDenotes.isConditional_lastOf, close_id] at follows
      rw [close_id] at itemStands
      rw [lastOf_append]
      exact .link stands follows itemStands

theorem Parser.Group.stands : ∀ (group : Group), ∀ chain ∈ group.chains, ∀ {first : TaskTree}
    {rest : List (PipeType × TaskTree)} {above : Option TaskId}, chain.Denotes first rest →
    Planted heap above (close first rest) →
    ChainStands heap false chain first.id (lastOf first rest).id
  | .pair left right, chain, member, first, rest, above, denotes, planted => by
      rw [← List.append_nil rest] at planted
      simp only [Group.chains, List.mem_cons, List.not_mem_nil, or_false] at member
      rcases member with equal | equal
      · rw [equal] at denotes ⊢
        exact Parser.Chain.stands left denotes planted
      · rw [equal] at denotes ⊢
        exact Parser.Chain.stands right denotes planted
  | .more group last, chain, member, first, rest, above, denotes, planted => by
      simp only [Group.chains, List.mem_append, List.mem_singleton] at member
      rcases member with member | equal
      · exact Parser.Group.stands group chain member denotes planted
      · rw [equal] at denotes ⊢
        rw [← List.append_nil rest] at planted
        exact Parser.Chain.stands last denotes planted
end

end Stands

/-! ## The scripts whose branches are registered -/

theorem Parser.TaskExpr.tokens_ne_nil (task : TaskExpr) : task.tokens ≠ [] := by
  cases task <;> simp [TaskExpr.tokens]

theorem Parser.Item.tokens_ne_nil (item : Item) : item.tokens ≠ [] := by
  cases item with
  | task task => exact task.tokens_ne_nil
  | prefixed factor task => simp [Item.tokens]
  | postfixed task factor => simp [Item.tokens]
  | described descriptor arrow item => simp [Item.tokens]

theorem Parser.Chain.tokens_ne_nil (chain : Chain) : chain.tokens ≠ [] := by
  cases chain with
  | item only => exact only.tokens_ne_nil
  | link chain link last => simp [Chain.tokens]

theorem Writes.nonempty {code : String} {chain : Chain} (writes : Writes code chain) :
    code ≠ "" := by
  rintro rfl
  exact chain.tokens_ne_nil writes.tokens.symm

theorem Writes.accepted {code : String} {chain : Chain} (writes : Writes code chain)
    (lexer : Lexer) : parseOutcome lexer code = .accepted (.ast chain.ast) :=
  (parseOutcome_accepted_iff lexer code _).mpr ⟨writes.ending, chain, rfl, writes.tokens⟩

theorem Parser.Chain.Denotes.planted {chain : Chain} {first : TaskTree}
    {rest : List (PipeType × TaskTree)} {heap : Heap} (denotes : chain.Denotes first rest)
    (owned : Owned .empty heap (close first rest)) : Planted heap none (close first rest) := by
  have unlinked := denotes.unlinked
  have scripted := denotes.scripted
  exact ⟨owned.stored, owned.nodup, close_proper unlinked.1 unlinked.2,
    close_scripted scripted.1 scripted.2⟩

/-- The builder registers the branches of exactly those scripts in which every branch under a
descriptor other than 0 and 1 is a single item and no group stands behind a group. -/
theorem registersBranches_iff (lexer : Lexer) (code : String) (chain : Chain)
    (writes : Writes code chain) : RegistersBranches lexer code chain ↔ chain.Buildable := by
  rcases build_of_accepted writes.nonempty (writes.accepted lexer) with
    ⟨buildable, heap, first, rest, built, denotes, owned⟩ | ⟨failing, message, raised⟩
  · refine ⟨fun _ => buildable, fun _ => ⟨first.id, heap, (lastOf first rest).id, built, ?_, ?_⟩⟩
    · have record := owned.stored.record_eq
      rw [close_id] at record
      rw [record, Option.bind_some, TaskTree.record_parentNode]
    · have planted := denotes.planted owned
      rw [← List.append_nil rest] at planted
      exact chain.stands denotes planted
  · refine ⟨fun registers => ?_, fun buildable => absurd buildable failing⟩
    rcases registers with ⟨root, heap, last, built, _⟩
    rw [raised] at built
    cases built

theorem last_digit_lt (value : Nat) : value % 10 < 10 := by
  omega

/-- The descriptor that a digit stands for. -/
def digit (value : Nat) : Fin 10 :=
  ⟨value % 10, last_digit_lt value⟩

def branchOfOne (value : Nat) (arrow : Arrow) (name : String) : Chain :=
  .item (.described (digit value) arrow (.task (.name name)))

/-- The text `value->first->second`. -/
def branchOfTwo (value : Nat) (first second : String) : Chain :=
  .link (branchOfOne value .pointer first) .pointer (.task (.name second))

/-- The group of the text `A(0->B->C,1->D,3|->E)`. -/
def customItem : Group :=
  .more (.pair (branchOfTwo 0 "B" "C") (branchOfOne 1 .pointer "D")) (branchOfOne 3 .ppointer "E")

theorem customItem_dict : customItem.dict = [(0, branchOfTwo 0 "B" "C"),
    (1, branchOfOne 1 .pointer "D"), (3, branchOfOne 3 .ppointer "E")] := rfl

theorem branchOfOne_buildable (value : Nat) (arrow : Arrow) (name : String) :
    (branchOfOne value arrow name).Buildable :=
  .item (.described (.task .name))

theorem branchOfTwo_buildable (value : Nat) (first second : String) :
    (branchOfTwo value first second).Buildable :=
  .link (branchOfOne_buildable value .pointer first) (.task .name)

theorem customItem_buildable : (TaskExpr.conditional (.name "A") customItem).Buildable := by
  apply TaskExpr.Buildable.conditional
  · rw [customItem_dict]
    intro entry member
    rcases List.mem_cons.mp member with rfl | member
    · exact branchOfTwo_buildable 0 "B" "C"
    rcases List.mem_cons.mp member with rfl | member
    · exact branchOfOne_buildable 1 .pointer "D"
    · rw [List.mem_singleton.mp member]
      exact branchOfOne_buildable 3 .ppointer "E"
  · rw [customItem_dict]
    intro entry member custom
    rcases List.mem_cons.mp member with rfl | member
    · cases custom
    rcases List.mem_cons.mp member with rfl | member
    · exact ⟨_, rfl⟩
    · rw [List.mem_singleton.mp member]
      exact ⟨_, rfl⟩

theorem registersBranches_customItem :
    Writes "A(0->B->C,1->D,3|->E)" (.item (.task (.conditional (.name "A") customItem))) ∧
      RegistersBranches .initial "A(0->B->C,1->D,3|->E)"
        (.item (.task (.conditional (.name "A") customItem))) :=
  ⟨⟨rfl, rfl⟩, (registersBranches_iff .initial _ _ ⟨rfl, rfl⟩).mpr
    (.item (.task customItem_buildable))⟩

/-- The group of the text `A(0->B,1->C,3->D->E)`. -/
def customChain : Group :=
  .more (.pair (branchOfOne 0 .pointer "B") (branchOfOne 1 .pointer "C")) (branchOfTwo 3 "D" "E")

/-- The top of the branch is the arrow between its two tasks, with no `value` to its left. -/
theorem not_registersBranches_customChain :
    Writes "A(0->B,1->C,3->D->E)" (.item (.task (.conditional (.name "A") customChain))) ∧
      ¬RegistersBranches .initial "A(0->B,1->C,3->D->E)"
        (.item (.task (.conditional (.name "A") customChain))) := by
  have raised : (buildPipelineFromExecutionCode .initial "A(0->B,1->C,3->D->E)").1 =
      .error (.attributeError "'BinOp' object has no attribute 'value'") := rfl
  refine ⟨⟨rfl, rfl⟩, ?_⟩
  rintro ⟨root, heap, last, built, _⟩
  rw [raised] at built
  cases built

end EventPipeline
