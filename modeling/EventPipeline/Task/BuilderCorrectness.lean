import EventPipeline.Task.Denotation

/-! # The builder builds the denoted trees

`_parse_ast` on the syntax tree of a derivation either leaves a tree in the heap
that the derivation denotes, made of new tasks only, or ends in an
`AttributeError`, and the latter happens exactly when the derivation is not
buildable.
-/

namespace EventPipeline

open EventPipeline.Parser

/-- A tree that was built after `base`. -/
structure Owned (base heap : Heap) (tree : TaskTree) : Prop where
  grows : Arena.Extends base heap
  stored : tree.Stored heap none
  nodup : tree.ids.Nodup
  fresh : ∀ id ∈ tree.ids, base.size ≤ id

/-- A chain that was built after `base`. -/
structure OwnedSpine (base heap : Heap) (first : TaskTree)
    (rest : List (PipeType × TaskTree)) : Prop where
  grows : Arena.Extends base heap
  stored : (close first rest).Stored heap none
  nodup : (spineIds first rest).Nodup
  fresh : ∀ id ∈ spineIds first rest, base.size ≤ id ∧ id < heap.size

theorem Owned.spine {base heap : Heap} {tree : TaskTree} (owned : Owned base heap tree) :
    OwnedSpine base heap tree [] where
  grows := owned.grows
  stored := owned.stored
  nodup := by simpa [spineIds] using owned.nodup
  fresh := by
    intro id member
    have member : id ∈ tree.ids := by simpa [spineIds] using member
    exact ⟨owned.fresh id member, owned.stored.lt_size id member⟩

theorem OwnedSpine.tree {base heap : Heap} {first : TaskTree}
    {rest : List (PipeType × TaskTree)} (owned : OwnedSpine base heap first rest) :
    Owned base heap (close first rest) where
  grows := owned.grows
  stored := owned.stored
  nodup := close_nodup owned.nodup
  fresh := fun id member => (owned.fresh id (mem_spineIds_of_mem_close member)).1

theorem TaskTree.Stored.extend {heap later : Heap} {parent : Option TaskId}
    {tree : TaskTree} (stored : tree.Stored heap parent) (grows : Arena.Extends heap later) :
    tree.Stored later parent :=
  stored.frame fun id member => grows.2 id (stored.lt_size id member)

theorem Owned.extend {base heap later : Heap} {tree : TaskTree}
    (owned : Owned base heap tree) (grows : Arena.Extends heap later) :
    Owned base later tree where
  grows := owned.grows.trans grows
  stored := owned.stored.extend grows
  nodup := owned.nodup
  fresh := owned.fresh

theorem Owned.rootOf_eq {base heap : Heap} {tree : TaskTree} (owned : Owned base heap tree)
    {id : TaskId} (member : id ∈ tree.ids) : rootOf heap id = .ok tree.id := by
  simp [rootOf, owned.stored.getRoot_eq owned.nodup member]

theorem Owned.disjoint {base middle heap : Heap} {first second : TaskTree}
    (firstOwned : Owned base middle first) (secondOwned : Owned middle heap second) :
    ∀ id ∈ first.ids, ∀ other ∈ second.ids, id ≠ other := by
  intro id member other otherMember
  have below := firstOwned.stored.lt_size id member
  have above := secondOwned.fresh other otherMember
  exact Nat.ne_of_lt (Nat.lt_of_lt_of_le below above)

/-! ## Outcomes of the builder -/

def Builds (ast : Ast) (buildable : Prop) (denotes : TaskTree → Prop) : Prop :=
  ∀ heap : Heap,
    (buildable ∧ ∃ later tree, parseAst ast heap = .ok (.task tree.id, later) ∧
      denotes tree ∧ Owned heap later tree) ∨
    (¬buildable ∧ ∃ message, parseAst ast heap = .error (.attributeError message))

/-- The same for a chain, of which the builder returns the last task. -/
def BuildsSpine (ast : Ast) (buildable : Prop)
    (denotes : TaskTree → List (PipeType × TaskTree) → Prop) : Prop :=
  ∀ heap : Heap,
    (buildable ∧ ∃ later first rest,
      parseAst ast heap = .ok (.task (lastOf first rest).id, later) ∧
      denotes first rest ∧ OwnedSpine heap later first rest) ∨
    (¬buildable ∧ ∃ message, parseAst ast heap = .error (.attributeError message))

theorem parseAst_binOp {op : Operator} {left right : Ast} {heap middle later : Heap}
    {leftNode rightNode : Parsed} (leftParsed : parseAst left heap = .ok (leftNode, middle))
    (rightParsed : parseAst right middle = .ok (rightNode, later)) :
    parseAst (.binOp op left right) heap = combine later op leftNode rightNode := by
  simp [parseAst, leftParsed, rightParsed, bind, Except.bind]

theorem parseAst_binOp_left {op : Operator} {left right : Ast} {heap : Heap}
    {error : PyError} (raised : parseAst left heap = .error error) :
    parseAst (.binOp op left right) heap = .error error := by
  simp [parseAst, raised, bind, Except.bind]

theorem parseAst_binOp_right {op : Operator} {left right : Ast} {heap middle : Heap}
    {leftNode : Parsed} {error : PyError}
    (leftParsed : parseAst left heap = .ok (leftNode, middle))
    (raised : parseAst right middle = .error error) :
    parseAst (.binOp op left right) heap = .error error := by
  simp [parseAst, leftParsed, raised, bind, Except.bind]

theorem parseAst_number (value : Nat) (heap : Heap) :
    parseAst (.number value) heap = .ok (.number value, heap) :=
  rfl

theorem parseAst_descriptor (value : Nat) (heap : Heap) :
    parseAst (.descriptor value) heap = .ok (.number value, heap) :=
  rfl

theorem Owned.relabel {base heap : Heap} {id : TaskId} {label changed : Label}
    {failure sink success : Slot} {customs : Customs}
    (owned : Owned base heap (.node id label failure sink success customs))
    {update : PipelineTask → PipelineTask}
    (updated : update ((TaskTree.node id label failure sink success customs).record none) =
      (TaskTree.node id changed failure sink success customs).record none) :
    Owned base (heap.modify id update) (.node id changed failure sink success customs) where
  grows := owned.grows.modify (owned.fresh _ (TaskTree.id_mem_ids _)) update
  stored := owned.stored.modify_root owned.nodup updated
  nodup := owned.nodup
  fresh := owned.fresh

/-! ## Items -/

theorem annotate_retry {base heap : Heap} {tree : TaskTree} (owned : Owned base heap tree)
    (factor : Nat) :
    ∃ later, annotate heap .retry factor tree.id =
        .ok (.task (tree.setRetries factor).id, later) ∧
      Owned base later (tree.setRetries factor) := by
  rcases tree with ⟨id, label, failure, sink, success, customs⟩
  exact ⟨_, rfl, owned.relabel rfl⟩

theorem annotate_descriptor {base heap : Heap} {tree : TaskTree}
    (owned : Owned base heap tree) (descriptor : Nat) (arrow : Arrow) :
    ∃ later, annotate heap arrow.operator descriptor tree.id =
        .ok (.task (tree.setDescriptor descriptor arrow.operator).id, later) ∧
      Owned base later (tree.setDescriptor descriptor arrow.operator) := by
  have notRetry : arrow.operator ≠ .retry := by cases arrow <;> decide
  have root := owned.rootOf_eq tree.id_mem_ids
  rcases tree with ⟨id, label, failure, sink, success, customs⟩
  refine ⟨heap.modify id fun task =>
    { task with descriptor := some descriptor, descriptorPipe := some arrow.operator },
    ?_, owned.relabel rfl⟩
  simp only [TaskTree.id] at root ⊢
  simp [annotate, notRetry, root, bind, Except.bind, pure, Except.pure, TaskTree.setDescriptor]

theorem builds_prefixed {task : TaskExpr} {factor : RetryFactor}
    (builds : Builds task.ast task.Buildable task.Denotes) :
    Builds (Item.prefixed factor task).ast (Item.prefixed factor task).Buildable
      (Item.prefixed factor task).Denotes := by
  intro heap
  rcases builds heap with
    ⟨buildable, later, tree, parsed, denotes, owned⟩ | ⟨failing, message, raised⟩
  · rcases annotate_retry owned factor with ⟨final, annotated, finalOwned⟩
    refine .inl ⟨.prefixed buildable, final, _, ?_, .prefixed denotes, finalOwned⟩
    exact (parseAst_binOp (parseAst_number _ _) parsed).trans annotated
  · refine .inr ⟨fun buildable => ?_, message, parseAst_binOp_right rfl raised⟩
    cases buildable with
    | prefixed buildable => exact failing buildable

theorem builds_postfixed {task : TaskExpr} {factor : RetryFactor}
    (builds : Builds task.ast task.Buildable task.Denotes) :
    Builds (Item.postfixed task factor).ast (Item.postfixed task factor).Buildable
      (Item.postfixed task factor).Denotes := by
  intro heap
  rcases builds heap with
    ⟨buildable, later, tree, parsed, denotes, owned⟩ | ⟨failing, message, raised⟩
  · rcases annotate_retry owned factor with ⟨final, annotated, finalOwned⟩
    refine .inl ⟨.postfixed buildable, final, _, ?_, .postfixed denotes, finalOwned⟩
    exact (parseAst_binOp parsed (parseAst_number _ _)).trans annotated
  · refine .inr ⟨fun buildable => ?_, message, parseAst_binOp_left raised⟩
    cases buildable with
    | postfixed buildable => exact failing buildable

theorem builds_described {item : Item} {descriptor : Fin 10} {arrow : Arrow}
    (builds : Builds item.ast item.Buildable item.Denotes) :
    Builds (Item.described descriptor arrow item).ast
      (Item.described descriptor arrow item).Buildable
      (Item.described descriptor arrow item).Denotes := by
  intro heap
  rcases builds heap with
    ⟨buildable, later, tree, parsed, denotes, owned⟩ | ⟨failing, message, raised⟩
  · rcases annotate_descriptor owned descriptor arrow with ⟨final, annotated, finalOwned⟩
    refine .inl ⟨.described buildable, final, _, ?_, .described denotes, finalOwned⟩
    exact (parseAst_binOp (parseAst_descriptor _ _) parsed).trans annotated
  · refine .inr ⟨fun buildable => ?_, message, parseAst_binOp_right rfl raised⟩
    cases buildable with
    | described buildable => exact failing buildable

theorem lastOf_append (first next : TaskTree) (rest : List (PipeType × TaskTree))
    (pipe : PipeType) : lastOf first (rest ++ [(pipe, next)]) = next := by
  induction rest generalizing first with
  | nil => rfl
  | cons entry rest induction => exact induction entry.2

theorem OwnedSpine.push {base middle later : Heap} {first tree : TaskTree}
    {rest : List (PipeType × TaskTree)} (pipe : PipeType)
    (spine : OwnedSpine base middle first rest) (owned : Owned middle later tree) :
    OwnedSpine base (link later pipe (lastOf first rest).id tree.id) first
      (rest ++ [(pipe, tree)]) := by
  have last := mem_spineIds_of_mem_close (lastOf_id_mem_close first rest)
  have ids : spineIds first (rest ++ [(pipe, tree)]) = spineIds first rest ++ tree.ids := by
    simp [spineIds]
  have nodup : (spineIds first rest ++ tree.ids).Nodup := by
    refine List.nodup_append.mpr ⟨spine.nodup, owned.nodup, ?_⟩
    intro id member other otherMember
    exact Nat.ne_of_lt (Nat.lt_of_lt_of_le (spine.fresh id member).2
      (owned.fresh other otherMember))
  have above : ∀ id ∈ tree.ids, base.size ≤ id := fun id member =>
    Nat.le_trans spine.grows.1 (owned.fresh id member)
  refine ⟨?_, ?_, ids ▸ nodup, ?_⟩
  · exact ((spine.grows.trans owned.grows).modify (spine.fresh _ last).1 _).modify
      (above _ tree.id_mem_ids) _
  · exact stored_link_close (spine.stored.extend owned.grows) owned.stored nodup
  · intro id member
    have sized : (link later pipe (lastOf first rest).id tree.id).size = later.size := by
      simp [link]
    rw [sized]
    rcases List.mem_append.mp (ids ▸ member) with member | member
    · exact ⟨(spine.fresh id member).1,
        Nat.lt_of_lt_of_le (spine.fresh id member).2 owned.grows.1⟩
    · exact ⟨above id member, owned.stored.lt_size id member⟩

theorem builds_link {chain : Chain} {link : Link} {item : Item}
    (chainBuilds : BuildsSpine chain.ast chain.Buildable chain.Denotes)
    (itemBuilds : Builds item.ast item.Buildable item.Denotes) :
    BuildsSpine (Chain.link chain link item).ast (Chain.link chain link item).Buildable
      (Chain.link chain link item).Denotes := by
  intro heap
  rcases chainBuilds heap with
    ⟨chainBuildable, middle, first, rest, chainParsed, chainDenotes, spine⟩ |
    ⟨failing, message, raised⟩
  · rcases itemBuilds middle with
      ⟨itemBuildable, later, tree, itemParsed, itemDenotes, owned⟩ | ⟨failing, message, raised⟩
    · refine .inl ⟨.link chainBuildable itemBuildable, _, first,
        rest ++ [(link.pipe, tree)], ?_, .link chainDenotes itemDenotes,
        spine.push link.pipe owned⟩
      rw [lastOf_append, Chain.ast, parseAst_binOp chainParsed itemParsed, combine,
        linkPipe_operator]
    · refine .inr ⟨fun buildable => ?_, message, parseAst_binOp_right chainParsed raised⟩
      cases buildable with
      | link _ buildable => exact failing buildable
  · refine .inr ⟨fun buildable => ?_, message, parseAst_binOp_left raised⟩
    cases buildable with
    | link buildable _ => exact failing buildable

/-! ## Groups -/

structure OwnedPair (base heap : Heap) (parent child : TaskTree) : Prop where
  parentOwned : Owned base heap parent
  childOwned : Owned base heap child
  disjoint : ∀ id ∈ parent.ids, ∀ other ∈ child.ids, id ≠ other

/-- Hanging one tree below the root of another. `adopting` is the parent with
the child in one of its places. -/
theorem OwnedPair.adopt {base heap : Heap} {parent child adopting : TaskTree}
    {update : PipelineTask → PipelineTask} (pair : OwnedPair base heap parent child)
    (root : adopting.id = parent.id) (ids : adopting.ids.Perm (parent.ids ++ child.ids))
    (updated : update (parent.record none) = adopting.record none)
    (places : ∀ later : Heap,
      (∀ id ∈ parent.ids, id ≠ parent.id → later.get? id = heap.get? id) →
      child.Stored later (some parent.id) →
      later.get? adopting.id = some (adopting.record none) → adopting.Stored later none) :
    Owned base
      ((heap.modify child.id fun task => { task with parentNode := some parent.id }).modify
        parent.id update) adopting := by
  have parentRoot := parent.id_mem_ids
  have childRoot := child.id_mem_ids
  have outside : parent.id ∉ child.ids := fun member =>
    pair.disjoint _ parentRoot _ member rfl
  have different : parent.id ≠ child.id := pair.disjoint _ parentRoot _ childRoot
  refine ⟨?_, places _ ?_ ?_ ?_, ?_, ?_⟩
  · exact (pair.parentOwned.grows.modify (pair.childOwned.fresh _ childRoot) _).modify
      (pair.parentOwned.fresh _ parentRoot) _
  · intro id member notRoot
    rw [Arena.get?_modify_of_ne _ _ notRoot,
      Arena.get?_modify_of_ne _ _ (pair.disjoint id member _ childRoot)]
  · have adopted : child.Stored
        (heap.modify child.id fun task => { task with parentNode := some parent.id })
        (some parent.id) := by
      have stored := pair.childOwned.stored
      have nodup := pair.childOwned.nodup
      rcases child with ⟨id, label, failure, sink, success, customs⟩
      exact stored.modify_root nodup rfl
    exact adopted.frame fun id member =>
      Arena.get?_modify_of_ne _ _ fun equal => outside (equal ▸ member)
  · rw [root, Arena.get?_modify_self, Arena.get?_modify_of_ne _ _ different,
      pair.parentOwned.stored.record_eq, Option.map_some, updated]
  · exact ids.nodup_iff.mpr (List.nodup_append.mpr
      ⟨pair.parentOwned.nodup, pair.childOwned.nodup, pair.disjoint⟩)
  · intro id member
    rcases List.mem_append.mp (ids.mem_iff.mp member) with member | member
    · exact pair.parentOwned.fresh id member
    · exact pair.childOwned.fresh id member

theorem attachBranch_eq {heap : Heap} {parent : TaskId} {child : TaskTree} {op : Operator}
    (stored : child.Stored heap none) (piped : child.label.descriptorPipe = some op) :
    attachBranch heap parent (.task child.id) =
      (heap.modify child.id fun task => { task with parentNode := some parent }).modify
        parent fun task =>
          if child.label.descriptor = some 0 then
            { task with
              onFailureEvent := some child.id
              onFailurePipe := some (PipeType.getPipeTypeEnum op) }
          else
            { task with
              onSuccessEvent := some child.id
              onSuccessPipe := some (PipeType.getPipeTypeEnum op) } := by
  have record := stored.record_eq
  rcases child with ⟨id, label, failure, sink, success, customs⟩
  simp only [TaskTree.id, TaskTree.label] at record piped ⊢
  simp [attachBranch, record, TaskTree.record, piped]
  rfl

section Attach

variable {base heap : Heap} {id : TaskId} {label : Label} {failure sink success : Slot}
  {customs : Customs} {child : TaskTree} {op : Operator}

theorem OwnedPair.attachFailure
    (pair : OwnedPair base heap (.node id label .vacant sink success customs) child)
    (described : child.label.descriptor = some 0)
    (piped : child.label.descriptorPipe = some op) :
    Owned base (attachBranch heap id (.task child.id))
      (.node id label (.child (PipeType.getPipeTypeEnum op) child) sink success customs) := by
  have owned := pair.parentOwned
  rw [attachBranch_eq pair.childOwned.stored piped]
  refine pair.adopt rfl (List.perm_iff_count.mpr fun task => ?_) ?_ ?_
  · simp only [TaskTree.ids, Slot.ids, List.count_append, List.count_cons, List.count_nil]
    omega
  · simp [described, TaskTree.record, Slot.id?, Slot.pipe?]
  · intro later same childStored record
    have children := owned.stored.children_frame owned.nodup same
    exact ⟨record, childStored, children.2⟩

theorem OwnedPair.attachSuccess
    (pair : OwnedPair base heap (.node id label failure sink .vacant customs) child)
    (described : child.label.descriptor = some 1)
    (piped : child.label.descriptorPipe = some op) :
    Owned base (attachBranch heap id (.task child.id))
      (.node id label failure sink (.child (PipeType.getPipeTypeEnum op) child) customs) := by
  have owned := pair.parentOwned
  rw [attachBranch_eq pair.childOwned.stored piped]
  refine pair.adopt rfl (List.perm_iff_count.mpr fun task => ?_) ?_ ?_
  · simp only [TaskTree.ids, Slot.ids, List.count_append, List.count_cons, List.count_nil]
    omega
  · simp [described, TaskTree.record, Slot.id?, Slot.pipe?]
  · intro later same childStored record
    have children := owned.stored.children_frame owned.nodup same
    exact ⟨record, children.1, children.2.1, childStored, children.2.2.2⟩

theorem OwnedPair.attachCustom {descriptor : Fin 10} (arrow : Arrow) (item : Item)
    (pair : OwnedPair base heap (.node id label failure sink success customs) child)
    (custom : 1 < descriptor.val)
    (absent : descriptor.val ∉ OrderedDict.keys customs.configs) :
    ∃ later, attachCustom heap id (Item.described descriptor arrow item).ast
        (.task child.id) = .ok later ∧
      Owned base later (.node id label failure sink success
        (customs.append (.cons descriptor (PipeType.getPipeTypeEnum arrow.operator)
          child .nil))) := by
  have owned := pair.parentOwned
  refine ⟨(heap.modify child.id fun task => { task with parentNode := some id }).modify id
    fun task => { task with
      extraConfig := (task.extraConfig.addDescriptor descriptor
        (PipeType.getPipeTypeEnum arrow.operator) child.id).1 }, ?_,
    pair.adopt rfl (List.perm_iff_count.mpr fun task => ?_) ?_ ?_⟩
  · simp [EventPipeline.attachCustom, pair.childOwned.rootOf_eq child.id_mem_ids, Item.ast,
      customBranch, bind, Except.bind, pure, Except.pure]
  · simp only [TaskTree.ids, Customs.ids_append, Customs.ids, List.count_append,
      List.count_cons, List.count_nil]
    omega
  · simp only [TaskTree.record, ExtraPipelineTaskConfig.addDescriptor, custom,
      descriptor.isLt, and_self, if_true, OrderedDict.insert_of_not_mem _ absent,
      Customs.configs_append, Customs.configs]
  · intro later same childStored record
    have children := owned.stored.children_frame owned.nodup same
    refine ⟨record, children.1, children.2.1, children.2.2.1, ?_⟩
    exact (Customs.stored_append _ _).mpr ⟨children.2.2.2, childStored, trivial⟩

end Attach

theorem Owned.weaken {earlier base heap : Heap} {tree : TaskTree}
    (owned : Owned base heap tree) (grows : Arena.Extends earlier base) :
    Owned earlier heap tree where
  grows := grows.trans owned.grows
  stored := owned.stored
  nodup := owned.nodup
  fresh := fun id member => Nat.le_trans grows.1 (owned.fresh id member)

theorem Owned.pair {base middle heap : Heap} {first second : TaskTree}
    (firstOwned : Owned base middle first) (secondOwned : Owned middle heap second) :
    OwnedPair base heap first second where
  parentOwned := firstOwned.extend secondOwned.grows
  childOwned := secondOwned.weaken firstOwned.grows
  disjoint := firstOwned.disjoint secondOwned

/-- The syntax trees of the branches that a group keeps. -/
def branchAsts (dict : List (Nat × Chain)) : List (Nat × Ast) :=
  dict.map fun entry => (entry.1, entry.2.ast)

theorem parseBranch_eq (key : Nat) (dict : List (Nat × Chain)) (heap : Heap) :
    parseBranch key (branchAsts dict) heap =
      match OrderedDict.get key dict with
      | none => .ok (.absent, heap)
      | some chain => parseAst chain.ast heap := by
  induction dict with
  | nil => rfl
  | cons entry rest induction =>
      rcases entry with ⟨other, chain⟩
      by_cases same : other = key
      · simp [branchAsts, parseBranch, OrderedDict.get, same]
      · simpa [branchAsts, parseBranch, OrderedDict.get, same] using induction

theorem attachCustom_link {heap : Heap} {id root : TaskId} {chain : Chain} {link : Link}
    {item : Item} {key : Nat} (parent : TaskId) (rooted : rootOf heap id = .ok root)
    (keyed : (Chain.link chain link item).key = some key) :
    ∃ message, attachCustom heap parent (Chain.link chain link item).ast (.task id) =
      .error (.attributeError message) := by
  have leading : chain.key = some key := keyed
  rcases Chain.binOp_of_key leading with ⟨op, left, right, shape, _⟩
  simp [attachCustom, rooted, Chain.ast, shape, customBranch, bind, Except.bind]

/-- What makes the loop over the other descriptors go through. -/
def ExtrasBuildable (dict : List (Nat × Chain)) : Prop :=
  ∀ entry ∈ dict, 1 < entry.1 → entry.2.Buildable ∧ ∃ item, entry.2 = .item item

theorem parseExtras_skip {parent : TaskId} {key : Nat} {chain : Chain}
    {dict : List (Nat × Chain)} {heap : Heap} (small : key ≤ 1) :
    parseExtras parent (branchAsts ((key, chain) :: dict)) heap =
      parseExtras parent (branchAsts dict) heap := by
  have skipped : ¬(key ≠ 1 ∧ key ≠ 0) := by omega
  simp [branchAsts, parseExtras, skipped]

theorem parseExtras_raised {parent : TaskId} {key : Nat} {chain : Chain}
    {dict : List (Nat × Chain)} {heap : Heap} {error : PyError} (custom : 1 < key)
    (raised : parseAst chain.ast heap = .error error) :
    parseExtras parent (branchAsts ((key, chain) :: dict)) heap = .error error := by
  have taken : key ≠ 1 ∧ key ≠ 0 := by omega
  simp [branchAsts, parseExtras, taken, raised, bind, Except.bind]

theorem parseExtras_attach {parent : TaskId} {key : Nat} {chain : Chain}
    {dict : List (Nat × Chain)} {heap later : Heap} {node : Parsed} (custom : 1 < key)
    (parsed : parseAst chain.ast heap = .ok (node, later)) :
    parseExtras parent (branchAsts ((key, chain) :: dict)) heap =
      (attachCustom later parent chain.ast node).bind
        (parseExtras parent (branchAsts dict)) := by
  have taken : key ≠ 1 ∧ key ≠ 0 := by omega
  simp [branchAsts, parseExtras, taken, parsed, bind, Except.bind]

/-- A branch of one item is hung below its parent under its descriptor. -/
theorem attachCustom_item {base heap middle : Heap} {id : TaskId} {label : Label}
    {failure sink success : Slot} {customs : Customs} {item : Item} {first : TaskTree}
    {key : Nat} (owned : Owned base heap (.node id label failure sink success customs))
    (child : Owned heap middle first) (denotes : item.Denotes first)
    (keyed : item.key = some key) (custom : 1 < key)
    (absent : key ∉ OrderedDict.keys customs.configs) :
    ∃ later op, attachCustom middle id item.ast (.task first.id) = .ok later ∧
      first.label.descriptorPipe = some op ∧
      Owned base later (.node id label failure sink success
        (customs.append (.cons key (PipeType.getPipeTypeEnum op) first .nil))) := by
  cases denotes with
  | task denotes => cases keyed
  | prefixed denotes => cases keyed
  | postfixed denotes => cases keyed
  | @described descriptor arrow item tree denotes =>
      cases keyed
      have pair := owned.pair child
      rcases pair.attachCustom arrow item custom absent with ⟨later, attached, final⟩
      refine ⟨later, arrow.operator, attached, ?_, final⟩
      cases tree
      rfl

/-- Every branch for which the loop over the other descriptors goes through is hung
below the parent; else the loop raises. -/
theorem parseExtras_cases {base : Heap} {id : TaskId} {label : Label}
    {failure sink success : Slot} {dict : List (Nat × Chain)}
    (builds : ∀ entry ∈ dict, BuildsSpine entry.2.ast entry.2.Buildable entry.2.Denotes)
    (keyed : ∀ entry ∈ dict, entry.2.key = some entry.1) :
    ∀ (heap : Heap) (customs : Customs),
      Owned base heap (.node id label failure sink success customs) →
      (OrderedDict.keys customs.configs ++ OrderedDict.keys dict).Nodup →
      (ExtrasBuildable dict ∧ ∃ later added,
        parseExtras id (branchAsts dict) heap = .ok later ∧ CustomsDenote dict added ∧
        Owned base later (.node id label failure sink success (customs.append added))) ∨
      (¬ExtrasBuildable dict ∧ ∃ message,
        parseExtras id (branchAsts dict) heap = .error (.attributeError message)) := by
  induction dict with
  | nil =>
      intro heap customs owned _
      exact .inl ⟨by simp [ExtrasBuildable], heap, .nil, rfl, .nil, by simpa using owned⟩
  | cons entry rest induction =>
      intro heap customs owned nodup
      rcases entry with ⟨key, chain⟩
      have restBuilds : ∀ entry ∈ rest,
          BuildsSpine entry.2.ast entry.2.Buildable entry.2.Denotes :=
        fun entry member => builds entry (List.mem_cons_of_mem _ member)
      have restKeyed : ∀ entry ∈ rest, entry.2.key = some entry.1 :=
        fun entry member => keyed entry (List.mem_cons_of_mem _ member)
      have headKeyed : chain.key = some key := keyed (key, chain) (by simp)
      by_cases small : key ≤ 1
      · rw [parseExtras_skip small]
        have buildable : ExtrasBuildable ((key, chain) :: rest) ↔ ExtrasBuildable rest := by
          simp [ExtrasBuildable, Nat.not_lt.mpr small]
        have restNodup :
            (OrderedDict.keys customs.configs ++ OrderedDict.keys rest).Nodup := by
          refine nodup.sublist (List.Sublist.append_left ?_ _)
          exact List.sublist_cons_self _ _
        rcases induction restBuilds restKeyed heap customs owned restNodup with
          ⟨extras, later, added, parsed, denotes, owned⟩ | ⟨failing, message, raised⟩
        · exact .inl ⟨buildable.mpr extras, later, added, parsed, .skip small denotes, owned⟩
        · exact .inr ⟨fun extras => failing (buildable.mp extras), message, raised⟩
      · have custom : 1 < key := by omega
        rcases builds (key, chain) (by simp) heap with
          ⟨buildable, middle, first, below, parsed, denotes, spine⟩ |
          ⟨failing, message, raised⟩
        · rw [parseExtras_attach custom parsed]
          cases denotes with
          | @item item _ denotes =>
              have absent : key ∉ OrderedDict.keys customs.configs := fun present =>
                (List.nodup_append.mp nodup).2.2 key present key (by simp [OrderedDict.keys]) rfl
              have child : Owned heap middle first := spine.tree
              rcases attachCustom_item owned child denotes headKeyed custom absent with
                ⟨later, op, attached, piped, adopted⟩
              have keys : (OrderedDict.keys (customs.append
                  (.cons key (PipeType.getPipeTypeEnum op) first .nil)).configs ++
                  OrderedDict.keys rest).Nodup := by
                simpa [Customs.configs_append, Customs.configs, OrderedDict.keys] using nodup
              simp only [Chain.ast, lastOf, attached, Except.bind]
              rcases induction restBuilds restKeyed later _ adopted keys with
                ⟨extras, final, added, parsed, denote, finalOwned⟩ | ⟨failing, message, raised⟩
              · refine .inl ⟨?_, final, .cons key _ first added, parsed,
                  .cons custom denotes piped denote, ?_⟩
                · intro entry member large
                  rcases List.mem_cons.mp member with rfl | member
                  · exact ⟨buildable, item, rfl⟩
                  · exact extras entry member large
                · rw [Customs.append_assoc] at finalOwned
                  exact finalOwned
              · refine .inr ⟨fun extras => failing fun entry member => ?_, message, raised⟩
                exact extras entry (List.mem_cons_of_mem _ member)
          | @link chain link item _ _ _ denotes _ =>
              rcases attachCustom_link id
                (spine.tree.rootOf_eq (lastOf_id_mem_close first _)) headKeyed with
                ⟨message, raised⟩
              refine .inr ⟨fun extras => ?_, message, by rw [raised]; rfl⟩
              rcases (extras (key, .link chain link item) (by simp) custom).2 with ⟨_, shape⟩
              cases shape
        · refine .inr ⟨fun extras => failing ?_, message, parseExtras_raised custom raised⟩
          exact (extras (key, chain) (by simp) custom).1

/-- What the builder finds under 0 or 1: a tree, or nothing. -/
def branchNode : Option TaskTree → Parsed
  | none => .absent
  | some tree => .task tree.id

/-- The branch that the group keeps under a descriptor has been built. -/
inductive BranchBuilt (base heap : Heap) : Option Chain → Option TaskTree → Prop
  | none : BranchBuilt base heap none none
  | some {chain first rest} : chain.Denotes first rest →
      Owned base heap (close first rest) →
      BranchBuilt base heap (some chain) (some (close first rest))

theorem parseBranch_cases {dict : List (Nat × Chain)}
    (builds : ∀ entry ∈ dict, BuildsSpine entry.2.ast entry.2.Buildable entry.2.Denotes)
    (key : Nat) (heap : Heap) :
    ((∀ chain, OrderedDict.get key dict = some chain → chain.Buildable) ∧
      ∃ later node branch, parseBranch key (branchAsts dict) heap = .ok (node, later) ∧
        Arena.Extends heap later ∧ BranchBuilt heap later (OrderedDict.get key dict) branch ∧
        ∀ final, Arena.Extends later final → node.getRoot final = .ok (branchNode branch)) ∨
    (¬(∀ chain, OrderedDict.get key dict = some chain → chain.Buildable) ∧
      ∃ message, parseBranch key (branchAsts dict) heap =
        .error (.attributeError message)) := by
  rw [parseBranch_eq]
  rcases found : OrderedDict.get key dict with _ | chain
  · exact .inl ⟨by simp, heap, .absent, none, rfl, .refl heap, .none, fun _ _ => rfl⟩
  · rcases builds (key, chain) (OrderedDict.mem_of_get found) heap with
      ⟨buildable, later, first, rest, parsed, denotes, spine⟩ | ⟨failing, message, raised⟩
    · refine .inl ⟨?_, later, .task (lastOf first rest).id, some (close first rest), parsed,
        spine.grows, .some denotes spine.tree, ?_⟩
      · rintro _ ⟨⟩
        exact buildable
      · intro final grows
        have rooted := (spine.tree.extend grows).rootOf_eq (lastOf_id_mem_close first rest)
        simp [Parsed.getRoot, rooted, branchNode, Except.map]
    · exact .inr ⟨fun all => failing (all chain rfl), message, raised⟩

theorem Owned.pairBefore {base middle heap : Heap} {child parent : TaskTree}
    (childOwned : Owned base middle child) (parentOwned : Owned middle heap parent) :
    OwnedPair base heap parent child where
  parentOwned := parentOwned.weaken childOwned.grows
  childOwned := childOwned.extend parentOwned.grows
  disjoint := fun id member other otherMember =>
    (childOwned.disjoint parentOwned other otherMember id member).symm

section Branches

variable {base middle heap : Heap} {id : TaskId} {label : Label}
  {dict : List (Nat × Chain)} {branch : Option TaskTree}

theorem attach_success (keyed : ∀ entry ∈ dict, entry.2.key = some entry.1)
    (built : BranchBuilt base middle (OrderedDict.get 1 dict) branch)
    (grows : Arena.Extends base middle)
    (owned : Owned middle heap (.node id label .vacant .vacant .vacant .nil)) :
    ∃ success, SlotDenotes (OrderedDict.get 1 dict) success ∧
      Owned base (attachBranch heap id (branchNode branch))
        (.node id label .vacant .vacant success .nil) := by
  generalize found : OrderedDict.get 1 dict = kept at built
  cases built with
  | none => exact ⟨.vacant, .vacant, owned.weaken grows⟩
  | @some chain first rest denotes child =>
      rcases denotes.descriptor (keyed (1, chain) (OrderedDict.mem_of_get found)) with
        ⟨described, op, piped⟩
      exact ⟨_, .child denotes piped, (child.pairBefore owned).attachSuccess
        (by simpa using described) (by simpa using piped)⟩

theorem attach_failure {success : Slot}
    (keyed : ∀ entry ∈ dict, entry.2.key = some entry.1)
    (built : BranchBuilt base middle (OrderedDict.get 0 dict) branch)
    (grows : Arena.Extends base middle)
    (owned : Owned middle heap (.node id label .vacant .vacant success .nil)) :
    ∃ failure, SlotDenotes (OrderedDict.get 0 dict) failure ∧
      Owned base (attachBranch heap id (branchNode branch))
        (.node id label failure .vacant success .nil) := by
  generalize found : OrderedDict.get 0 dict = kept at built
  cases built with
  | none => exact ⟨.vacant, .vacant, owned.weaken grows⟩
  | @some chain first rest denotes child =>
      rcases denotes.descriptor (keyed (0, chain) (OrderedDict.mem_of_get found)) with
        ⟨described, op, piped⟩
      exact ⟨_, .child denotes piped, (child.pairBefore owned).attachFailure
        (by simpa using described) (by simpa using piped)⟩

end Branches

theorem owned_alloc (heap : Heap) (name : String) :
    Owned heap (heap.alloc { event := name })
      (.node heap.size { event := name } .vacant .vacant .vacant .nil) where
  grows := Arena.extends_alloc _ _
  stored := ⟨by simp [TaskTree.record, Slot.id?, Slot.pipe?, Customs.configs], trivial,
    trivial, trivial, trivial⟩
  nodup := by simp [TaskTree.ids, Slot.ids, Customs.ids]
  fresh := by simp [TaskTree.ids, Slot.ids, Customs.ids]

theorem parseAst_conditional {task : TaskExpr} {group : Group} {heap middle later : Heap}
    {leftNode rightNode leftRoot rightRoot : Parsed}
    (leftParsed : parseBranch 0 (branchAsts group.dict) heap = .ok (leftNode, middle))
    (rightParsed : parseBranch 1 (branchAsts group.dict) middle = .ok (rightNode, later))
    (leftRooted : leftNode.getRoot later = .ok leftRoot)
    (rightRooted : rightNode.getRoot later = .ok rightRoot) :
    parseAst (TaskExpr.conditional task group).ast heap = do
      let event ← taskValue task.ast
      let attached := attachBranch (attachBranch (later.alloc { event := event }) later.size
        rightRoot) later.size leftRoot
      let final ← parseExtras later.size (branchAsts group.dict) attached
      return (.task later.size, final) := by
  have asts : group.ast = branchAsts group.dict := group.ast_eq
  simp only [TaskExpr.ast, parseAst, asts, leftParsed, rightParsed, leftRooted, rightRooted,
    bind, Except.bind]

theorem parseAst_conditional_left {task : TaskExpr} {group : Group} {heap : Heap}
    {error : PyError}
    (raised : parseBranch 0 (branchAsts group.dict) heap = .error error) :
    parseAst (TaskExpr.conditional task group).ast heap = .error error := by
  have asts : group.ast = branchAsts group.dict := group.ast_eq
  simp only [TaskExpr.ast, parseAst, asts, raised, bind, Except.bind]

theorem parseAst_conditional_right {task : TaskExpr} {group : Group} {heap middle : Heap}
    {leftNode : Parsed} {error : PyError}
    (leftParsed : parseBranch 0 (branchAsts group.dict) heap = .ok (leftNode, middle))
    (raised : parseBranch 1 (branchAsts group.dict) middle = .error error) :
    parseAst (TaskExpr.conditional task group).ast heap = .error error := by
  have asts : group.ast = branchAsts group.dict := group.ast_eq
  simp only [TaskExpr.ast, parseAst, asts, leftParsed, raised, bind, Except.bind]

theorem buildable_conditional_iff (name : String) (group : Group) :
    (TaskExpr.conditional (.name name) group).Buildable ↔
      (∀ chain, OrderedDict.get 0 group.dict = some chain → chain.Buildable) ∧
      (∀ chain, OrderedDict.get 1 group.dict = some chain → chain.Buildable) ∧
      ExtrasBuildable group.dict := by
  constructor
  · intro buildable
    cases buildable with
    | conditional branches single =>
        refine ⟨fun chain found => branches (0, chain) (OrderedDict.mem_of_get found),
          fun chain found => branches (1, chain) (OrderedDict.mem_of_get found), ?_⟩
        exact fun entry member custom => ⟨branches entry member, single entry member custom⟩
  · rintro ⟨left, right, extras⟩
    refine .conditional ?_ fun entry member custom => (extras entry member custom).2
    rintro ⟨key, chain⟩ member
    have found := OrderedDict.get_of_mem group.nodup_keys_dict member
    match key, found with
    | 0, found => exact left chain found
    | 1, found => exact right chain found
    | key + 2, _ => exact (extras (key + 2, chain) member (by simp)).1

theorem buildable_conditional_name {task : TaskExpr} {group : Group}
    (buildable : (TaskExpr.conditional task group).Buildable) : ∃ name, task = .name name := by
  cases buildable
  exact ⟨_, rfl⟩

theorem builds_conditional {task : TaskExpr} {group : Group}
    (branches : ∀ entry ∈ group.dict,
      BuildsSpine entry.2.ast entry.2.Buildable entry.2.Denotes) :
    Builds (TaskExpr.conditional task group).ast (TaskExpr.conditional task group).Buildable
      (TaskExpr.conditional task group).Denotes := by
  intro heap
  have keyed : ∀ entry ∈ group.dict, entry.2.key = some entry.1 :=
    fun entry member => (Group.mem_dict member).2
  rcases parseBranch_cases branches 0 heap with
    ⟨left, middle, leftNode, leftBranch, leftParsed, leftGrows, leftBuilt, leftRooted⟩ |
    ⟨failing, message, raised⟩
  · rcases parseBranch_cases branches 1 middle with
      ⟨right, later, rightNode, rightBranch, rightParsed, rightGrows, rightBuilt, rightRooted⟩ |
      ⟨failing, message, raised⟩
    · rw [parseAst_conditional leftParsed rightParsed (leftRooted later rightGrows)
        (rightRooted later (.refl later))]
      match task with
      | .conditional _ _ =>
          refine .inr ⟨fun buildable => ?_, _, rfl⟩
          rcases buildable_conditional_name buildable with ⟨name, shape⟩
          cases shape
      | .name name =>
          rcases attach_success keyed rightBuilt rightGrows (owned_alloc later name) with
            ⟨success, successDenotes, successOwned⟩
          rcases attach_failure keyed leftBuilt leftGrows successOwned with
            ⟨failure, failureDenotes, failureOwned⟩
          rw [buildable_conditional_iff]
          rcases parseExtras_cases branches keyed _ .nil failureOwned
            (by simpa [Customs.configs] using group.nodup_keys_dict) with
            ⟨extras, final, customs, parsed, customsDenote, finalOwned⟩ |
            ⟨failing, message, raised⟩
          · refine .inl ⟨⟨left, right, extras⟩, final, _, ?_,
              .conditional failureDenotes successDenotes customsDenote, finalOwned⟩
            simp [taskValue, TaskExpr.ast, parsed, bind, Except.bind, pure, Except.pure,
              TaskTree.id]
          · refine .inr ⟨fun buildable => failing buildable.2.2, message, ?_⟩
            simp [taskValue, TaskExpr.ast, raised, bind, Except.bind]
    · refine .inr ⟨fun buildable => failing ?_, message,
        parseAst_conditional_right leftParsed raised⟩
      rcases buildable_conditional_name buildable with ⟨name, rfl⟩
      exact ((buildable_conditional_iff name group).mp buildable).2.1
  · refine .inr ⟨fun buildable => failing ?_, message, parseAst_conditional_left raised⟩
    rcases buildable_conditional_name buildable with ⟨name, rfl⟩
    exact ((buildable_conditional_iff name group).mp buildable).1

/-! ## All derivations -/

mutual
theorem Parser.TaskExpr.builds :
    ∀ task : TaskExpr, Builds task.ast task.Buildable task.Denotes
  | .name name => fun heap => .inl ⟨.name, _, _, rfl, .name, owned_alloc heap name⟩
  | .conditional _ group => builds_conditional fun entry member =>
      Parser.Group.builds group entry.2 (Group.mem_dict member).1

theorem Parser.Item.builds : ∀ item : Item, Builds item.ast item.Buildable item.Denotes
  | .task task => by
      intro heap
      rcases Parser.TaskExpr.builds task heap with
        ⟨buildable, later, tree, parsed, denotes, owned⟩ | ⟨failing, message, raised⟩
      · exact .inl ⟨.task buildable, later, tree, parsed, .task denotes, owned⟩
      · refine .inr ⟨fun buildable => ?_, message, raised⟩
        cases buildable with
        | task buildable => exact failing buildable
  | .prefixed _ task => builds_prefixed (Parser.TaskExpr.builds task)
  | .postfixed task _ => builds_postfixed (Parser.TaskExpr.builds task)
  | .described _ _ item => builds_described (Parser.Item.builds item)

theorem Parser.Chain.builds :
    ∀ chain : Chain, BuildsSpine chain.ast chain.Buildable chain.Denotes
  | .item item => by
      intro heap
      rcases Parser.Item.builds item heap with
        ⟨buildable, later, tree, parsed, denotes, owned⟩ | ⟨failing, message, raised⟩
      · exact .inl ⟨.item buildable, later, tree, [], parsed, .item denotes, owned.spine⟩
      · refine .inr ⟨fun buildable => ?_, message, raised⟩
        cases buildable with
        | item buildable => exact failing buildable
  | .link chain _ item => builds_link (Parser.Chain.builds chain) (Parser.Item.builds item)

theorem Parser.Group.builds : ∀ group : Group, ∀ chain ∈ group.chains,
    BuildsSpine chain.ast chain.Buildable chain.Denotes
  | .pair first second, chain, member => by
      simp only [Group.chains, List.mem_cons, List.not_mem_nil, or_false] at member
      rcases member with equal | equal
      · exact equal ▸ Parser.Chain.builds first
      · exact equal ▸ Parser.Chain.builds second
  | .more group last, chain, member => by
      simp only [Group.chains, List.mem_append, List.mem_singleton] at member
      rcases member with member | equal
      · exact Parser.Group.builds group chain member
      · exact equal ▸ Parser.Chain.builds last
end

end EventPipeline
