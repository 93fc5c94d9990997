import EventPipeline.Parser.Grammar

/-! # Groups of branches

The left-recursive group rule makes a new group for every further branch, into which it stores the
branches of the group before it again. What comes out is one dictionary of all the branches.
-/

namespace EventPipeline.Parser

/-- The attribute `right` of a node. -/
def Ast.right : Ast → Except PyError (Option Ast)
  | .binOp _ _ right => .ok (some right)
  | .conditionalBinOP _ exprGroup => .ok (OrderedDict.get 1 exprGroup)
  | .taskName _ => .error (.attributeError "'TaskName' object has no attribute 'right'")
  | .descriptor _ => .error (.attributeError "'Descriptor' object has no attribute 'right'")
  | .number _ => .error (.attributeError "'int' object has no attribute 'right'")

def Ast.extraDescriptors : Ast → Except PyError (List Ast)
  | .conditionalBinOP _ exprGroup => .ok (ConditionalGroup.getExtraDescriptors exprGroup)
  | .binOp _ _ _ => .error (.attributeError "'BinOp' object has no attribute 'extra_descriptors'")
  | .taskName _ =>
      .error (.attributeError "'TaskName' object has no attribute 'extra_descriptors'")
  | .descriptor _ =>
      .error (.attributeError "'Descriptor' object has no attribute 'extra_descriptors'")
  | .number _ => .error (.attributeError "'int' object has no attribute 'extra_descriptors'")

/-- The actions for two expressions and for each further one after a separator. -/
def taskGroup (separator : LexToken) (first second : Ast) (rest : List Ast) :
    Except PyError Value := do
  let group ← pTaskGroup [.ast first, .token separator, .ast second]
  rest.foldlM (fun group branch => pTaskGroup [group, .token separator, .ast branch]) group

/-- An operator chain, nested to the left, whose leftmost leaf is a descriptor. -/
structure Branch where
  expression : Ast
  descriptor : Nat
  chained : ∃ op left right, expression = .binOp op left right ∧ left.leftmost = some descriptor

/-- `0 -> A` -/
example : Branch where
  expression := .binOp .pointer (.descriptor 0) (.taskName "A")
  descriptor := 0
  chained := ⟨_, _, _, rfl, rfl⟩

namespace Branch

def entry (branch : Branch) : Nat × Ast :=
  (branch.descriptor, branch.expression)

theorem leftmost_expression (branch : Branch) :
    branch.expression.leftmost = some branch.descriptor := by
  rcases branch.chained with ⟨op, left, right, shape, leftmost⟩
  rw [shape]
  exact leftmost

def lastWith (branches : List Branch) (descriptor : Nat) : Option Ast :=
  (branches.filter fun branch => branch.descriptor = descriptor).getLast?.map expression

theorem last_entries (branches : List Branch) (descriptor : Nat) :
    OrderedDict.last descriptor (branches.map entry) = lastWith branches descriptor := by
  rw [OrderedDict.last, lastWith, List.filter_map, List.getLast?_map, Option.map_map]
  rfl

/-- The descriptors in order of first occurrence. -/
def descriptors (branches : List Branch) : List Nat :=
  addAll [] (branches.map descriptor)

end Branch

/-- The dictionary of a group has the descriptors of the branches in the order in which they first
occur, each with the last branch that carries it. The node of the group shows the branches of `0`
and `1`, and the others in that order. -/
structure Flattened (branches : List Branch) (group : ConditionalGroup) : Prop where
  keys : OrderedDict.keys group = Branch.descriptors branches
  values : ∀ descriptor, OrderedDict.get descriptor group = Branch.lastWith branches descriptor
  left : ∀ parent, (Ast.conditionalBinOP parent group).left = .ok (Branch.lastWith branches 0)
  right : ∀ parent, (Ast.conditionalBinOP parent group).right = .ok (Branch.lastWith branches 1)
  extras : ∀ parent, (Ast.conditionalBinOP parent group).extraDescriptors =
    .ok (((Branch.descriptors branches).filter fun descriptor =>
      descriptor ≠ 1 ∧ descriptor ≠ 0).filterMap (Branch.lastWith branches))

/-! ## One more branch -/

namespace ConditionalGroup

structure Stored (group : ConditionalGroup) : Prop where
  keyed : group.Keyed
  nodup : (OrderedDict.keys group).Nodup

theorem setValue_expression (branch : Branch) (group : ConditionalGroup) :
    setValue branch.expression group branch.expression =
      OrderedDict.insert branch.descriptor branch.expression group := by
  rw [setValue_eq, branch.leftmost_expression]

theorem Stored.insert {group : ConditionalGroup} (stored : group.Stored) (branch : Branch) :
    Stored (OrderedDict.insert branch.descriptor branch.expression group) where
  keyed := by
    intro entry member
    rcases OrderedDict.mem_insert member with rfl | member
    · exact branch.chained
    · exact stored.keyed entry member
  nodup := OrderedDict.nodup_keys_insert _ _ stored.nodup

theorem Stored.setBinOps_eq {group : ConditionalGroup} (stored : group.Stored) :
    setBinOps (getBinOps group) [] = .ok group :=
  setBinOps_append stored.keyed [] stored.nodup

theorem Stored.pTaskGroup_eq {group : ConditionalGroup} (stored : group.Stored)
    (separator : LexToken) (branch : Branch) :
    pTaskGroup [.group group, .token separator, .ast branch.expression] =
      .ok (.group (OrderedDict.insert branch.descriptor branch.expression group)) := by
  rw [pTaskGroup, ofGroup, stored.setBinOps_eq]
  simp only [setValue_expression]

/-! ## All branches -/

theorem Stored.foldlM_eq {group : ConditionalGroup} (stored : group.Stored)
    (separator : LexToken) (rest : List Branch) :
    (rest.map Branch.expression).foldlM
        (fun group branch => pTaskGroup [group, .token separator, .ast branch])
        (.group group) =
      .ok (.group (OrderedDict.update group (rest.map Branch.entry))) := by
  induction rest generalizing group with
  | nil => rfl
  | cons branch rest induction =>
      rw [List.map_cons, List.foldlM_cons, stored.pTaskGroup_eq separator branch]
      exact induction (stored.insert branch)

theorem taskGroup_eq (separator : LexToken) (first second : Branch) (rest : List Branch) :
    taskGroup separator first.expression second.expression (rest.map Branch.expression) =
      .ok (.group (OrderedDict.update [] ((first :: second :: rest).map Branch.entry))) := by
  have empty : Stored [] := ⟨fun entry member => absurd member List.not_mem_nil, List.nodup_nil⟩
  have pair : pTaskGroup [.ast first.expression, .token separator, .ast second.expression] =
      .ok (.group (OrderedDict.insert second.descriptor second.expression
        (OrderedDict.insert first.descriptor first.expression []))) := by
    rw [pTaskGroup, ofExpressions, setValue_expression, setValue_expression]
  rw [taskGroup, pair]
  exact ((empty.insert first).insert second).foldlM_eq separator rest

end ConditionalGroup

theorem map_snd_filter {group : List (Nat × Ast)} (nodup : (OrderedDict.keys group).Nodup)
    (keeps : Nat → Bool) :
    (group.filter fun entry => keeps entry.1).map Prod.snd =
      ((OrderedDict.keys group).filter keeps).filterMap fun key => OrderedDict.get key group := by
  rw [OrderedDict.keys, List.filter_map, List.filterMap_map]
  have found : ∀ entry ∈ group.filter (keeps ∘ Prod.fst),
      ((fun key => OrderedDict.get key group) ∘ Prod.fst) entry = some entry.2 := by
    intro entry member
    exact OrderedDict.get_of_mem nodup (List.mem_filter.mp member).1
  rw [List.filterMap_congr found]
  exact (congrFun List.filterMap_eq_map _).symm

/-- The group rule keeps every descriptor, with the last branch that carries it. -/
theorem taskGroup_flattened (separator lparen rparen : LexToken) (parent : Ast)
    (first second : Branch) (rest : List Branch) :
    ∃ group, taskGroup separator first.expression second.expression
        (rest.map Branch.expression) = .ok (.group group) ∧
      pTaskConditionalStatement
        [.ast parent, .token lparen, .group group, .token rparen] =
          .ok (.ast (.conditionalBinOP parent group)) ∧
      Flattened (first :: second :: rest) group := by
  refine ⟨_, ConditionalGroup.taskGroup_eq separator first second rest, rfl, ?_⟩
  generalize first :: second :: rest = branches
  have keys : OrderedDict.keys (OrderedDict.update [] (branches.map Branch.entry)) =
      Branch.descriptors branches := by
    rw [OrderedDict.keys_update, Branch.descriptors]
    simp [OrderedDict.keys, Function.comp_def, Branch.entry]
  have values : ∀ descriptor,
      OrderedDict.get descriptor (OrderedDict.update [] (branches.map Branch.entry)) =
        Branch.lastWith branches descriptor := by
    intro descriptor
    rw [OrderedDict.get_update_last, Branch.last_entries, OrderedDict.get_nil, Option.or_none]
  refine ⟨keys, values, ?_, ?_, ?_⟩
  · intro parent
    rw [Ast.left, values]
  · intro parent
    rw [Ast.right, values]
  · intro parent
    have nodup : (Branch.descriptors branches).Nodup := nodup_addAll List.nodup_nil _
    have extras := map_snd_filter (keys ▸ nodup) fun descriptor =>
      decide (descriptor ≠ 1 ∧ descriptor ≠ 0)
    rw [keys] at extras
    simp only [values] at extras
    rw [Ast.extraDescriptors, ConditionalGroup.getExtraDescriptors, extras]

end EventPipeline.Parser
