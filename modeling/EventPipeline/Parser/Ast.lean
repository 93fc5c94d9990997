import EventPipeline.Foundation.OrderedDict
import EventPipeline.Parser.Lexer

/-! # The abstract syntax of pointy scripts

The node classes of `parser/ast.py`. A `ConditionalGroup` is the dictionary
that it fills from its branches: the key of a branch is the descriptor at the
far left of its operator chain.
-/

namespace EventPipeline.Parser

/-- The operator texts `->`, `|->`, `||` and `*`. -/
inductive Operator
  | pointer
  | ppointer
  | parallel
  | retry
deriving DecidableEq, Repr

def Token.operator : Token → Option Operator
  | .pointer => some .pointer
  | .ppointer => some .ppointer
  | .parallel => some .parallel
  | .retry => some .retry
  | _ => none

/-- `number` is the bare integer that a retry factor contributes. The second
argument of `conditionalBinOP` is the `_descriptors` dictionary of its group. -/
inductive Ast
  | binOp (op : Operator) (left right : Ast)
  | taskName (value : String)
  | descriptor (value : Nat)
  | number (value : Nat)
  | conditionalBinOP (parent : Ast) (exprGroup : List (Nat × Ast))

/-- The `_descriptors` dictionary of a `ConditionalGroup`. -/
abbrev ConditionalGroup := List (Nat × Ast)

def Ast.left : Ast → Except PyError (Option Ast)
  | .binOp _ left _ => .ok (some left)
  | .conditionalBinOP _ exprGroup => .ok (OrderedDict.get 0 exprGroup)
  | .taskName _ => .error (.attributeError "'TaskName' object has no attribute 'left'")
  | .descriptor _ => .error (.attributeError "'Descriptor' object has no attribute 'left'")
  | .number _ => .error (.attributeError "'int' object has no attribute 'left'")

namespace ConditionalGroup

/-- `set_value` on an expression: descend to the far left and, when a
descriptor stands there, store the whole branch under it. -/
def setValue (initial : Ast) (group : ConditionalGroup) : Ast → ConditionalGroup
  | .binOp _ left _ => setValue initial group left
  | .descriptor value => OrderedDict.insert value initial group
  | _ => group

/-- `set_value` on a group: store its branches again one by one. -/
def setBinOps : List Ast → ConditionalGroup → Except PyError ConditionalGroup
  | [], group => .ok group
  | binOp :: rest, group =>
      match binOp.left with
      | .error error => .error error
      | .ok none => setBinOps rest group
      | .ok (some left) => setBinOps rest (setValue binOp group left)

def getBinOps (group : ConditionalGroup) : List Ast :=
  group.map Prod.snd

/-- `ConditionalGroup(expr0, expr1)` on two expressions. -/
def ofExpressions (expr0 expr1 : Ast) : ConditionalGroup :=
  setValue expr1 (setValue expr0 [] expr0) expr1

/-- `ConditionalGroup(expr0, expr1)` on a group and an expression. -/
def ofGroup (expr0 : ConditionalGroup) (expr1 : Ast) : Except PyError ConditionalGroup :=
  match setBinOps (getBinOps expr0) [] with
  | .error error => .error error
  | .ok group => .ok (setValue expr1 group expr1)

/-- The branches that are stored under neither `0` nor `1`. -/
def getExtraDescriptors (group : ConditionalGroup) : List Ast :=
  (group.filter fun entry => entry.1 ≠ 1 ∧ entry.1 ≠ 0).map Prod.snd

end ConditionalGroup

/-- The descriptor at the far left of an operator chain. -/
def Ast.leftmost : Ast → Option Nat
  | .binOp _ left _ => left.leftmost
  | .descriptor value => some value
  | _ => none

namespace ConditionalGroup

/-- Storing a branch is an insertion under its leftmost descriptor. -/
theorem setValue_eq (initial : Ast) (group : ConditionalGroup) : ∀ value : Ast,
    setValue initial group value =
      match value.leftmost with
      | some descriptor => OrderedDict.insert descriptor initial group
      | none => group
  | .binOp _ left _ => setValue_eq initial group left
  | .taskName _ => rfl
  | .descriptor _ => rfl
  | .number _ => rfl
  | .conditionalBinOP _ _ => rfl

/-- Every entry is a `BinOp` stored under its leftmost descriptor. -/
def Keyed (group : ConditionalGroup) : Prop :=
  ∀ entry ∈ group, ∃ op left right, entry.2 = .binOp op left right ∧
    left.leftmost = some entry.1

/-- Storing the branches of a group again, in front of nothing that has their
keys, appends them as they were. -/
theorem setBinOps_append {group : ConditionalGroup} (keyed : group.Keyed) :
    ∀ stored : ConditionalGroup, (OrderedDict.keys (stored ++ group)).Nodup →
      setBinOps (getBinOps group) stored = .ok (stored ++ group) := by
  induction group with
  | nil => intro stored _; simp [getBinOps, setBinOps]
  | cons entry rest induction =>
      intro stored nodup
      rcases entry with ⟨key, branch⟩
      rcases keyed (key, branch) (by simp) with ⟨op, left, right, shape, leftmost⟩
      dsimp only at shape leftmost
      subst shape
      have absent : key ∉ OrderedDict.keys stored := by
        intro present
        simp only [OrderedDict.keys, List.map_append, List.map_cons] at nodup present
        exact (List.nodup_append.mp nodup).2.2 key present key (by simp) rfl
      have restKeyed : Keyed rest := fun entry member =>
        keyed entry (List.mem_cons_of_mem _ member)
      simp only [getBinOps, List.map_cons, setBinOps, Ast.left, setValue_eq, leftmost,
        OrderedDict.insert_of_not_mem _ absent]
      have reordered : stored ++ (key, Ast.binOp op left right) :: rest =
          (stored ++ [(key, Ast.binOp op left right)]) ++ rest := by simp
      rw [reordered] at nodup ⊢
      exact induction restKeyed _ nodup

end ConditionalGroup

end EventPipeline.Parser
