import EventPipeline.Parser.Grammar

/-! # The grammar as a language

Derivations of the pointy grammar with its operators grouped to the left, as
the precedence declaration resolves them. Each derivation has the tokens it
yields and the syntax tree that the actions build for it.
-/

namespace EventPipeline.Parser

/-- The operators that may follow a descriptor. -/
inductive Arrow
  | pointer
  | ppointer
deriving DecidableEq, Repr

/-- The operators that join two expressions. -/
inductive Link
  | pointer
  | ppointer
  | parallel
deriving DecidableEq, Repr

def Arrow.operator : Arrow → Operator
  | .pointer => .pointer
  | .ppointer => .ppointer

def Arrow.token : Arrow → Token
  | .pointer => .pointer
  | .ppointer => .ppointer

def Link.operator : Link → Operator
  | .pointer => .pointer
  | .ppointer => .ppointer
  | .parallel => .parallel

def Link.token : Link → Token
  | .pointer => .pointer
  | .ppointer => .ppointer
  | .parallel => .parallel

@[simp] theorem Arrow.token_operator (arrow : Arrow) :
    arrow.token.operator = some arrow.operator := by
  cases arrow <;> rfl

@[simp] theorem Link.token_operator (link : Link) :
    link.token.operator = some link.operator := by
  cases link <;> rfl

/-- A factor that `p_factor` lets pass. -/
abbrev RetryFactor := { factor : Nat // 2 ≤ factor }

mutual
/-- `task` -/
inductive TaskExpr
  | name (name : String)
  | conditional (task : TaskExpr) (group : Group)

/-- An `expression` that is no operator chain. -/
inductive Item
  | task (task : TaskExpr)
  | prefixed (factor : RetryFactor) (task : TaskExpr)
  | postfixed (task : TaskExpr) (factor : RetryFactor)
  | described (descriptor : Fin 10) (arrow : Arrow) (item : Item)

/-- An `expression`: items joined by operators, the first two innermost. -/
inductive Chain
  | item (item : Item)
  | link (chain : Chain) (link : Link) (item : Item)

/-- `task_group` -/
inductive Group
  | pair (first second : Chain)
  | more (group : Group) (chain : Chain)
end

/-! ## Yields -/

mutual
def TaskExpr.tokens : TaskExpr → List Token
  | .name name => [.taskname name]
  | .conditional task group => task.tokens ++ .lparen :: (group.tokens ++ [.rparen])

def Item.tokens : Item → List Token
  | .task task => task.tokens
  | .prefixed factor task => .number factor :: .retry :: task.tokens
  | .postfixed task factor => task.tokens ++ [.retry, .number factor]
  | .described descriptor arrow item => .number descriptor :: arrow.token :: item.tokens

def Chain.tokens : Chain → List Token
  | .item item => item.tokens
  | .link chain link item => chain.tokens ++ link.token :: item.tokens

def Group.tokens : Group → List Token
  | .pair first second => first.tokens ++ .seperator :: second.tokens
  | .more group chain => group.tokens ++ .seperator :: chain.tokens
end

/-! ## Syntax trees -/

mutual
def TaskExpr.ast : TaskExpr → Ast
  | .name name => .taskName name
  | .conditional task group => .conditionalBinOP task.ast group.ast

def Item.ast : Item → Ast
  | .task task => task.ast
  | .prefixed factor task => .binOp .retry (.number factor) task.ast
  | .postfixed task factor => .binOp .retry task.ast (.number factor)
  | .described descriptor arrow item =>
      .binOp arrow.operator (.descriptor descriptor) item.ast

def Chain.ast : Chain → Ast
  | .item item => item.ast
  | .link chain link item => .binOp link.operator chain.ast item.ast

def Group.ast : Group → ConditionalGroup
  | .pair first second => ConditionalGroup.ofExpressions first.ast second.ast
  | .more group chain => ConditionalGroup.setValue chain.ast group.ast chain.ast
end

/-! ## Groups as dictionaries -/

def Item.key : Item → Option Nat
  | .described descriptor _ _ => some descriptor
  | _ => none

def Chain.first : Chain → Item
  | .item only => only
  | .link chain _ _ => chain.first

def Chain.key (chain : Chain) : Option Nat :=
  chain.first.key

/-- The branches of a group in the order they are written. -/
def Group.chains : Group → List Chain
  | .pair first second => [first, second]
  | .more group chain => group.chains ++ [chain]

/-- Store a branch under the descriptor it starts with, if it has one. -/
def storeBranch (dict : List (Nat × Chain)) (chain : Chain) : List (Nat × Chain) :=
  match chain.key with
  | some descriptor => OrderedDict.insert descriptor chain dict
  | none => dict

/-- The branches that a group keeps, under their descriptors. -/
def Group.dict (group : Group) : List (Nat × Chain) :=
  group.chains.foldl storeBranch []

theorem TaskExpr.leftmost_ast (task : TaskExpr) : task.ast.leftmost = none := by
  cases task with
  | name name => rfl
  | conditional task group => rfl

theorem Item.leftmost_ast (item : Item) : item.ast.leftmost = item.key := by
  cases item with
  | task task => exact task.leftmost_ast
  | prefixed factor task => rfl
  | postfixed task factor => exact task.leftmost_ast
  | described descriptor arrow item => rfl

theorem Chain.leftmost_ast : ∀ chain : Chain, chain.ast.leftmost = chain.key
  | .item only => only.leftmost_ast
  | .link chain _ _ => chain.leftmost_ast

/-- A chain with a descriptor is a `BinOp` whose leftmost leaf is that
descriptor. -/
theorem Chain.binOp_of_key {chain : Chain} {descriptor : Nat}
    (keyed : chain.key = some descriptor) :
    ∃ op left right, chain.ast = .binOp op left right ∧
      left.leftmost = some descriptor := by
  cases chain with
  | item item =>
      cases item with
      | described written arrow item => exact ⟨_, _, _, rfl, keyed⟩
      | task task => cases keyed
      | prefixed factor task => cases keyed
      | postfixed task factor => cases keyed
  | link chain link item => exact ⟨_, _, _, rfl, chain.leftmost_ast.trans keyed⟩

theorem storeBranch_map_ast (dict : List (Nat × Chain)) (chain : Chain) :
    (storeBranch dict chain).map (fun entry => (entry.1, entry.2.ast)) =
      ConditionalGroup.setValue chain.ast (dict.map fun entry => (entry.1, entry.2.ast))
        chain.ast := by
  rw [ConditionalGroup.setValue_eq, chain.leftmost_ast, storeBranch]
  cases chain.key with
  | none => rfl
  | some descriptor => exact OrderedDict.insert_map Chain.ast descriptor chain dict

/-- The dictionary that the actions build for a group is the dictionary of its
branches. -/
theorem Group.ast_eq : ∀ group : Group,
    group.ast = group.dict.map fun entry => (entry.1, entry.2.ast)
  | .pair first second => by
      simp only [Group.ast, Group.dict, Group.chains, List.foldl_cons, List.foldl_nil,
        storeBranch_map_ast, List.map_nil, ConditionalGroup.ofExpressions]
  | .more group chain => by
      simp only [Group.ast, Group.dict, Group.chains, List.foldl_append, List.foldl_cons,
        List.foldl_nil, storeBranch_map_ast]
      rw [group.ast_eq, Group.dict]

/-- Every branch of the dictionary is one of the group, stored under the
descriptor it starts with. -/
theorem Group.mem_dict {group : Group} {descriptor : Nat} {chain : Chain}
    (member : (descriptor, chain) ∈ group.dict) :
    chain ∈ group.chains ∧ chain.key = some descriptor := by
  suffices general : ∀ (chains : List Chain) (stored : List (Nat × Chain)),
      (∀ entry ∈ stored, entry.2 ∈ group.chains ∧ entry.2.key = some entry.1) →
      (∀ written ∈ chains, written ∈ group.chains) →
      ∀ entry ∈ chains.foldl storeBranch stored,
        entry.2 ∈ group.chains ∧ entry.2.key = some entry.1 from
    general group.chains [] (by simp) (fun _ written => written) (descriptor, chain) member
  intro chains
  induction chains with
  | nil => exact fun stored kept _ => kept
  | cons first rest induction =>
      intro stored kept written
      apply induction
      · intro entry inserted
        unfold storeBranch at inserted
        split at inserted
        · rename_i key keyed
          rcases OrderedDict.mem_insert inserted with equal | member
          · subst equal
            exact ⟨written first (by simp), keyed⟩
          · exact kept entry member
        · exact kept entry inserted
      · exact fun branch member => written branch (List.mem_cons_of_mem _ member)

theorem Group.nodup_keys_dict (group : Group) : (OrderedDict.keys group.dict).Nodup := by
  suffices general : ∀ (chains : List Chain) (stored : List (Nat × Chain)),
      (OrderedDict.keys stored).Nodup →
        (OrderedDict.keys (chains.foldl storeBranch stored)).Nodup from
    general group.chains [] List.nodup_nil
  intro chains
  induction chains with
  | nil => exact fun stored nodup => nodup
  | cons first rest induction =>
      intro stored nodup
      apply induction
      unfold storeBranch
      split
      · exact OrderedDict.nodup_keys_insert _ _ nodup
      · exact nodup

theorem Group.ofGroup_ast (group : Group) (chain : Chain) :
    ConditionalGroup.ofGroup group.ast chain.ast = .ok (Group.more group chain).ast := by
  have keyed : ConditionalGroup.Keyed group.ast := by
    intro entry member
    rw [group.ast_eq] at member
    rcases List.mem_map.mp member with ⟨⟨descriptor, branch⟩, stored, rfl⟩
    exact Chain.binOp_of_key (Group.mem_dict stored).2
  have nodup : (OrderedDict.keys ([] ++ group.ast)).Nodup := by
    have keys := group.nodup_keys_dict
    rw [List.nil_append, group.ast_eq]
    simpa [OrderedDict.keys, Function.comp_def] using keys
  rw [ConditionalGroup.ofGroup, ConditionalGroup.setBinOps_append keyed [] nodup]
  rfl

end EventPipeline.Parser
