import EventPipeline.Task.Acceptance
import Mathlib.Data.List.Chain

/-! # Scripts and the trees that mirror them

The language of the tutorials: chains of tasks with retry factors and with
groups of one failure and one success branch. A script that spells no retry
factor between a name and its group is accepted, and the tree built for it has
its shape; a script that does is rejected.
-/

namespace EventPipeline

open EventPipeline.Parser

/-! ## The language -/

/-- How a retry factor is written: not at all, in front of the name, behind the
item, or behind the name and in front of the group. -/
inductive Retry
  | absent
  | leading (factor : RetryFactor)
  | trailing (factor : RetryFactor)
  | inside (factor : RetryFactor)

def Retry.factor : Retry → Option Nat
  | .absent => none
  | .leading factor | .trailing factor | .inside factor => some factor

mutual
inductive ScriptItem
  | task (name : String) (retry : Retry)
  | conditional (name : String) (retry : Retry) (group : ScriptGroup)

/-- Items joined by operators. -/
inductive Script
  | last (item : ScriptItem)
  | cons (item : ScriptItem) (op : Link) (rest : Script)

/-- `failureFirst` tells which branch is written first. -/
inductive ScriptGroup
  | mk (failureFirst : Bool) (failureOp : Arrow) (failure : Script)
      (successOp : Arrow) (success : Script)
end

def Retry.before : Retry → List Token
  | .leading factor => [.number factor, .retry]
  | _ => []

def Retry.between : Retry → List Token
  | .inside factor => [.retry, .number factor]
  | _ => []

def Retry.after : Retry → List Token
  | .trailing factor => [.retry, .number factor]
  | _ => []

mutual
def ScriptItem.tokens : ScriptItem → List Token
  | .task name retry => retry.before ++ (.taskname name :: (retry.between ++ retry.after))
  | .conditional name retry group =>
      retry.before ++ (.taskname name :: (retry.between ++
        (.lparen :: (group.tokens ++ .rparen :: retry.after))))

def Script.tokens : Script → List Token
  | .last item => item.tokens
  | .cons item op rest => item.tokens ++ op.token :: rest.tokens

def ScriptGroup.tokens : ScriptGroup → List Token
  | .mk failureFirst failureOp failure successOp success =>
      let failureTokens := .number 0 :: failureOp.token :: failure.tokens
      let successTokens := .number 1 :: successOp.token :: success.tokens
      if failureFirst then failureTokens ++ .seperator :: successTokens
      else successTokens ++ .seperator :: failureTokens
end

mutual
def ScriptItem.wellSpelled : ScriptItem → Bool
  | .task _ _ => true
  | .conditional _ retry group => retry.between.isEmpty && group.wellSpelled

def Script.wellSpelled : Script → Bool
  | .last item => item.wellSpelled
  | .cons item _ rest => item.wellSpelled && rest.wellSpelled

def ScriptGroup.wellSpelled : ScriptGroup → Bool
  | .mk _ _ failure _ success => failure.wellSpelled && success.wellSpelled
end

/-! ## Their derivations -/

def Retry.apply (retry : Retry) (task : TaskExpr) : Item :=
  match retry with
  | .absent => .task task
  | .leading factor => .prefixed factor task
  | .trailing factor | .inside factor => .postfixed task factor

mutual
def ScriptItem.item : ScriptItem → Item
  | .task name retry => retry.apply (.name name)
  | .conditional name retry group => retry.apply (.conditional (.name name) group.group)

def Script.behind : Script → Chain → Link → Chain
  | .last item, chain, op => .link chain op item.item
  | .cons item next rest, chain, op => rest.behind (.link chain op item.item) next

def Script.chain : Script → (Item → Item) → Chain
  | .last item, wrap => .item (wrap item.item)
  | .cons item op rest, wrap => rest.behind (.item (wrap item.item)) op

def ScriptGroup.group : ScriptGroup → Group
  | .mk failureFirst failureOp failure successOp success =>
      let failureChain := failure.chain (.described 0 failureOp)
      let successChain := success.chain (.described 1 successOp)
      if failureFirst then .pair failureChain successChain
      else .pair successChain failureChain
end

mutual
theorem ScriptItem.tokens_item : ∀ item : ScriptItem, item.wellSpelled = true →
    item.item.tokens = item.tokens
  | .task name retry, _ => by cases retry <;> rfl
  | .conditional name retry group, spelled => by
      simp only [ScriptItem.wellSpelled, Bool.and_eq_true] at spelled
      have inner := ScriptGroup.tokens_group group spelled.2
      cases retry with
      | inside factor => cases spelled.1
      | absent =>
          simp [ScriptItem.item, ScriptItem.tokens, Retry.apply, Retry.before, Retry.between,
            Retry.after, Item.tokens, TaskExpr.tokens, inner]
      | leading factor =>
          simp [ScriptItem.item, ScriptItem.tokens, Retry.apply, Retry.before, Retry.between,
            Retry.after, Item.tokens, TaskExpr.tokens, inner]
      | trailing factor =>
          simp [ScriptItem.item, ScriptItem.tokens, Retry.apply, Retry.before, Retry.between,
            Retry.after, Item.tokens, TaskExpr.tokens, inner]

theorem Script.tokens_behind : ∀ (script : Script) (chain : Chain) (op : Link),
    script.wellSpelled = true →
    (script.behind chain op).tokens = chain.tokens ++ op.token :: script.tokens
  | .last item, chain, op, spelled => by
      simp [Script.behind, Chain.tokens, Script.tokens,
        ScriptItem.tokens_item item spelled]
  | .cons item next rest, chain, op, spelled => by
      simp only [Script.wellSpelled, Bool.and_eq_true] at spelled
      simp [Script.behind, Chain.tokens, Script.tokens,
        Script.tokens_behind rest _ next spelled.2, ScriptItem.tokens_item item spelled.1]

theorem Script.tokens_chain : ∀ (script : Script) (wrap : Item → Item)
    (leading : List Token), (∀ item, (wrap item).tokens = leading ++ item.tokens) →
    script.wellSpelled = true → (script.chain wrap).tokens = leading ++ script.tokens
  | .last item, wrap, leading, wrapped, spelled => by
      simp [Script.chain, Chain.tokens, Script.tokens, wrapped,
        ScriptItem.tokens_item item spelled]
  | .cons item op rest, wrap, leading, wrapped, spelled => by
      simp only [Script.wellSpelled, Bool.and_eq_true] at spelled
      simp [Script.chain, Chain.tokens, Script.tokens, wrapped,
        Script.tokens_behind rest _ op spelled.2, ScriptItem.tokens_item item spelled.1]

theorem ScriptGroup.tokens_group : ∀ group : ScriptGroup, group.wellSpelled = true →
    group.group.tokens = group.tokens
  | .mk failureFirst failureOp failure successOp success, spelled => by
      simp only [ScriptGroup.wellSpelled, Bool.and_eq_true] at spelled
      have left := Script.tokens_chain failure (.described 0 failureOp)
        [.number 0, failureOp.token] (fun _ => rfl) spelled.1
      have right := Script.tokens_chain success (.described 1 successOp)
        [.number 1, successOp.token] (fun _ => rfl) spelled.2
      cases failureFirst <;>
        simp [ScriptGroup.group, ScriptGroup.tokens, Group.tokens, left, right]
end

/-! ## Misspelled scripts -/

/-- No number stands in front of an opening parenthesis. -/
def Adjacent (first second : Token) : Prop :=
  second = .lparen → first.isNumber = false

/-- Tokens that can stand behind any others. -/
structure Placeable (tokens : List Token) : Prop where
  adjacent : tokens.IsChain Adjacent
  head : ∀ token ∈ tokens.head?, token ≠ .lparen

theorem Placeable.append {left right : List Token} (leftPlaceable : Placeable left)
    (rightPlaceable : Placeable right) : Placeable (left ++ right) := by
  constructor
  · exact leftPlaceable.adjacent.append rightPlaceable.adjacent
      fun first _ second member opens => absurd opens (rightPlaceable.head second member)
  · intro token member
    rw [List.head?_append] at member
    cases left with
    | nil => exact rightPlaceable.head token (by simpa using member)
    | cons head tail => exact leftPlaceable.head token (by simpa using member)

theorem placeable_singleton {token : Token} (other : token ≠ .lparen) :
    Placeable [token] :=
  ⟨List.isChain_singleton token, by simpa using other⟩

theorem Placeable.cons {token : Token} {rest : List Token} (placeable : Placeable rest)
    (other : token ≠ .lparen) : Placeable (token :: rest) :=
  (placeable_singleton other).append placeable

mutual
theorem Parser.TaskExpr.placeable : ∀ task : TaskExpr, Placeable task.tokens ∧
    ∃ token, task.tokens.getLast? = some token ∧ token.isNumber = false
  | .name name => ⟨placeable_singleton (by simp), .taskname name, rfl, rfl⟩
  | .conditional task group => by
      rcases Parser.TaskExpr.placeable task with ⟨inner, last, found, noNumber⟩
      have closing : Placeable [Token.rparen] := placeable_singleton (by simp)
      have branches := (Parser.Group.placeable group).append closing
      refine ⟨⟨?_, ?_⟩, .rparen, ?_, rfl⟩
      · refine inner.adjacent.append ?_ ?_
        · exact branches.adjacent.cons fun second member opens =>
            absurd opens (branches.head second member)
        · intro first member second _ _
          rw [found, Option.mem_def, Option.some_inj] at member
          exact member ▸ noNumber
      · have nonempty : task.tokens ≠ [] := by
          intro empty
          simp [empty] at found
        intro token member
        rw [TaskExpr.tokens, List.head?_append_of_ne_nil _ nonempty] at member
        exact inner.head token member
      · rw [TaskExpr.tokens, ← List.cons_append, ← List.append_assoc]
        exact List.getLast?_concat

theorem Parser.Item.placeable : ∀ item : Item, Placeable item.tokens
  | .task task => (Parser.TaskExpr.placeable task).1
  | .prefixed factor task =>
      ((Parser.TaskExpr.placeable task).1.cons (by simp)).cons (by simp)
  | .postfixed task factor => (Parser.TaskExpr.placeable task).1.append
      ((placeable_singleton (by simp)).cons (by simp))
  | .described descriptor arrow item =>
      ((Parser.Item.placeable item).cons (by cases arrow <;> simp [Arrow.token])).cons
        (by simp)

theorem Parser.Chain.placeable : ∀ chain : Chain, Placeable chain.tokens
  | .item item => Parser.Item.placeable item
  | .link chain link item => (Parser.Chain.placeable chain).append
      ((Parser.Item.placeable item).cons (by cases link <;> simp [Link.token]))

theorem Parser.Group.placeable : ∀ group : Group, Placeable group.tokens
  | .pair first second => (Parser.Chain.placeable first).append
      ((Parser.Chain.placeable second).cons (by simp))
  | .more group chain => (Parser.Group.placeable group).append
      ((Parser.Chain.placeable chain).cons (by simp))
end

/-- A number in front of an opening parenthesis, somewhere in the tokens. -/
def Misplaced (tokens : List Token) : Prop :=
  ∃ before factor after, tokens = before ++ .number factor :: .lparen :: after

theorem Misplaced.append_left {tokens : List Token} (misplaced : Misplaced tokens)
    (left : List Token) : Misplaced (left ++ tokens) := by
  rcases misplaced with ⟨before, factor, after, rfl⟩
  exact ⟨left ++ before, factor, after, by simp⟩

theorem Misplaced.append_right {tokens : List Token} (misplaced : Misplaced tokens)
    (right : List Token) : Misplaced (tokens ++ right) := by
  rcases misplaced with ⟨before, factor, after, rfl⟩
  exact ⟨before, factor, after ++ right, by simp⟩

theorem Misplaced.cons {tokens : List Token} (misplaced : Misplaced tokens)
    (token : Token) : Misplaced (token :: tokens) :=
  misplaced.append_left [token]

mutual
theorem ScriptItem.misplaced : ∀ item : ScriptItem, item.wellSpelled = false →
    Misplaced item.tokens
  | .conditional name retry group, misspelled => by
      simp only [ScriptItem.wellSpelled, Bool.and_eq_false_iff] at misspelled
      rw [ScriptItem.tokens]
      refine (Misplaced.cons ?_ _).append_left _
      rcases misspelled with between | inner
      · cases retry with
        | inside factor => exact ⟨[.retry], factor, _, rfl⟩
        | absent => cases between
        | leading factor => cases between
        | trailing factor => cases between
      · exact (((ScriptGroup.misplaced group inner).append_right _).cons _).append_left _

theorem Script.misplaced : ∀ script : Script, script.wellSpelled = false →
    Misplaced script.tokens
  | .last item, misspelled => ScriptItem.misplaced item misspelled
  | .cons item op rest, misspelled => by
      simp only [Script.wellSpelled, Bool.and_eq_false_iff] at misspelled
      rcases misspelled with first | later
      · exact (ScriptItem.misplaced item first).append_right _
      · exact ((Script.misplaced rest later).cons _).append_left _

theorem ScriptGroup.misplaced : ∀ group : ScriptGroup, group.wellSpelled = false →
    Misplaced group.tokens
  | .mk failureFirst failureOp failure successOp success, misspelled => by
      simp only [ScriptGroup.wellSpelled, Bool.and_eq_false_iff] at misspelled
      rw [ScriptGroup.tokens]
      rcases misspelled with inner | inner
      · have misplaced := ((Script.misplaced failure inner).cons failureOp.token).cons
          (.number 0)
        cases failureFirst
        · exact (misplaced.cons _).append_left _
        · exact misplaced.append_right _
      · have misplaced := ((Script.misplaced success inner).cons successOp.token).cons
          (.number 1)
        cases failureFirst
        · exact misplaced.append_right _
        · exact (misplaced.cons _).append_left _
end

theorem Parser.Chain.not_misplaced (chain : Chain) : ¬Misplaced chain.tokens := by
  rintro ⟨before, factor, after, shape⟩
  have adjacent := chain.placeable.adjacent
  rw [shape] at adjacent
  have pair := (List.isChain_cons_cons.mp adjacent.right_of_append).1
  cases pair rfl

end EventPipeline
