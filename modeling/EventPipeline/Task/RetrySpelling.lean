import EventPipeline.Task.Script

/-! # Where a retry factor may stand

A task with a retry factor and a condition group has three spellings in the
tutorials: the factor in front of the name, behind the group, or between the
two. Each can be put into every place of a script that holds an item.
-/

namespace EventPipeline

open EventPipeline.Parser

/-! ## Places for items -/

mutual
/-- A chain with a hole for an item. -/
inductive ChainPlace
  | item (place : ItemPlace)
  | earlier (place : ChainPlace) (link : Link) (item : Item)
  | later (chain : Chain) (link : Link) (place : ItemPlace)

inductive ItemPlace
  | here
  | task (place : TaskPlace)
  | prefixed (factor : RetryFactor) (place : TaskPlace)
  | postfixed (place : TaskPlace) (factor : RetryFactor)
  | described (descriptor : Fin 10) (arrow : Arrow) (place : ItemPlace)

inductive TaskPlace
  | parent (place : TaskPlace) (group : Group)
  | branch (task : TaskExpr) (place : GroupPlace)

inductive GroupPlace
  | first (place : ChainPlace) (second : Chain)
  | second (first : Chain) (place : ChainPlace)
  | earlier (place : GroupPlace) (chain : Chain)
  | later (group : Group) (place : ChainPlace)
end

mutual
def ChainPlace.fill (written : Item) : ChainPlace → Chain
  | .item place => .item (place.fill written)
  | .earlier place link item => .link (place.fill written) link item
  | .later chain link place => .link chain link (place.fill written)

def ItemPlace.fill (written : Item) : ItemPlace → Item
  | .here => written
  | .task place => .task (place.fill written)
  | .prefixed factor place => .prefixed factor (place.fill written)
  | .postfixed place factor => .postfixed (place.fill written) factor
  | .described descriptor arrow place => .described descriptor arrow (place.fill written)

def TaskPlace.fill (written : Item) : TaskPlace → TaskExpr
  | .parent place group => .conditional (place.fill written) group
  | .branch task place => .conditional task (place.fill written)

def GroupPlace.fill (written : Item) : GroupPlace → Group
  | .first place second => .pair (place.fill written) second
  | .second first place => .pair first (place.fill written)
  | .earlier place chain => .more (place.fill written) chain
  | .later group place => .more group (place.fill written)
end

mutual
/-- The tokens of the script when the hole holds the given tokens. -/
def ChainPlace.tokens (written : List Token) : ChainPlace → List Token
  | .item place => place.tokens written
  | .earlier place link item => place.tokens written ++ link.token :: item.tokens
  | .later chain link place => chain.tokens ++ link.token :: place.tokens written

def ItemPlace.tokens (written : List Token) : ItemPlace → List Token
  | .here => written
  | .task place => place.tokens written
  | .prefixed factor place => .number factor :: .retry :: place.tokens written
  | .postfixed place factor => place.tokens written ++ [.retry, .number factor]
  | .described descriptor arrow place =>
      .number descriptor :: arrow.token :: place.tokens written

def TaskPlace.tokens (written : List Token) : TaskPlace → List Token
  | .parent place group => place.tokens written ++ .lparen :: (group.tokens ++ [.rparen])
  | .branch task place => task.tokens ++ .lparen :: (place.tokens written ++ [.rparen])

def GroupPlace.tokens (written : List Token) : GroupPlace → List Token
  | .first place second => place.tokens written ++ .seperator :: second.tokens
  | .second first place => first.tokens ++ .seperator :: place.tokens written
  | .earlier place chain => place.tokens written ++ .seperator :: chain.tokens
  | .later group place => group.tokens ++ .seperator :: place.tokens written
end

mutual
theorem ChainPlace.tokens_fill (written : Item) : ∀ place : ChainPlace,
    (place.fill written).tokens = place.tokens written.tokens
  | .item place => ItemPlace.tokens_fill written place
  | .earlier place link item => by
      rw [ChainPlace.fill, Chain.tokens, ChainPlace.tokens_fill written place,
        ChainPlace.tokens]
  | .later chain link place => by
      rw [ChainPlace.fill, Chain.tokens, ItemPlace.tokens_fill written place,
        ChainPlace.tokens]

theorem ItemPlace.tokens_fill (written : Item) : ∀ place : ItemPlace,
    (place.fill written).tokens = place.tokens written.tokens
  | .here => rfl
  | .task place => TaskPlace.tokens_fill written place
  | .prefixed factor place => by
      rw [ItemPlace.fill, Item.tokens, TaskPlace.tokens_fill written place,
        ItemPlace.tokens]
  | .postfixed place factor => by
      rw [ItemPlace.fill, Item.tokens, TaskPlace.tokens_fill written place,
        ItemPlace.tokens]
  | .described descriptor arrow place => by
      rw [ItemPlace.fill, Item.tokens, ItemPlace.tokens_fill written place,
        ItemPlace.tokens]

theorem TaskPlace.tokens_fill (written : Item) : ∀ place : TaskPlace,
    (place.fill written).tokens = place.tokens written.tokens
  | .parent place group => by
      rw [TaskPlace.fill, TaskExpr.tokens, TaskPlace.tokens_fill written place,
        TaskPlace.tokens]
  | .branch task place => by
      rw [TaskPlace.fill, TaskExpr.tokens, GroupPlace.tokens_fill written place,
        TaskPlace.tokens]

theorem GroupPlace.tokens_fill (written : Item) : ∀ place : GroupPlace,
    (place.fill written).tokens = place.tokens written.tokens
  | .first place second => by
      rw [GroupPlace.fill, Group.tokens, ChainPlace.tokens_fill written place,
        GroupPlace.tokens]
  | .second first place => by
      rw [GroupPlace.fill, Group.tokens, ChainPlace.tokens_fill written place,
        GroupPlace.tokens]
  | .earlier place chain => by
      rw [GroupPlace.fill, Group.tokens, GroupPlace.tokens_fill written place,
        GroupPlace.tokens]
  | .later group place => by
      rw [GroupPlace.fill, Group.tokens, ChainPlace.tokens_fill written place,
        GroupPlace.tokens]
end

mutual
theorem ChainPlace.misplaced {written : List Token} (misplaced : Misplaced written) :
    ∀ place : ChainPlace, Misplaced (place.tokens written)
  | .item place => ItemPlace.misplaced misplaced place
  | .earlier place _ _ => (ChainPlace.misplaced misplaced place).append_right _
  | .later _ _ place =>
      ((ItemPlace.misplaced misplaced place).cons _).append_left _

theorem ItemPlace.misplaced {written : List Token} (misplaced : Misplaced written) :
    ∀ place : ItemPlace, Misplaced (place.tokens written)
  | .here => misplaced
  | .task place => TaskPlace.misplaced misplaced place
  | .prefixed _ place => ((TaskPlace.misplaced misplaced place).cons _).cons _
  | .postfixed place _ => (TaskPlace.misplaced misplaced place).append_right _
  | .described _ _ place =>
      ((ItemPlace.misplaced misplaced place).cons _).cons _

theorem TaskPlace.misplaced {written : List Token} (misplaced : Misplaced written) :
    ∀ place : TaskPlace, Misplaced (place.tokens written)
  | .parent place _ => (TaskPlace.misplaced misplaced place).append_right _
  | .branch _ place =>
      (((GroupPlace.misplaced misplaced place).append_right _).cons _).append_left _

theorem GroupPlace.misplaced {written : List Token} (misplaced : Misplaced written) :
    ∀ place : GroupPlace, Misplaced (place.tokens written)
  | .first place _ => (ChainPlace.misplaced misplaced place).append_right _
  | .second _ place => ((ChainPlace.misplaced misplaced place).cons _).append_left _
  | .earlier place _ => (GroupPlace.misplaced misplaced place).append_right _
  | .later _ place => ((ChainPlace.misplaced misplaced place).cons _).append_left _
end

/-! ## Syntax trees that build alike -/

/-- The builder makes the same of both, wherever they stand. -/
structure Parser.Ast.Alike (left right : Ast) : Prop where
  parse : ∀ heap, parseAst left heap = parseAst right heap
  leftmost : left.leftmost = right.leftmost
  value : taskValue left = taskValue right
  branch : left.leftmost ≠ none → customBranch left = customBranch right
  front : ∀ op behind, customBranch (.binOp op left behind) = customBranch (.binOp op right behind)

/-- Branches under the same keys that build alike. -/
structure EntriesAlike (left right : Nat × Ast) : Prop where
  key : left.1 = right.1
  parse : ∀ heap, parseAst left.2 heap = parseAst right.2 heap
  branch : customBranch left.2 = customBranch right.2

theorem Parser.Ast.Alike.refl (ast : Ast) : ast.Alike ast :=
  ⟨fun _ => rfl, rfl, rfl, fun _ => rfl, fun _ _ => rfl⟩

theorem entriesAlike_refl (entry : Nat × Ast) : EntriesAlike entry entry :=
  ⟨rfl, fun _ => rfl, rfl⟩

theorem combine_number_comm (heap : Heap) (op : Operator) (value : Nat) (parsed : Parsed) :
    combine heap op (.number value) parsed = combine heap op parsed (.number value) := by
  cases parsed <;> rfl

theorem Parser.Ast.alike_retry (factor : Nat) {task : Ast} (noDescriptor : task.leftmost = none) :
    (Ast.binOp .retry (.number factor) task).Alike (.binOp .retry task (.number factor)) where
  parse heap := by
    rw [parseAst, parseAst, parseAst]
    simp only [bind, Except.bind]
    rcases parseAst task heap with error | ⟨parsed, after⟩
    · rfl
    · simp only [parseAst, combine_number_comm]
  leftmost := noDescriptor.symm
  value := rfl
  branch keyed := absurd rfl keyed
  front _ _ := rfl

theorem Parser.Ast.Alike.binOp {left left' right right' : Ast} (op : Operator)
    (leftAlike : left.Alike left') (rightAlike : right.Alike right') :
    (Ast.binOp op left right).Alike (.binOp op left' right') where
  parse heap := by
    rw [parseAst, parseAst, leftAlike.parse]
    simp only [rightAlike.parse]
  leftmost := leftAlike.leftmost
  value := rfl
  branch _ := by
    have sameFront := leftAlike.front op right
    have sameBehind : customBranch (.binOp op left' right) =
        customBranch (.binOp op left' right') := by
      cases left' <;> rfl
    exact sameFront.trans sameBehind
  front _ _ := rfl

theorem parseBranch_alike {left right : List (Nat × Ast)}
    (alike : List.Forall₂ EntriesAlike left right) (key : Nat) (heap : Heap) :
    parseBranch key left heap = parseBranch key right heap := by
  induction alike with
  | nil => rfl
  | cons first rest induction =>
      rw [parseBranch, parseBranch, first.key, first.parse, induction]

theorem attachCustom_alike {left right : Ast} (same : customBranch left = customBranch right)
    (heap : Heap) (parent : TaskId) (parsed : Parsed) :
    attachCustom heap parent left parsed = attachCustom heap parent right parsed := by
  rcases parsed with id | (_ | value) | _
  · rw [attachCustom, attachCustom, same]
  · rfl
  · rfl
  · rfl

theorem parseExtras_alike {left right : List (Nat × Ast)}
    (alike : List.Forall₂ EntriesAlike left right) (parent : TaskId) (heap : Heap) :
    parseExtras parent left heap = parseExtras parent right heap := by
  induction alike generalizing heap with
  | nil => rfl
  | cons first rest induction =>
      rw [parseExtras, parseExtras, first.key, first.parse]
      simp only [attachCustom_alike first.branch, induction]

theorem Parser.Ast.Alike.conditional {parent parent' : Ast} {group group' : ConditionalGroup}
    (parentAlike : parent.Alike parent') (groupAlike : List.Forall₂ EntriesAlike group group') :
    (Ast.conditionalBinOP parent group).Alike (.conditionalBinOP parent' group') where
  parse heap := by
    rw [parseAst, parseAst, parentAlike.value]
    simp only [parseBranch_alike groupAlike, parseExtras_alike groupAlike]
  leftmost := rfl
  value := rfl
  branch keyed := absurd rfl keyed
  front _ _ := rfl

theorem insert_alike {left right : Nat × Ast} (alike : EntriesAlike left right)
    {dict dict' : ConditionalGroup} (dictAlike : List.Forall₂ EntriesAlike dict dict') :
    List.Forall₂ EntriesAlike (OrderedDict.insert left.1 left.2 dict)
      (OrderedDict.insert right.1 right.2 dict') := by
  induction dictAlike with
  | nil => exact .cons alike .nil
  | @cons entry entry' rest rest' first restAlike induction =>
      rcases entry with ⟨key, stored⟩
      rcases entry' with ⟨key', stored'⟩
      have sameKey : key = key' := first.key
      by_cases found : key = left.1
      · have found' : key' = right.1 := by rw [← sameKey, found, alike.key]
        simp only [OrderedDict.insert, found, found', if_true]
        exact .cons alike restAlike
      · have found' : key' ≠ right.1 := by rwa [← sameKey, ← alike.key]
        simp only [OrderedDict.insert, found, found', if_false]
        exact .cons first induction

theorem setValue_alike {left right : Ast} (alike : left.Alike right)
    {group group' : ConditionalGroup} (groupAlike : List.Forall₂ EntriesAlike group group') :
    List.Forall₂ EntriesAlike (ConditionalGroup.setValue left group left)
      (ConditionalGroup.setValue right group' right) := by
  rw [ConditionalGroup.setValue_eq, ConditionalGroup.setValue_eq, ← alike.leftmost]
  cases keyed : left.leftmost with
  | none => exact groupAlike
  | some descriptor =>
      exact @insert_alike (descriptor, left) (descriptor, right)
        ⟨rfl, alike.parse, alike.branch (by simp [keyed])⟩ _ _ groupAlike

theorem Parser.Group.alike_refl (group : Group) :
    List.Forall₂ EntriesAlike group.ast group.ast :=
  List.forall₂_same.mpr fun entry _ => entriesAlike_refl entry

mutual
theorem ChainPlace.alike {left right : Item} (alike : left.ast.Alike right.ast) :
    ∀ place : ChainPlace, (place.fill left).ast.Alike (place.fill right).ast
  | .item place => ItemPlace.alike alike place
  | .earlier place _ _ => (ChainPlace.alike alike place).binOp _ (.refl _)
  | .later _ _ place => (Ast.Alike.refl _).binOp _ (ItemPlace.alike alike place)

theorem ItemPlace.alike {left right : Item} (alike : left.ast.Alike right.ast) :
    ∀ place : ItemPlace, (place.fill left).ast.Alike (place.fill right).ast
  | .here => alike
  | .task place => TaskPlace.alike alike place
  | .prefixed _ place => (Ast.Alike.refl _).binOp _ (TaskPlace.alike alike place)
  | .postfixed place _ => (TaskPlace.alike alike place).binOp _ (.refl _)
  | .described _ _ place =>
      (Ast.Alike.refl _).binOp _ (ItemPlace.alike alike place)

theorem TaskPlace.alike {left right : Item} (alike : left.ast.Alike right.ast) :
    ∀ place : TaskPlace, (place.fill left).ast.Alike (place.fill right).ast
  | .parent place group => (TaskPlace.alike alike place).conditional group.alike_refl
  | .branch _ place => (Ast.Alike.refl _).conditional (GroupPlace.alike alike place)

theorem GroupPlace.alike {left right : Item} (alike : left.ast.Alike right.ast) :
    ∀ place : GroupPlace,
      List.Forall₂ EntriesAlike (place.fill left).ast (place.fill right).ast
  | .first place _ =>
      setValue_alike (.refl _) (setValue_alike (ChainPlace.alike alike place) .nil)
  | .second _ place =>
      setValue_alike (ChainPlace.alike alike place) (setValue_alike (.refl _) .nil)
  | .earlier place _ => setValue_alike (.refl _) (GroupPlace.alike alike place)
  | .later group place => setValue_alike (ChainPlace.alike alike place) group.alike_refl
end

/-! ## The three spellings -/

/-- `T * n G`, `T G * n` and `n * T G`. -/
inductive RetrySpelling
  | between
  | behind
  | front
deriving DecidableEq, Repr

def RetrySpelling.tokens (name : String) (factor : RetryFactor) (group : Group) :
    RetrySpelling → List Token
  | .between =>
      .taskname name :: .retry :: .number factor :: .lparen :: (group.tokens ++ [.rparen])
  | .behind =>
      .taskname name :: .lparen :: (group.tokens ++ [.rparen, .retry, .number factor])
  | .front =>
      .number factor :: .retry :: .taskname name :: .lparen :: (group.tokens ++ [.rparen])

/-- The lexer reads the tokens from the text, to the end of the text. -/
structure LexesTo (code : String) (tokens : List Token) : Prop where
  ends : (Lexer.initial.input code.toList).tokens.2 = none
  yields : tokensOf code = tokens

def retriedGroup (name : String) (factor : RetryFactor) (group : Group) : Item :=
  .prefixed factor (.conditional (.name name) group)

/-- The builder makes the tree of the script, in which the hole holds the task
with its branches and its number of retries. -/
def BuildsRetried (lexer : Lexer) (code : String) (place : ChainPlace) (name : String)
    (factor : RetryFactor) (group : Group) (heap : Heap) (root : TaskId) : Prop :=
  (buildPipelineFromExecutionCode lexer code).1 = .ok (root, heap) ∧
    ∃ first rest, (place.fill (retriedGroup name factor group)).Denotes first rest ∧
      TaskTree.Stored heap none (close first rest) ∧ root = first.id

/-- All spellings are accepted and build the same tree. -/
def RetryCommutes (lexer : Lexer) (codes : RetrySpelling → String) (place : ChainPlace)
    (name : String) (factor : RetryFactor) (group : Group) : Prop :=
  ∃ heap root, ∀ spelling,
    BuildsRetried lexer (codes spelling) place name factor group heap root

theorem LexesTo.parsed {code : String} {chain : Chain} (reads : LexesTo code chain.tokens)
    (lexer : Lexer) : parseOutcome lexer code = .accepted (.ast chain.ast) :=
  (parseOutcome_accepted_iff lexer code _).mpr ⟨reads.ends, chain, rfl, reads.yields⟩

theorem LexesTo.nonempty {code : String} {chain : Chain} (reads : LexesTo code chain.tokens) :
    code ≠ "" := by
  rintro rfl
  have parsed := reads.parsed .initial
  have rejected : parseOutcome .initial "" = .rejected [] := rfl
  rw [rejected] at parsed
  cases parsed

theorem build_alike {code other : String} {chain otherChain : Chain}
    (reads : LexesTo code chain.tokens) (otherReads : LexesTo other otherChain.tokens)
    (alike : chain.ast.Alike otherChain.ast) (lexer : Lexer) :
    (buildPipelineFromExecutionCode lexer code).1 =
      (buildPipelineFromExecutionCode lexer other).1 := by
  have left := pointyParser_accepted (reads.parsed lexer)
  have right := pointyParser_accepted (otherReads.parsed lexer)
  simp only [buildPipelineFromExecutionCode, reads.nonempty, otherReads.nonempty, if_false,
    left, right, bind, Except.bind, alike.parse]

theorem Misplaced.not_accepted {code : String} {tokens : List Token}
    (misplaced : Misplaced tokens) (reads : LexesTo code tokens) (lexer : Lexer) :
    ¬Accepted lexer code := by
  rintro ⟨⟨root, heap⟩, accepted⟩
  rcases AcceptedPipeline.denoted ⟨lexer, code, root, heap, accepted⟩ with
    ⟨chain, _, _, yields, _⟩
  rw [← reads.yields, yields] at misplaced
  exact chain.not_misplaced misplaced

/-- The spelling of the tutorials is refused in every place. The other two
commute: they are accepted together and then build the same tree. -/
theorem not_retryCommutes (lexer : Lexer) (codes : RetrySpelling → String) (place : ChainPlace)
    (name : String) (factor : RetryFactor) (group : Group)
    (reads : ∀ spelling, LexesTo (codes spelling)
      (place.tokens (spelling.tokens name factor group))) :
    ¬RetryCommutes lexer codes place name factor group ∧
      ¬Accepted lexer (codes .between) ∧
      (buildPipelineFromExecutionCode lexer (codes .front)).1 =
        (buildPipelineFromExecutionCode lexer (codes .behind)).1 ∧
      ((place.fill (retriedGroup name factor group)).Buildable →
        ∃ heap root, ∀ spelling, spelling ≠ .between →
          BuildsRetried lexer (codes spelling) place name factor group heap root) := by
  have misplaced : Misplaced (RetrySpelling.tokens name factor group .between) :=
    ⟨[.taskname name, .retry], factor, group.tokens ++ [.rparen], rfl⟩
  have refused := (place.misplaced misplaced).not_accepted (reads .between) lexer
  have front : LexesTo (codes .front) (place.fill (retriedGroup name factor group)).tokens := by
    rw [place.tokens_fill]
    exact reads .front
  have behind : LexesTo (codes .behind)
      (place.fill (.postfixed (.conditional (.name name) group) factor)).tokens := by
    rw [place.tokens_fill]
    simpa [Item.tokens, TaskExpr.tokens, RetrySpelling.tokens] using reads .behind
  have alike : (retriedGroup name factor group).ast.Alike
      (Item.postfixed (.conditional (.name name) group) factor).ast :=
    Ast.alike_retry factor rfl
  have same := build_alike front behind (place.alike alike) lexer
  refine ⟨?_, refused, same, fun buildable => ?_⟩
  · rintro ⟨heap, root, builds⟩
    exact refused ⟨_, (builds .between).1⟩
  · rcases build_of_accepted front.nonempty (front.parsed lexer) with
      ⟨_, heap, first, rest, built, denotes, owned⟩ | ⟨failing, _⟩
    · refine ⟨heap, first.id, fun spelling other => ?_⟩
      have found : ∃ first' rest',
          (place.fill (retriedGroup name factor group)).Denotes first' rest' ∧
            TaskTree.Stored heap none (close first' rest') ∧ first.id = first'.id :=
        ⟨first, rest, denotes, owned.stored, rfl⟩
      cases spelling with
      | between => exact absurd rfl other
      | behind => exact ⟨same ▸ built, found⟩
      | front => exact ⟨built, found⟩
    · exact absurd buildable failing

theorem zero_lt_descriptors : 0 < 10 := by decide

theorem one_lt_descriptors : 1 < 10 := by decide

/-- The group `(0->B,1->C)`. -/
def plainGroup : Group :=
  .pair (.item (.described ⟨0, zero_lt_descriptors⟩ .pointer (.task (.name "B"))))
    (.item (.described ⟨1, one_lt_descriptors⟩ .pointer (.task (.name "C"))))

/-- The task `A` with two tries and the group `(0->B,1->C)`. -/
def plainCodes : RetrySpelling → String
  | .between => "A*2(0->B,1->C)"
  | .behind => "A(0->B,1->C)*2"
  | .front => "2*A(0->B,1->C)"

theorem not_retryCommutes_plainCodes :
    (∀ spelling, LexesTo (plainCodes spelling)
      (spelling.tokens "A" ⟨2, by decide⟩ plainGroup)) ∧
    ¬RetryCommutes .initial plainCodes (.item .here) "A" ⟨2, by decide⟩ plainGroup := by
  refine ⟨fun spelling => by cases spelling <;> exact ⟨rfl, rfl⟩, ?_⟩
  rintro ⟨heap, root, builds⟩
  have raised : ∃ error, (buildPipelineFromExecutionCode .initial (plainCodes .between)).1 =
      .error error := ⟨_, rfl⟩
  rcases raised with ⟨error, raised⟩
  have built := (builds .between).1
  rw [raised] at built
  cases built

/-- The same item as the second one of the chain `X->A->Y`. -/
def chainCodes : RetrySpelling → String
  | .between => "X->A*2(0->B,1->C)->Y"
  | .behind => "X->A(0->B,1->C)*2->Y"
  | .front => "X->2*A(0->B,1->C)->Y"

theorem not_accepted_chainCodes : ¬Accepted .initial (chainCodes .between) :=
  (not_retryCommutes .initial chainCodes
    (.earlier (.later (.item (.task (.name "X"))) .pointer .here) .pointer
      (.task (.name "Y")))
    "A" ⟨2, by decide⟩ plainGroup
    (fun spelling => by cases spelling <;> exact ⟨rfl, rfl⟩)).2.1

end EventPipeline
