import EventPipeline.Parser.Verdict

/-! # The recursion limit

`set_value` descends along the left side of a branch, one call for each operator. When the calls
do not fit under the recursion limit of the interpreter, the action for the group raises. A
`@recursive-depth` directive changes the limit for everything that the process parses later.
-/

namespace EventPipeline.Parser

open ShiftReduce

/-! ## The interpreter -/

/-- The interpreter, as far as calls nest in it. Below the recursive calls of the parser and of the
builder some frames are in use, and the calls in them that do not recurse need some more; both are
taken together, and to be the same for all recursive calls. -/
structure PyInterpreter where
  recursionLimit : Nat
  /-- `setrlimit` and `sys.setrecursionlimit` take the depth. -/
  accepts : Nat → Bool
  parserFrames : Nat
  builderFrames : Nat

namespace PyInterpreter

variable (interpreter : PyInterpreter)

/-- `_extend_recursion_depth` with the limit in force. A depth that is refused is logged. -/
def extendRecursionDepth (recLimit limit : Nat) : Nat :=
  if recLimit = limit then recLimit
  else if interpreter.accepts limit then limit
  else recLimit

def limit (requested : List Nat) : Nat :=
  requested.foldl interpreter.extendRecursionDepth interpreter.recursionLimit

/-- How many calls of `set_value` can be nested. -/
def parserRoom (requested : List Nat) : Nat :=
  interpreter.limit requested - interpreter.parserFrames

/-- How many calls of `_parse_ast` can be nested. -/
def builderRoom (requested : List Nat) : Nat :=
  interpreter.limit requested - interpreter.builderFrames

end PyInterpreter

/-! ## Nested calls -/

/-- The calls of `set_value` on an expression. -/
def Ast.setValueCalls : Ast → Nat
  | .binOp _ left _ => left.setValueCalls + 1
  | _ => 1

/-- The calls of `set_value` on a group, which calls it on the left side of each branch. -/
def ConditionalGroup.setValueCalls (group : ConditionalGroup) : Nat :=
  group.foldr (fun entry calls => max entry.2.setValueCalls calls) 1

def nestedCalls : Rule → List Value → Nat
  | .groupPair, [.ast left, _, .ast right] => max left.setValueCalls right.setValueCalls
  | .groupMore, [.group left, _, .ast right] => max left.setValueCalls right.setValueCalls
  | _, _ => 0

def Group.setValueCalls : Group → Nat
  | .pair first second => max first.ast.setValueCalls second.ast.setValueCalls
  | .more group chain => max (ConditionalGroup.setValueCalls group.ast) chain.ast.setValueCalls

/-! ## The parser under a limit -/

/-- The next action does not fit under the limit, given the room for nested calls when these tokens
remain. -/
def overflow (room : List LexToken → Nat) (configuration : Configuration State LexToken Value) :
    Option PyError :=
  match lrAction (yacc.top configuration.stack) (terminalOf configuration.remaining.head?) with
  | some (.reduce rule) =>
      if room configuration.remaining < nestedCalls rule
          ((configuration.stack.take (lrProduction rule).2).reverse.map Frame.value) then
        some .recursionError
      else
        none
  | _ => none

def parseTokensWithin (room : List LexToken → Nat) (tokens : List LexToken)
    (ending : Option PyError) : Outcome LexToken Value PyError :=
  yacc.runGuarded ending (overflow room) (5 * tokens.length + 1) ⟨[], tokens⟩

/-- `pointy_parser` under the recursion limit, which is the one that the lexer object has last set
when the lookahead has been read. -/
def pointyParserWithin (interpreter : PyInterpreter) (lexer : Lexer) (code : String) :
    Except PyError Ast × Lexer :=
  let lexer := lexer.input code.toList
  let room remaining := interpreter.parserRoom (lexer.readTo remaining).requested
  conclude lexer (parseTokensWithin room lexer.tokens.1 lexer.tokens.2)

/-! ## Which groups are completed -/

/-- The parser comes to the end of a group and completes it. -/
structure Completes (before : List Token) (group : Group) (next : Token) (after : List Token) :
    Prop where
  closing : next = .seperator ∨ next = .rparen
  begins : Begins (before ++ .lparen :: (group.tokens ++ [next]))
  numbered : ∀ front value inner,
    before ++ .lparen :: group.tokens = front ++ .number value :: inner →
      ¬Misnumbered front value (inner ++ next :: after)

/-- Every group that the parser completes fits, where the room depends on how many tokens have been
shifted. -/
def GroupsFit (room : Nat → Nat) (tokens : List Token) : Prop :=
  ∀ before group next after, tokens = before ++ .lparen :: (Group.tokens group ++ next :: after) →
    Completes before group next after →
      group.setValueCalls ≤ room (before ++ .lparen :: group.tokens).length

theorem overflow_cases {room : List LexToken → Nat}
    {configuration : Configuration State LexToken Value} {error : PyError}
    (raised : overflow room configuration = some error) :
    error = .recursionError ∧ ∃ rule,
      lrAction (yacc.top configuration.stack) (terminalOf configuration.remaining.head?) =
        some (.reduce rule) ∧
      room configuration.remaining < nestedCalls rule
        ((configuration.stack.take (lrProduction rule).2).reverse.map Frame.value) := by
  unfold overflow at raised
  split at raised
  · rename_i rule acts
    split at raised
    · rename_i deep
      cases raised
      exact ⟨rfl, rule, acts, deep⟩
    · cases raised
  · cases raised

theorem group_of_nestedCalls {rule : Rule} {values : List Value}
    (nested : 0 < nestedCalls rule values) : rule = .groupPair ∨ rule = .groupMore := by
  cases rule with
  | groupPair => exact .inl rfl
  | groupMore => exact .inr rfl
  | expressionPointer | expressionPpointer | expressionParallel | descriptorPointer
  | descriptorPpointer | factorRetry | taskRetry | expressionTerm | termTask | descriptorNumber
  | factorNumber | taskTaskname | taskConditional => cases nested

theorem group_actions {state : State} {terminal : Terminal} {rule : Rule}
    (acts : lrAction state terminal = some (.reduce rule))
    (group : rule = .groupPair ∨ rule = .groupMore) :
    (terminal = .seperator ∨ terminal = .rparen) ∧
      ((rule = .groupPair ∧ state = 30) ∨ (rule = .groupMore ∧ state = 29)) := by
  have checked : ∀ rule ∈ ([.groupPair, .groupMore] : List Rule), ∀ state : State,
      lrAction state terminal = some (.reduce rule) →
        (terminal = .seperator ∨ terminal = .rparen) ∧
          ((rule = .groupPair ∧ state = 30) ∨ (rule = .groupMore ∧ state = 29)) := by
    cases terminal <;> decide
  exact checked rule (List.mem_pair.mpr group) state acts

section Stacks

variable {stack : List (Frame State Value)} {consumed : List Token}

/-- Behind an opening parenthesis every group can stand, and what ends it. -/
theorem Stacked.opening (stacked : Stacked stack consumed) (top : yacc.top stack = 15) :
    ∃ front, consumed = front ++ [.lparen] ∧ ∀ group : Group, ∀ next,
      next = Token.seperator ∨ next = .rparen →
        Begins (front ++ .lparen :: (group.tokens ++ [next])) := by
  have goesOn := stacked.goesOn.group top
  rcases stacked.pop top (by decide) with ⟨_, bottom, front, _, _, rfl, _, _, holds⟩
  rcases holds with ⟨⟨token, lineno, lexpos⟩, rfl, rfl, same⟩
  have opening : token = .lparen := Token.eq_of_terminal (by decide) same
  subst opening
  refine ⟨front, rfl, fun group next closing => ?_⟩
  rcases closing with rfl | rfl
  · have completable := goesOn (.more group someChain)
    rw [Group.tokens] at completable
    have reordered : front ++ [Token.lparen] ++ ((group.tokens ++ .seperator ::
        someChain.tokens) ++ [.rparen]) = (front ++ .lparen :: (group.tokens ++ [.seperator])) ++
          (someChain.tokens ++ [.rparen]) := by simp
    rw [reordered] at completable
    exact completable.of_append.begins
  · have completable := goesOn group
    have reordered : front ++ [Token.lparen] ++ (group.tokens ++ [.rparen]) =
        front ++ .lparen :: (group.tokens ++ [.rparen]) := by simp
    rw [reordered] at completable
    exact completable.begins

theorem Stacked.group (stacked : Stacked stack consumed) {rule : Rule}
    (complete : (rule = .groupPair ∧ yacc.top stack = 30) ∨
      (rule = .groupMore ∧ yacc.top stack = 29)) :
    ∃ before group, consumed = before ++ .lparen :: Group.tokens group ∧
      nestedCalls rule ((stack.take (lrProduction rule).2).reverse.map Frame.value) =
        group.setValueCalls ∧
      ∀ next, next = Token.seperator ∨ next = .rparen →
        Begins (before ++ .lparen :: (group.tokens ++ [next])) := by
  rcases complete with ⟨rfl, top⟩ | ⟨rfl, top⟩
  · rcases stacked.popThree top (by decide : sources 30 = [28]) (by decide) with
      ⟨first, _, _, _, rest, before, _, _, _, rfl, rfl, below, edge, source, left, sign, right⟩
    obtain rfl : first = 25 := by simpa [show sources 28 = [25] by decide] using source
    rcases left with ⟨chain, rfl, rfl⟩
    rcases right with ⟨second, rfl, rfl⟩
    rcases sign with ⟨⟨sign, lineno, lexpos⟩, rfl, rfl, same⟩
    have written : sign = .seperator := Token.eq_of_terminal (by decide) same
    subst written
    have bottom : yacc.top rest = 15 := by simpa [show sources 25 = [15] by decide] using edge
    rcases below.opening bottom with ⟨front, rfl, begins⟩
    exact ⟨front, .pair chain second, by simp [Group.tokens], rfl, begins _⟩
  · rcases stacked.popThree top (by decide : sources 29 = [27]) (by decide) with
      ⟨first, _, _, _, rest, before, _, _, _, rfl, rfl, below, edge, source, left, sign, right⟩
    obtain rfl : first = 24 := by simpa [show sources 27 = [24] by decide] using source
    rcases left with ⟨group, rfl, rfl⟩
    rcases right with ⟨chain, rfl, rfl⟩
    rcases sign with ⟨⟨sign, lineno, lexpos⟩, rfl, rfl, same⟩
    have written : sign = .seperator := Token.eq_of_terminal (by decide) same
    subst written
    have bottom : yacc.top rest = 15 := by simpa [show sources 24 = [15] by decide] using edge
    rcases below.opening bottom with ⟨front, rfl, begins⟩
    exact ⟨front, .more group chain, by simp [Group.tokens], rfl, begins _⟩

end Stacks

theorem Viable.not_groupsFit {tokens shifted : List LexToken}
    {configuration : Configuration State LexToken Value} {room : Nat → Nat} {error : PyError}
    (viable : Viable tokens shifted configuration)
    (raised : overflow (fun remaining => room (tokens.length - remaining.length)) configuration =
      some error) : ¬GroupsFit room (tokens.map LexToken.token) := by
  intro fit
  rcases overflow_cases raised with ⟨_, rule, acts, deep⟩
  have group := group_of_nestedCalls (Nat.zero_lt_of_lt deep)
  rcases group_actions acts group with ⟨kind, complete⟩
  rcases viable.stacked.group complete with ⟨before, group, consumed, calls, begins⟩
  cases next : configuration.remaining with
  | nil =>
      rw [next] at kind
      rcases kind with kind | kind <;> cases kind
  | cons token rest =>
      rw [next] at kind
      have closing : token.token = .seperator ∨ token.token = .rparen := by
        rcases token with ⟨token, lineno, lexpos⟩
        cases token <;>
          first
          | exact .inl rfl
          | exact .inr rfl
          | rcases kind with kind | kind <;> cases kind
      have position : tokens.map LexToken.token =
          before ++ .lparen :: (group.tokens ++ token.token :: rest.map LexToken.token) := by
        rw [viable.position, List.map_append, consumed, next]
        simp
      have completes : Completes before group token.token (rest.map LexToken.token) := by
        refine ⟨closing, begins _ closing, fun front value inner split => ?_⟩
        rcases viable.numbered front value inner (consumed.trans split) with ⟨_, top⟩ | taken
        · refine absurd top ?_
          rcases complete with ⟨_, state⟩ | ⟨_, state⟩ <;> rw [state] <;> decide
        · rw [next] at taken
          exact taken
      have fits := fit before group _ _ position completes
      have count : (before ++ .lparen :: group.tokens).length =
          tokens.length - configuration.remaining.length := by
        have shiftedLength := congrArg List.length consumed
        have total := congrArg List.length viable.position
        rw [List.length_map] at shiftedLength
        rw [List.length_append] at total
        omega
      rw [calls] at deep
      rw [count] at fits
      omega

/-! ## Every completed group is met -/

/-- The parser does not stop inside tokens that a script begins with and whose numbers are taken. -/
theorem length_le_of_halted {tokens shifted consumed rest : List LexToken}
    {last : Configuration State LexToken Value} {ending : Option PyError} {next : LexToken}
    (viable : Viable tokens shifted last)
    (stepped : yacc.step ending last = .halted (parseTokens tokens ending))
    (position : tokens = consumed ++ next :: rest)
    (begins : Begins ((consumed ++ [next]).map LexToken.token))
    (numbered : ∀ front value inner,
      consumed.map LexToken.token = front ++ .number value :: inner →
        ¬Misnumbered front value (inner ++ (next :: rest).map LexToken.token)) :
    consumed.length ≤ shifted.length := by
  refine Nat.le_of_not_lt fun shorter => ?_
  have whole := viable.position
  have split : ∃ offending inner, consumed = shifted ++ offending :: inner ∧
      last.remaining = offending :: (inner ++ next :: rest) := by
    rw [position] at whole
    rcases List.append_eq_append_iff.mp whole with ⟨more, longer, _⟩ | ⟨more, longer, following⟩
    · have lengths := congrArg List.length longer
      rw [List.length_append] at lengths
      omega
    · cases more with
      | nil =>
          rw [longer] at shorter
          simp at shorter
      | cons offending inner => exact ⟨offending, inner, longer, following⟩
  rcases split with ⟨offending, inner, consumed_eq, remaining⟩
  have ends := parseTokens_ends tokens ending
  rcases outcome : parseTokens tokens ending with value | stopped | ⟨error, stopped⟩ | _ | _
  · rw [outcome] at stepped
    have kind := (accept_sound (Parser.step_accepted_cases stepped)).2
    rw [remaining] at kind
    rcases offending with ⟨token, lineno, lexpos⟩
    cases token <;> cases kind
  · rw [outcome] at stepped
    have same := (Parser.step_rejected_cases stepped).1
    rw [remaining] at same
    rw [same] at outcome
    rw [remaining] at whole
    apply not_begins_of_rejected whole outcome
    rw [consumed_eq] at begins
    have reordered : (shifted ++ offending :: inner ++ [next]).map LexToken.token =
        (shifted ++ [offending]).map LexToken.token ++ (inner ++ [next]).map LexToken.token := by
      simp
    rw [reordered] at begins
    exact begins.of_append
  · rw [outcome] at stepped
    rcases Parser.step_raised_cases stepped with
      ⟨exhausted, _⟩ | ⟨_, rule, popped, below, acts, shape, count, raises⟩
    · rw [remaining] at exhausted
      cases exhausted
    · have refused : yacc.reduce rule ⟨last.stack, last.remaining⟩ =
          .halted (.raised error last.remaining) := by
        rw [shape]
        exact Parser.reduce_raised count raises
      rcases reduce_sound viable.stacked (mem_states_of_reduce acts) last.remaining with
        ⟨frame, bottom, reduces, _⟩ | ⟨message, yaccError⟩
      · rw [refused] at reduces
        cases reduces
      · rw [refused] at yaccError
        cases yaccError
        rcases viable.misnumbered acts shape raises with ⟨before, value, number, misnumbered⟩
        refine numbered before value ((offending :: inner).map LexToken.token) ?_ ?_
        · rw [consumed_eq, List.map_append, number]
          simp
        · rw [remaining] at misnumbered
          simpa using misnumbered
  · rw [outcome] at ends
    exact ends.elim
  · rw [outcome] at ends
    exact ends.elim

theorem lparen_target {source target : State}
    (acts : lrAction source .lparen = some (.shift target)) :
    target = 15 := by
  have checked : ∀ source : State, ((lrAction source .lparen).all fun
      | .shift target => decide (target = 15)
      | _ => true) = true := by decide
  have found := checked source
  rw [acts] at found
  exact of_decide_eq_true found

theorem Group.reaches_end (group : Group) {stack : List (Frame State Value)}
    {lexed rest : List LexToken} {next : LexToken}
    (yields : lexed.map LexToken.token = group.tokens) (top : yacc.top stack = 15)
    (closing : next.token = .seperator ∨ next.token = .rparen) :
    ∃ rule frames, yacc.Reaches none ⟨stack, lexed ++ next :: rest⟩ ⟨frames, next :: rest⟩ ∧
      lrAction (yacc.top frames) next.token.terminal = some (.reduce rule) ∧
      nestedCalls rule ((frames.take (lrProduction rule).2).reverse.map Frame.value) =
        group.setValueCalls := by
  have kind : next.token.terminal ∈ expressionFollow ∧
      (next.token.terminal = .seperator ∨ next.token.terminal = .rparen) := by
    rcases closing with closing | closing <;> rw [closing] <;> decide
  cases group with
  | pair first second =>
      rcases List.map_eq_append_iff.mp yields with ⟨left, right, rfl, leftYields, yields⟩
      rcases List.map_eq_cons_iff.mp yields with ⟨sign, right, rfl, written, yields⟩
      rw [List.append_assoc]
      refine ⟨.groupPair,
        ⟨30, .ast second.ast⟩ :: ⟨28, .token sign⟩ :: ⟨25, .ast first.ast⟩ :: stack,
        ?_, ?_, rfl⟩
      · refine (first.reaches _ leftYields top rfl (by decide) ?_).trans ?_
        · simp [terminalOf, written, Token.terminal, expressionFollow]
        refine (reaches_shift (by rw [written]; rfl)).trans ?_
        exact second.reaches _ yields rfl rfl (by decide) kind.1
      · rcases kind.2 with kind | kind <;> rw [kind] <;> rfl
  | more group chain =>
      rcases List.map_eq_append_iff.mp yields with ⟨left, right, rfl, leftYields, yields⟩
      rcases List.map_eq_cons_iff.mp yields with ⟨sign, right, rfl, written, yields⟩
      rw [List.append_assoc]
      refine ⟨.groupMore,
        ⟨29, .ast chain.ast⟩ :: ⟨27, .token sign⟩ :: ⟨24, .group group.ast⟩ :: stack,
        ?_, ?_, rfl⟩
      · refine (group.reaches _ leftYields top ?_).trans ?_
        · simp [terminalOf, written, Token.terminal]
        refine (reaches_shift (by rw [written]; rfl)).trans ?_
        exact chain.reaches _ yields rfl rfl (by decide) kind.1
      · rcases kind.2 with kind | kind <;> rw [kind] <;> rfl

theorem overflow_of_completes {tokens : List LexToken} {ending : Option PyError} {room : Nat → Nat}
    {before after : List Token} {group : Group} {next : Token}
    (position : tokens.map LexToken.token = before ++ .lparen :: (group.tokens ++ next :: after))
    (completes : Completes before group next after)
    (deep : room (before ++ .lparen :: group.tokens).length < group.setValueCalls) :
    ∃ reached error, yacc.Reaches ending ⟨[], tokens⟩ reached ∧
      overflow (fun remaining => room (tokens.length - remaining.length)) reached = some error := by
  rcases List.map_eq_append_iff.mp position with ⟨front, inside, rfl, frontYields, yields⟩
  rcases List.map_eq_cons_iff.mp yields with ⟨opening, inside, rfl, opens, yields⟩
  rcases List.map_eq_append_iff.mp yields with ⟨lexed, rest, rfl, groupYields, yields⟩
  rcases List.map_eq_cons_iff.mp yields with ⟨closing, rest, rfl, closes, restYields⟩
  rcases parseTokens_last (front ++ opening :: (lexed ++ closing :: rest)) ending with
    ⟨shifted, last, viable, ⟨count, steps⟩, stepped⟩
  have passed := @length_le_of_halted _ shifted (front ++ opening :: lexed) rest last ending closing
    viable stepped (by simp)
    (by simpa [frontYields, opens, groupYields, closes] using completes.begins)
    (by
      intro ahead value inner split
      rw [List.map_cons, closes, restYields]
      apply completes.numbered
      rw [← split]
      simp [frontYields, opens, groupYields])
  have lengths := congrArg List.length viable.position
  simp only [List.length_append, List.length_cons] at lengths passed
  have past : last.remaining.length ≤ (lexed ++ closing :: rest).length := by
    simp only [List.length_append, List.length_cons]
    omega
  rcases steps.shifts rfl past with ⟨stack, target, acts, reaches⟩
  have opened : lrAction (yacc.top stack) .lparen = some (.shift target) := by
    have kind : opening.token.terminal = .lparen := by rw [opens]; rfl
    exact kind ▸ acts
  rw [lparen_target opened] at reaches
  rcases @Group.reaches_end group (⟨15, .token opening⟩ :: stack) lexed rest closing groupYields rfl
    (by rw [closes]; exact completes.closing) with
    ⟨rule, frames, ⟨_, inner⟩, reduces, calls⟩
  refine ⟨⟨frames, closing :: rest⟩, .recursionError,
    reaches.trans ⟨_, (inner.of_ending (List.cons_ne_nil _ _)).2⟩, ?_⟩
  have consumed : (front ++ opening :: (lexed ++ closing :: rest)).length -
      (closing :: rest).length = (before ++ .lparen :: group.tokens).length := by
    rw [← frontYields, ← groupYields]
    simp only [List.length_append, List.length_cons, List.length_map]
    omega
  have acts : lrAction (yacc.top frames) (terminalOf (closing :: rest).head?) =
      some (.reduce rule) := reduces
  simp only [overflow, acts, calls, consumed, deep, if_true]

/-- Under the limit the parser does the same when every group fits, and raises a `RecursionError`
when one does not. -/
theorem parseTokensWithin_cases (room : Nat → Nat) (tokens : List LexToken)
    (ending : Option PyError) :
    (GroupsFit room (tokens.map LexToken.token) ∧
      parseTokensWithin (fun remaining => room (tokens.length - remaining.length)) tokens ending =
        parseTokens tokens ending) ∨
    (¬GroupsFit room (tokens.map LexToken.token) ∧ ∃ remaining,
      parseTokensWithin (fun remaining => room (tokens.length - remaining.length)) tokens ending =
        .raised .recursionError remaining) := by
  by_cases fit : GroupsFit room (tokens.map LexToken.token)
  · refine .inl ⟨fit, Parser.runGuarded_of_clear fun reached reaches => ?_⟩
    rcases viable_of_reaches reaches with ⟨shifted, viable⟩
    rcases raised : overflow (fun remaining => room (tokens.length - remaining.length)) reached with
      _ | error
    · rfl
    · exact absurd fit (viable.not_groupsFit raised)
  · refine .inr ⟨fit, ?_⟩
    have deep : ∃ before group next after,
        tokens.map LexToken.token = before ++ .lparen :: (Group.tokens group ++ next :: after) ∧
        Completes before group next after ∧
        room (before ++ .lparen :: group.tokens).length < group.setValueCalls := by
      by_contra none
      apply fit
      intro before group next after position completes
      refine Nat.le_of_not_lt fun deep =>
        none ⟨before, group, next, after, position, completes, deep⟩
    rcases deep with ⟨before, group, next, after, position, completes, deep⟩
    rcases @overflow_of_completes tokens ending room before after group next position completes deep
      with ⟨last, error, reaches, barred⟩
    rcases Parser.runGuarded_of_barred reaches barred (parseTokens_halts tokens ending) with
      ⟨reached, raised, found, outcome⟩
    rw [(overflow_cases found).1] at outcome
    exact ⟨reached.remaining, outcome⟩

/-! ## Short scripts -/

theorem TaskExpr.length_pos (task : TaskExpr) : 0 < task.tokens.length := by
  cases task with
  | name name => exact Nat.one_pos
  | conditional task group =>
      rw [TaskExpr.tokens, List.length_append, List.length_cons]
      omega

theorem Item.setValueCalls_le (item : Item) : item.ast.setValueCalls ≤ item.tokens.length := by
  have single : ∀ task : TaskExpr, task.ast.setValueCalls = 1 := by
    intro task
    cases task <;> rfl
  cases item with
  | task task =>
      rw [Item.ast, single, Item.tokens]
      exact task.length_pos
  | prefixed factor task =>
      simp [Item.ast, Item.tokens, Ast.setValueCalls]
  | postfixed task factor =>
      rw [Item.ast, Ast.setValueCalls, single, Item.tokens]
      simp
  | described descriptor arrow item =>
      simp [Item.ast, Item.tokens, Ast.setValueCalls]

theorem Chain.setValueCalls_le : ∀ chain : Chain, chain.ast.setValueCalls ≤ chain.tokens.length
  | .item only => only.setValueCalls_le
  | .link chain inner last => by
      have shorter := Chain.setValueCalls_le chain
      rw [Chain.ast, Ast.setValueCalls, Chain.tokens, List.length_append, List.length_cons]
      omega

theorem Group.length_le {chain : Chain} : ∀ {group : Group}, chain ∈ group.chains →
    chain.tokens.length < group.tokens.length
  | .pair first second, member => by
      rw [Group.tokens, List.length_append, List.length_cons]
      rcases List.mem_pair.mp member with rfl | rfl <;> omega
  | .more group last, member => by
      rw [Group.tokens, List.length_append, List.length_cons]
      rcases List.mem_append.mp member with earlier | same
      · have shorter := Group.length_le earlier
        omega
      · rw [List.mem_singleton.mp same]
        omega

theorem ConditionalGroup.setValueCalls_le {group : ConditionalGroup} {bound : Nat}
    (positive : 0 < bound) (each : ∀ entry ∈ group, entry.2.setValueCalls ≤ bound) :
    ConditionalGroup.setValueCalls group ≤ bound := by
  induction group with
  | nil => exact positive
  | cons entry rest induction =>
      refine Nat.max_le.mpr ⟨each entry List.mem_cons_self, induction fun other member => ?_⟩
      exact each other (List.mem_cons_of_mem _ member)

theorem Group.setValueCalls_le (group : Group) : group.setValueCalls ≤ group.tokens.length := by
  cases group with
  | pair first second =>
      have left := first.setValueCalls_le
      have right := second.setValueCalls_le
      rw [Group.setValueCalls, Group.tokens, List.length_append, List.length_cons]
      omega
  | more group chain =>
      have right := chain.setValueCalls_le
      have left : ConditionalGroup.setValueCalls group.ast ≤ group.tokens.length + 1 := by
        apply ConditionalGroup.setValueCalls_le (Nat.succ_pos _)
        intro entry member
        rw [group.ast_eq] at member
        rcases List.mem_map.mp member with ⟨⟨descriptor, branch⟩, stored, rfl⟩
        have listed := (Group.mem_dict stored).1
        have calls := branch.setValueCalls_le
        have shorter := Group.length_le listed
        dsimp only
        omega
      rw [Group.setValueCalls, Group.tokens, List.length_append, List.length_cons]
      omega

theorem groupsFit_of_length {room : Nat → Nat} {tokens : List Token}
    (short : ∀ shifted ≤ tokens.length, tokens.length ≤ room shifted) : GroupsFit room tokens := by
  intro before group next after position _
  have length : (before ++ .lparen :: group.tokens).length ≤ tokens.length := by
    rw [position]
    simp only [List.length_append, List.length_cons]
    omega
  have whole := short _ length
  have calls := group.setValueCalls_le
  rw [List.length_append, List.length_cons] at length
  omega

end EventPipeline.Parser
