import EventPipeline.Parser.Syntax

/-! # The parser accepts the grammar

Derivation-directed execution of the tables: in a state that can go on with a
nonterminal, the tokens of a derivation of it are replaced by the syntax tree
of that derivation.
-/

namespace EventPipeline.Parser

open ShiftReduce

/-! ## What the tables offer -/

def taskFollow : List Terminal :=
  [.finish, .pointer, .ppointer, .parallel, .retry, .lparen, .seperator, .rparen]

def expressionFollow : List Terminal :=
  [.finish, .pointer, .ppointer, .parallel, .seperator, .rparen]

/-- The states in which an expression grows to the right. -/
def chainStates : List State := [1, 25, 29, 30]

theorem expressionFollow_subset : ∀ terminal ∈ expressionFollow, terminal ∈ taskFollow := by
  decide

theorem actions_of_task {source target : State} (goes : lrGoto source .task = some target) :
    lrAction source .taskname = some (.shift 7) ∧
      lrAction target .lparen = some (.shift 15) := by
  have checked : ∀ entry ∈ lrGotoItems .task,
      lrAction entry.1 .taskname = some (.shift 7) ∧
        lrAction entry.2 .lparen = some (.shift 15) := by
    decide +kernel
  exact checked _ (OrderedDict.mem_of_get goes)

theorem actions_of_expression {source target : State}
    (goes : lrGoto source .expression = some target) :
    lrGoto source .task = some 4 ∧ lrGoto source .term = some 5 ∧
      lrGoto source .descriptor = some 2 ∧ lrGoto source .factor = some 3 ∧
      lrAction source .number = some (.shift 6) := by
  have checked : ∀ entry ∈ lrGotoItems .expression,
      lrGoto entry.1 .task = some 4 ∧ lrGoto entry.1 .term = some 5 ∧
        lrGoto entry.1 .descriptor = some 2 ∧ lrGoto entry.1 .factor = some 3 ∧
        lrAction entry.1 .number = some (.shift 6) := by
    decide +kernel
  exact checked _ (OrderedDict.mem_of_get goes)

/-- The states after an operator between two expressions: one for the operator
and one for the expression to its right. -/
def Link.states : Link → State × State
  | .pointer => (8, 16)
  | .ppointer => (9, 17)
  | .parallel => (10, 18)

def Link.rule : Link → Rule
  | .pointer => .expressionPointer
  | .ppointer => .expressionPpointer
  | .parallel => .expressionParallel

/-- The states after an operator behind a descriptor. -/
def Arrow.states : Arrow → State × State
  | .pointer => (11, 19)
  | .ppointer => (12, 20)

def Arrow.rule : Arrow → Rule
  | .pointer => .descriptorPointer
  | .ppointer => .descriptorPpointer

theorem Link.actions (link : Link) :
    (∀ state ∈ chainStates, lrAction state link.token.terminal = some (.shift link.states.1)) ∧
      lrGoto link.states.1 .expression = some link.states.2 ∧
      (∀ terminal ∈ expressionFollow,
        lrAction link.states.2 terminal = some (.reduce link.rule)) ∧
      link.token.terminal ∈ expressionFollow := by
  cases link <;> decide

theorem Arrow.actions (arrow : Arrow) :
    lrAction 2 arrow.token.terminal = some (.shift arrow.states.1) ∧
      lrGoto arrow.states.1 .expression = some arrow.states.2 ∧
      (∀ terminal ∈ expressionFollow,
        lrAction arrow.states.2 terminal = some (.reduce arrow.rule)) ∧
      lrAction 6 arrow.token.terminal = some (.reduce .descriptorNumber) := by
  cases arrow <;> decide

/-! ## Single moves -/

variable {stack : List (Frame State Value)} {rest : List LexToken}

theorem reaches_shift {token : LexToken} {target : State}
    (acts : lrAction (yacc.top stack) token.token.terminal = some (.shift target)) :
    yacc.Reaches none ⟨stack, token :: rest⟩ ⟨⟨target, .token token⟩ :: stack, rest⟩ :=
  .single (Parser.step_shift acts)

theorem reaches_reduce {value : Value} {target : State} (rule : Rule)
    (popped : List (Frame State Value))
    (acts : lrAction (yacc.top (popped ++ stack)) (terminalOf rest.head?) =
      some (.reduce rule))
    (count : popped.length = (lrProduction rule).2)
    (reduces : reduceBy rule (popped.reverse.map Frame.value) = .ok value)
    (goes : lrGoto (yacc.top stack) (lrProduction rule).1 = some target) :
    yacc.Reaches none ⟨popped ++ stack, rest⟩ ⟨⟨target, value⟩ :: stack, rest⟩ :=
  .single ((Parser.step_reduce (fun _ => rfl) acts).trans
    (Parser.reduce_next count reduces goes))

theorem reaches_factor {source : State} {factor lineno lexpos : Nat} {sign : LexToken}
    (top : yacc.top stack = source) (goes : lrGoto source .factor = some 3)
    (acts : lrAction source .number = some (.shift 6))
    (retry : sign.token = .retry) (allowed : 2 ≤ factor) :
    yacc.Reaches none ⟨stack, ⟨.number factor, lineno, lexpos⟩ :: sign :: rest⟩
      ⟨⟨3, .ast (.number factor)⟩ :: stack, sign :: rest⟩ := by
  subst top
  refine (reaches_shift acts).trans ?_
  refine reaches_reduce .factorNumber [_] ?_ rfl ?_ goes
  · have lookahead : terminalOf (sign :: rest).head? = .retry := by
      simp [terminalOf, retry, Token.terminal]
    rw [lookahead]
    rfl
  · simp [reduceBy, pFactor, Nat.not_lt.mpr allowed]

theorem reaches_descriptor {source : State} {lineno lexpos : Nat} {sign : LexToken}
    {arrow : Arrow} (descriptor : Fin 10)
    (top : yacc.top stack = source) (goes : lrGoto source .descriptor = some 2)
    (acts : lrAction source .number = some (.shift 6)) (written : sign.token = arrow.token) :
    yacc.Reaches none ⟨stack, ⟨.number descriptor, lineno, lexpos⟩ :: sign :: rest⟩
      ⟨⟨2, .ast (.descriptor descriptor)⟩ :: stack, sign :: rest⟩ := by
  subst top
  refine (reaches_shift acts).trans ?_
  refine reaches_reduce .descriptorNumber [_] ?_ rfl ?_ goes
  · have lookahead : terminalOf (sign :: rest).head? = arrow.token.terminal := by
      simp [terminalOf, written]
    rw [lookahead]
    exact arrow.actions.2.2.2
  · simp [reduceBy, pDescriptor]

theorem reaches_postfixed {factor lineno lexpos : Nat} {sign : LexToken}
    (allowed : 2 ≤ factor) (follows : terminalOf rest.head? ∈ expressionFollow) :
    yacc.Reaches none
      ⟨⟨14, .token sign⟩ :: stack, ⟨.number factor, lineno, lexpos⟩ :: rest⟩
      ⟨⟨22, .ast (.number factor)⟩ :: ⟨14, .token sign⟩ :: stack, rest⟩ := by
  have complete : ∀ terminal ∈ expressionFollow,
      lrAction 23 terminal = some (.reduce .factorNumber) := by decide
  refine (reaches_shift rfl).trans ?_
  refine reaches_reduce .factorNumber [_] (complete _ follows) rfl ?_ rfl
  simp [reduceBy, pFactor, Nat.not_lt.mpr allowed]

theorem reaches_term {source target : State} {ast : Ast}
    (top : yacc.top stack = source) (goes : lrGoto source .expression = some target)
    (follows : terminalOf rest.head? ∈ expressionFollow) :
    yacc.Reaches none ⟨⟨4, .ast ast⟩ :: stack, rest⟩ ⟨⟨target, .ast ast⟩ :: stack, rest⟩ := by
  subst top
  have sources := actions_of_expression goes
  have toTerm : ∀ terminal ∈ expressionFollow,
      lrAction 4 terminal = some (.reduce .termTask) := by decide
  have toExpression : ∀ terminal ∈ expressionFollow,
      lrAction 5 terminal = some (.reduce .expressionTerm) := by decide
  have term : yacc.Reaches none ⟨[⟨4, .ast ast⟩] ++ stack, rest⟩
      ⟨⟨5, .ast ast⟩ :: stack, rest⟩ :=
    reaches_reduce .termTask [⟨4, .ast ast⟩] (toTerm _ follows) rfl rfl sources.2.1
  exact term.trans
    (reaches_reduce .expressionTerm [⟨5, .ast ast⟩] (toExpression _ follows) rfl rfl goes)

theorem reaches_conditional {source target : State} {ast : Ast} {group : ConditionalGroup}
    {opening closing : LexToken}
    (top : yacc.top stack = source) (goes : lrGoto source .task = some target)
    (follows : terminalOf rest.head? ∈ taskFollow) :
    yacc.Reaches none
      ⟨⟨26, .token closing⟩ :: ⟨24, .group group⟩ :: ⟨15, .token opening⟩ ::
        ⟨target, .ast ast⟩ :: stack, rest⟩
      ⟨⟨target, .ast (.conditionalBinOP ast group)⟩ :: stack, rest⟩ := by
  subst top
  have complete : ∀ terminal ∈ taskFollow,
      lrAction 26 terminal = some (.reduce .taskConditional) := by decide
  exact reaches_reduce .taskConditional
    [⟨26, .token closing⟩, ⟨24, .group group⟩, ⟨15, .token opening⟩, ⟨target, .ast ast⟩]
    (complete _ follows) rfl rfl goes

theorem reaches_binOp {source state last target : State} {left right : Ast}
    {sign : LexToken} {operator : Operator} {middle : State} (rule : Rule)
    (top : yacc.top stack = source) (goes : lrGoto source .expression = some target)
    (shape : lrProduction rule = (.expression, 3)) (action : reduceBy rule = pExpression)
    (complete : ∀ terminal ∈ expressionFollow, lrAction last terminal = some (.reduce rule))
    (written : sign.token.operator = some operator)
    (follows : terminalOf rest.head? ∈ expressionFollow) :
    yacc.Reaches none
      ⟨⟨last, .ast right⟩ :: ⟨middle, .token sign⟩ :: ⟨state, .ast left⟩ :: stack, rest⟩
      ⟨⟨target, .ast (.binOp operator left right)⟩ :: stack, rest⟩ := by
  subst top
  refine reaches_reduce rule
    [⟨last, .ast right⟩, ⟨middle, .token sign⟩, ⟨state, .ast left⟩]
    (complete _ follows) ?_ ?_ ?_
  · simp [shape]
  · simp [action, pExpression, written]
  · simpa [shape] using goes

/-! ## Derivations -/

mutual
theorem TaskExpr.reaches : ∀ (task : TaskExpr) {stack : List (Frame State Value)}
    {lexed : List LexToken} {source target : State} (rest : List LexToken),
    lexed.map LexToken.token = task.tokens → yacc.top stack = source →
    lrGoto source .task = some target → terminalOf rest.head? ∈ taskFollow →
    yacc.Reaches none ⟨stack, lexed ++ rest⟩ ⟨⟨target, .ast task.ast⟩ :: stack, rest⟩
  | .name name, stack, lexed, source, target, rest, yields, top, goes, follows => by
      subst top
      rcases List.map_eq_singleton_iff.mp yields with ⟨⟨kind, lineno, lexpos⟩, rfl, rfl⟩
      have complete : ∀ terminal ∈ taskFollow,
          lrAction 7 terminal = some (.reduce .taskTaskname) := by decide
      refine (reaches_shift (actions_of_task goes).1).trans ?_
      exact reaches_reduce .taskTaskname [⟨7, .token ⟨.taskname name, lineno, lexpos⟩⟩]
        (complete _ follows) rfl rfl goes
  | .conditional task group, stack, lexed, source, target, rest, yields, top, goes,
      follows => by
      rcases List.map_eq_append_iff.mp yields with ⟨left, right, rfl, leftYields, yields⟩
      rcases List.map_eq_cons_iff.mp yields with ⟨opening, right, rfl, opens, yields⟩
      rcases List.map_eq_append_iff.mp yields with ⟨inner, right, rfl, innerYields, yields⟩
      rcases List.map_eq_singleton_iff.mp yields with ⟨closing, rfl, closes⟩
      have listed : left ++ opening :: (inner ++ [closing]) ++ rest =
          left ++ opening :: (inner ++ closing :: rest) := by simp
      rw [listed]
      refine (task.reaches _ leftYields top goes ?_).trans ?_
      · simp [terminalOf, opens, Token.terminal, taskFollow]
      refine (reaches_shift (by rw [opens]; exact (actions_of_task goes).2)).trans ?_
      refine (group.reaches _ innerYields rfl ?_).trans ?_
      · simp [terminalOf, closes, Token.terminal]
      refine (reaches_shift (by rw [closes]; rfl)).trans ?_
      exact reaches_conditional top goes follows

theorem Item.reaches : ∀ (item : Item) {stack : List (Frame State Value)}
    {lexed : List LexToken} {source target : State} (rest : List LexToken),
    lexed.map LexToken.token = item.tokens → yacc.top stack = source →
    lrGoto source .expression = some target → terminalOf rest.head? ∈ expressionFollow →
    yacc.Reaches none ⟨stack, lexed ++ rest⟩ ⟨⟨target, .ast item.ast⟩ :: stack, rest⟩
  | .task task, stack, lexed, source, target, rest, yields, top, goes, follows => by
      have sources := actions_of_expression goes
      refine (task.reaches rest yields top sources.1
        (expressionFollow_subset _ follows)).trans ?_
      exact reaches_term top goes follows
  | .prefixed factor task, stack, lexed, source, target, rest, yields, top, goes,
      follows => by
      have sources := actions_of_expression goes
      rcases List.map_eq_cons_iff.mp yields with ⟨⟨kind, lineno, lexpos⟩, others, rfl, rfl, tail⟩
      rcases List.map_eq_cons_iff.mp tail with ⟨sign, right, rfl, written, yields⟩
      refine (reaches_factor top sources.2.2.2.1 sources.2.2.2.2 written factor.2).trans ?_
      refine (reaches_shift (by rw [written]; rfl)).trans ?_
      refine (task.reaches rest yields rfl rfl (expressionFollow_subset _ follows)).trans ?_
      exact reaches_binOp .factorRetry top goes rfl rfl (by decide) (by rw [written]; rfl) follows
  | .postfixed task factor, stack, lexed, source, target, rest, yields, top, goes,
      follows => by
      have sources := actions_of_expression goes
      rcases List.map_eq_append_iff.mp yields with ⟨left, right, rfl, leftYields, yields⟩
      rcases List.map_eq_cons_iff.mp yields with ⟨sign, right, rfl, written, yields⟩
      rcases List.map_eq_singleton_iff.mp yields with ⟨⟨kind, lineno, lexpos⟩, rfl, rfl⟩
      rw [List.append_assoc]
      refine (task.reaches _ leftYields top sources.1 ?_).trans ?_
      · simp [terminalOf, written, Token.terminal, taskFollow]
      refine (reaches_shift (by rw [written]; rfl)).trans ?_
      refine (reaches_postfixed factor.2 follows).trans ?_
      exact reaches_binOp .taskRetry top goes rfl rfl (by decide) (by rw [written]; rfl) follows
  | .described descriptor arrow item, stack, lexed, source, target, rest, yields, top,
      goes, follows => by
      have sources := actions_of_expression goes
      have actions := arrow.actions
      rcases List.map_eq_cons_iff.mp yields with ⟨⟨kind, lineno, lexpos⟩, others, rfl, rfl, tail⟩
      rcases List.map_eq_cons_iff.mp tail with ⟨sign, right, rfl, written, yields⟩
      refine (reaches_descriptor descriptor top sources.2.2.1 sources.2.2.2.2 written).trans ?_
      refine (reaches_shift (by rw [written]; exact actions.1)).trans ?_
      refine Parser.Reaches.trans (item.reaches rest yields rfl actions.2.1 follows) ?_
      exact reaches_binOp arrow.rule top goes (by cases arrow <;> rfl) (by cases arrow <;> rfl)
        actions.2.2.1 (by rw [written]; exact arrow.token_operator) follows

theorem Chain.reaches : ∀ (chain : Chain) {stack : List (Frame State Value)}
    {lexed : List LexToken} {source target : State} (rest : List LexToken),
    lexed.map LexToken.token = chain.tokens → yacc.top stack = source →
    lrGoto source .expression = some target → target ∈ chainStates →
    terminalOf rest.head? ∈ expressionFollow →
    yacc.Reaches none ⟨stack, lexed ++ rest⟩ ⟨⟨target, .ast chain.ast⟩ :: stack, rest⟩
  | .item item, stack, lexed, source, target, rest, yields, top, goes, grows, follows =>
      item.reaches rest yields top goes follows
  | .link chain link item, stack, lexed, source, target, rest, yields, top, goes, grows,
      follows => by
      have actions := link.actions
      rcases List.map_eq_append_iff.mp yields with ⟨left, right, rfl, leftYields, yields⟩
      rcases List.map_eq_cons_iff.mp yields with ⟨sign, right, rfl, written, yields⟩
      rw [List.append_assoc]
      refine (chain.reaches _ leftYields top goes grows ?_).trans ?_
      · simpa [terminalOf, written] using actions.2.2.2
      refine (reaches_shift (by rw [written]; exact actions.1 target grows)).trans ?_
      refine Parser.Reaches.trans (item.reaches rest yields rfl actions.2.1 follows) ?_
      exact reaches_binOp link.rule top goes (by cases link <;> rfl) (by cases link <;> rfl)
        actions.2.2.1 (by rw [written]; exact link.token_operator) follows

theorem Group.reaches : ∀ (group : Group) {stack : List (Frame State Value)}
    {lexed : List LexToken} (rest : List LexToken),
    lexed.map LexToken.token = group.tokens → yacc.top stack = 15 →
    terminalOf rest.head? ∈ [Terminal.seperator, .rparen] →
    yacc.Reaches none ⟨stack, lexed ++ rest⟩ ⟨⟨24, .group group.ast⟩ :: stack, rest⟩
  | .pair first second, stack, lexed, rest, yields, top, follows => by
      rcases List.map_eq_append_iff.mp yields with ⟨left, right, rfl, leftYields, yields⟩
      rcases List.map_eq_cons_iff.mp yields with ⟨sign, right, rfl, written, yields⟩
      have complete : ∀ terminal ∈ [Terminal.seperator, .rparen],
          terminal ∈ expressionFollow ∧
            lrAction 30 terminal = some (.reduce .groupPair) := by decide
      rw [List.append_assoc]
      refine (first.reaches _ leftYields top rfl (by decide) ?_).trans ?_
      · simp [terminalOf, written, Token.terminal, expressionFollow]
      refine (reaches_shift (by rw [written]; rfl)).trans ?_
      refine (second.reaches rest yields rfl rfl (by decide) (complete _ follows).1).trans ?_
      exact reaches_reduce .groupPair
        [⟨30, .ast second.ast⟩, ⟨28, .token sign⟩, ⟨25, .ast first.ast⟩]
        (complete _ follows).2 rfl rfl (top ▸ rfl)
  | .more group chain, stack, lexed, rest, yields, top, follows => by
      rcases List.map_eq_append_iff.mp yields with ⟨left, right, rfl, leftYields, yields⟩
      rcases List.map_eq_cons_iff.mp yields with ⟨sign, right, rfl, written, yields⟩
      have complete : ∀ terminal ∈ [Terminal.seperator, .rparen],
          terminal ∈ expressionFollow ∧
            lrAction 29 terminal = some (.reduce .groupMore) := by decide
      rw [List.append_assoc]
      refine (group.reaches _ leftYields top ?_).trans ?_
      · simp [terminalOf, written, Token.terminal]
      refine (reaches_shift (by rw [written]; rfl)).trans ?_
      refine (chain.reaches rest yields rfl rfl (by decide) (complete _ follows).1).trans ?_
      refine reaches_reduce .groupMore
        [⟨29, .ast chain.ast⟩, ⟨27, .token sign⟩, ⟨24, .group group.ast⟩]
        (complete _ follows).2 rfl ?_ (top ▸ rfl)
      simp [reduceBy, pTaskGroup, group.ofGroup_ast chain]
end

theorem parseTokens_of_chain (chain : Chain) {tokens : List LexToken}
    (yields : tokens.map LexToken.token = chain.tokens) :
    parseTokens tokens none = .accepted (.ast chain.ast) := by
  have reaches : yacc.Reaches none ⟨[], tokens ++ []⟩ ⟨[⟨1, .ast chain.ast⟩], []⟩ :=
    chain.reaches [] yields rfl rfl (by decide) (by decide)
  rw [List.append_nil] at reaches
  exact Parser.run_of_reaches reaches rfl (parseTokens_halts tokens none)

end EventPipeline.Parser
