import EventPipeline.Parser.Completeness

/-! # The parser accepts nothing else

The stack of the parser is a path through the automaton. Every frame on it
holds a derivation of the tokens it stands for, so that what the parser accepts
is the syntax tree of a chain whose tokens are the input.
-/

namespace EventPipeline.Parser

open ShiftReduce

/-! ## Paths through the automaton -/

def sources : State → List State
  | 1 => [0]
  | 2 | 3 | 4 | 5 | 6 => [0, 8, 9, 10, 11, 12, 15, 27, 28]
  | 7 => [0, 8, 9, 10, 11, 12, 13, 15, 27, 28]
  | 8 | 9 | 10 => [1, 25, 29, 30]
  | 11 | 12 => [2]
  | 13 => [3]
  | 14 => [4]
  | 15 => [4, 21]
  | 16 => [8]
  | 17 => [9]
  | 18 => [10]
  | 19 => [11]
  | 20 => [12]
  | 21 => [13]
  | 22 | 23 => [14]
  | 24 | 25 => [15]
  | 26 | 27 => [24]
  | 28 => [25]
  | 29 => [27]
  | 30 => [28]
  | _ => []

theorem mem_sources_of_shift {source target : State} {terminal : Terminal}
    (acts : lrAction source terminal = some (.shift target)) : source ∈ sources target := by
  have checked : ∀ source : State, ((lrAction source terminal).all fun
      | .shift target => decide (source ∈ sources target)
      | _ => true) = true := by
    cases terminal <;> decide
  have found := checked source
  rw [acts] at found
  exact of_decide_eq_true found

theorem mem_sources_of_goto {source target : State} {nonterminal : Nonterminal}
    (goes : lrGoto source nonterminal = some target) : source ∈ sources target := by
  have checked : ∀ entry ∈ lrGotoItems nonterminal, entry.1 ∈ sources entry.2 := by
    cases nonterminal <;> decide +kernel
  exact checked _ (OrderedDict.mem_of_get goes)

/-- What the frames of a state hold. -/
inductive Symbol
  | task
  | item
  | chain
  | descriptor
  | factor
  | group
  | terminal (terminal : Terminal)
deriving DecidableEq

def symbolOf : State → Symbol
  | 4 | 5 | 21 => .task
  | 16 | 17 | 18 | 19 | 20 => .item
  | 1 | 25 | 29 | 30 => .chain
  | 2 => .descriptor
  | 3 | 22 => .factor
  | 24 => .group
  | 6 | 23 => .terminal .number
  | 7 => .terminal .taskname
  | 8 | 11 => .terminal .pointer
  | 9 | 12 => .terminal .ppointer
  | 10 => .terminal .parallel
  | 13 | 14 => .terminal .retry
  | 15 => .terminal .lparen
  | 26 => .terminal .rparen
  | 27 | 28 => .terminal .seperator
  | _ => .terminal .finish

/-- The value is the one that the actions build for these tokens. -/
def Symbol.Holds (value : Value) (tokens : List Token) : Symbol → Prop
  | .task => ∃ task : TaskExpr, value = .ast task.ast ∧ tokens = task.tokens
  | .item => ∃ item : Item, value = .ast item.ast ∧ tokens = item.tokens
  | .chain => ∃ chain : Chain, value = .ast chain.ast ∧ tokens = chain.tokens
  | .descriptor => ∃ descriptor : Fin 10,
      value = .ast (.descriptor descriptor) ∧ tokens = [.number descriptor]
  | .factor => ∃ factor : RetryFactor,
      value = .ast (.number factor) ∧ tokens = [.number factor]
  | .group => ∃ group : Group, value = .group group.ast ∧ tokens = group.tokens
  | .terminal kind => ∃ token : LexToken,
      value = .token token ∧ tokens = [token.token] ∧ token.token.terminal = kind

inductive Stacked : List (Frame State Value) → List Token → Prop
  | empty : Stacked [] []
  | push {state value rest before tokens} :
      Stacked rest before → yacc.top rest ∈ sources state →
      (symbolOf state).Holds value tokens →
      Stacked (⟨state, value⟩ :: rest) (before ++ tokens)

theorem Stacked.pop {stack : List (Frame State Value)} {consumed : List Token}
    {state : State} (stacked : Stacked stack consumed) (top : yacc.top stack = state)
    (inner : state ≠ 0) :
    ∃ value rest before tokens, stack = ⟨state, value⟩ :: rest ∧
      consumed = before ++ tokens ∧ Stacked rest before ∧ yacc.top rest ∈ sources state ∧
      (symbolOf state).Holds value tokens := by
  cases stacked with
  | empty => exact False.elim (inner top.symm)
  | @push pushed value rest before tokens below edge holds =>
      cases top
      exact ⟨value, rest, before, tokens, rfl, rfl, below, edge, holds⟩

theorem Stacked.bottom {stack : List (Frame State Value)} {consumed : List Token}
    (stacked : Stacked stack consumed) (top : yacc.top stack = 0) : consumed = [] := by
  cases stacked with
  | empty => rfl
  | @push state value rest before tokens below edge holds =>
      have pushed : state = 0 := top
      subst pushed
      exact False.elim (List.not_mem_nil (a := yacc.top rest)
        ((by decide : sources 0 = []) ▸ edge))

/-! ## Reductions -/

/-- A reduction goes on with a stack over the same tokens, or an action refuses
a number. -/
def Reduces (rule : Rule) (stack : List (Frame State Value)) (consumed : List Token) : Prop :=
  ∀ remaining : List LexToken,
    (∃ frame rest, yacc.reduce rule ⟨stack, remaining⟩ = .next ⟨frame :: rest, remaining⟩ ∧
      Stacked (frame :: rest) consumed) ∨
    ∃ message, yacc.reduce rule ⟨stack, remaining⟩ =
      .halted (.raised (.yaccError message) remaining)

theorem reduces_of {rule : Rule} {rest : List (Frame State Value)}
    {before tokens : List Token} {target : State}
    (popped : List (Frame State Value)) (value : Value) (below : Stacked rest before)
    (count : popped.length = (lrProduction rule).2)
    (reduces : reduceBy rule (popped.reverse.map Frame.value) = .ok value)
    (goes : lrGoto (yacc.top rest) (lrProduction rule).1 = some target)
    (holds : (symbolOf target).Holds value tokens) :
    Reduces rule (popped ++ rest) (before ++ tokens) := by
  intro remaining
  exact .inl ⟨⟨target, value⟩, rest, Parser.reduce_next count reduces goes,
    .push below (mem_sources_of_goto goes) holds⟩

theorem reduces_of_raises {rule : Rule} {rest : List (Frame State Value)}
    {consumed : List Token} (popped : List (Frame State Value))
    (count : popped.length = (lrProduction rule).2)
    (raises : ∃ message,
      reduceBy rule (popped.reverse.map Frame.value) = .error (.yaccError message)) :
    Reduces rule (popped ++ rest) consumed := by
  intro remaining
  rcases raises with ⟨message, raises⟩
  exact .inr ⟨message, Parser.reduce_raised count raises⟩

theorem holds_expression {source target : State} {value : Value} {tokens : List Token}
    (goes : lrGoto source .expression = some target)
    (holds : Symbol.item.Holds value tokens) : (symbolOf target).Holds value tokens := by
  have checked : ∀ entry ∈ lrGotoItems .expression,
      symbolOf entry.2 = .item ∨ symbolOf entry.2 = .chain := by decide +kernel
  rcases checked _ (OrderedDict.mem_of_get goes) with symbol | symbol
  · rw [symbol]
    exact holds
  · rw [symbol]
    rcases holds with ⟨item, rfl, rfl⟩
    exact ⟨.item item, rfl, rfl⟩

theorem goto_expression {source state : State} (edge : source ∈ sources state)
    (starts : state ∈ [1, 2, 3, 4, 5, 25, 29, 30]) :
    ∃ target, lrGoto source .expression = some target ∧
      (state ∈ chainStates → target = state) := by
  have checked : ∀ state ∈ ([1, 2, 3, 4, 5, 25, 29, 30] : List State),
      ∀ source ∈ sources state, (lrGoto source .expression).any fun target =>
        state ∈ chainStates → target = state := by
    decide
  have found := checked state starts source edge
  rcases goes : lrGoto source .expression with _ | target
  · simp [goes] at found
  · exact ⟨target, rfl, by simpa [goes, imp_iff_not_or] using found⟩

theorem Link.path (link : Link) :
    link.states.1 ≠ 0 ∧ link.states.2 ≠ 0 ∧ sources link.states.2 = [link.states.1] ∧
      sources link.states.1 = chainStates ∧ symbolOf link.states.2 = .item ∧
      symbolOf link.states.1 = .terminal link.token.terminal := by
  cases link <;> decide

theorem Arrow.path (arrow : Arrow) :
    arrow.states.1 ≠ 0 ∧ arrow.states.2 ≠ 0 ∧ sources arrow.states.2 = [arrow.states.1] ∧
      sources arrow.states.1 = [2] ∧ symbolOf arrow.states.2 = .item ∧
      symbolOf arrow.states.1 = .terminal arrow.token.terminal := by
  cases arrow <;> decide

theorem Link.token_eq {link : Link} {token : Token}
    (same : token.terminal = link.token.terminal) : token = link.token := by
  cases link <;> cases token <;> first | rfl | cases same

theorem Arrow.token_eq {arrow : Arrow} {token : Token}
    (same : token.terminal = arrow.token.terminal) : token = arrow.token := by
  cases arrow <;> cases token <;> first | rfl | cases same

section Reductions

variable {stack : List (Frame State Value)} {consumed : List Token}

theorem Stacked.popThree {middle last : State} (stacked : Stacked stack consumed)
    (top : yacc.top stack = last) (forced : sources last = [middle])
    (inner : last ≠ 0 ∧ middle ≠ 0 ∧ 0 ∉ sources middle) :
    ∃ first left sign right rest before leftTokens signTokens rightTokens,
      stack = [⟨last, right⟩, ⟨middle, sign⟩, ⟨first, left⟩] ++ rest ∧
      consumed = before ++ (leftTokens ++ (signTokens ++ rightTokens)) ∧
      Stacked rest before ∧ yacc.top rest ∈ sources first ∧ first ∈ sources middle ∧
      (symbolOf first).Holds left leftTokens ∧ (symbolOf middle).Holds sign signTokens ∧
      (symbolOf last).Holds right rightTokens := by
  rcases stacked.pop top inner.1 with
    ⟨right, second, secondTokens, rightTokens, rfl, rfl, secondStacked, edge, rightHolds⟩
  rw [forced, List.mem_singleton] at edge
  rcases secondStacked.pop edge inner.2.1 with
    ⟨sign, third, thirdTokens, signTokens, rfl, rfl, thirdStacked, edge, signHolds⟩
  have nonzero : yacc.top third ≠ 0 := fun zero => inner.2.2 (zero ▸ edge)
  rcases thirdStacked.pop rfl nonzero with
    ⟨left, rest, before, leftTokens, shape, rfl, below, first, leftHolds⟩
  refine ⟨yacc.top third, left, sign, right, rest, before, leftTokens, signTokens,
    rightTokens, ?_, by simp, below, first, edge, leftHolds, signHolds, rightHolds⟩
  rw [List.cons_append, List.cons_append, List.cons_append, List.nil_append, ← shape]

theorem Link.reduces (stacked : Stacked stack consumed) (link : Link)
    (top : yacc.top stack = link.states.2) : Reduces link.rule stack consumed := by
  have path := link.path
  have chained : ∀ state ∈ chainStates, state ≠ 0 ∧ symbolOf state = .chain ∧
      state ∈ [1, 2, 3, 4, 5, 25, 29, 30] := by decide
  rcases stacked.popThree top path.2.2.1 ⟨path.2.1, path.1, by rw [path.2.2.2.1]; decide⟩ with
    ⟨first, _, _, _, rest, before, _, _, _, rfl, rfl, below, edge, before, left, sign, right⟩
  rw [path.2.2.2.1] at before
  rw [(chained _ before).2.1] at left
  rw [path.2.2.2.2.1] at right
  rw [path.2.2.2.2.2] at sign
  rcases left with ⟨chain, rfl, rfl⟩
  rcases right with ⟨item, rfl, rfl⟩
  rcases sign with ⟨sign, rfl, rfl, same⟩
  have written := Link.token_eq same
  rcases goto_expression edge (chained _ before).2.2 with ⟨target, goes, target_eq⟩
  refine reduces_of [_, _, _] (.ast (Chain.link chain link item).ast) below
    (by cases link <;> rfl) ?_ (by cases link <;> exact goes) ?_
  · have action : reduceBy link.rule = pExpression := by cases link <;> rfl
    simp [action, pExpression, written, Chain.ast]
  · rw [target_eq before, (chained _ before).2.1]
    exact ⟨.link chain link item, rfl, by simp [Chain.tokens, written]⟩

theorem Arrow.reduces (stacked : Stacked stack consumed) (arrow : Arrow)
    (top : yacc.top stack = arrow.states.2) : Reduces arrow.rule stack consumed := by
  have path := arrow.path
  rcases stacked.popThree top path.2.2.1 ⟨path.2.1, path.1, by rw [path.2.2.2.1]; decide⟩ with
    ⟨first, _, _, _, rest, before, _, _, _, rfl, rfl, below, edge, before, left, sign, right⟩
  rw [path.2.2.2.1, List.mem_singleton] at before
  subst before
  rw [path.2.2.2.2.1] at right
  rw [path.2.2.2.2.2] at sign
  rcases left with ⟨descriptor, rfl, rfl⟩
  rcases right with ⟨item, rfl, rfl⟩
  rcases sign with ⟨sign, rfl, rfl, same⟩
  have written := Arrow.token_eq same
  rcases goto_expression edge (by decide) with ⟨target, goes, _⟩
  refine reduces_of [_, _, _] (.ast (Item.described descriptor arrow item).ast) below
    (by cases arrow <;> rfl) ?_ (by cases arrow <;> exact goes) (holds_expression goes ?_)
  · have action : reduceBy arrow.rule = pExpression := by cases arrow <;> rfl
    simp [action, pExpression, written, Item.ast]
  · exact ⟨.described descriptor arrow item, rfl, by simp [Item.tokens, written]⟩

theorem factorRetry_reduces (stacked : Stacked stack consumed)
    (top : yacc.top stack = 21) : Reduces .factorRetry stack consumed := by
  rcases stacked.popThree top (by decide : sources 21 = [13]) (by decide) with
    ⟨first, _, _, _, rest, before, _, _, _, rfl, rfl, below, edge, before, left, sign, right⟩
  obtain rfl : first = 3 := by simpa [show sources 13 = [3] by decide] using before
  rcases left with ⟨factor, rfl, rfl⟩
  rcases right with ⟨task, rfl, rfl⟩
  rcases sign with ⟨⟨sign, lineno, lexpos⟩, rfl, rfl, same⟩
  have written : sign = .retry := Token.eq_of_terminal (by decide) same
  subst written
  rcases goto_expression edge (by decide) with ⟨target, goes, _⟩
  exact reduces_of [_, _, _] (.ast (Item.prefixed factor task).ast) below rfl rfl goes
    (holds_expression goes ⟨.prefixed factor task, rfl, rfl⟩)

theorem taskRetry_reduces (stacked : Stacked stack consumed)
    (top : yacc.top stack = 22) : Reduces .taskRetry stack consumed := by
  rcases stacked.popThree top (by decide : sources 22 = [14]) (by decide) with
    ⟨first, _, _, _, rest, before, _, _, _, rfl, rfl, below, edge, before, left, sign, right⟩
  obtain rfl : first = 4 := by simpa [show sources 14 = [4] by decide] using before
  rcases left with ⟨task, rfl, rfl⟩
  rcases right with ⟨factor, rfl, rfl⟩
  rcases sign with ⟨⟨sign, lineno, lexpos⟩, rfl, rfl, same⟩
  have written : sign = .retry := Token.eq_of_terminal (by decide) same
  subst written
  rcases goto_expression edge (by decide) with ⟨target, goes, _⟩
  exact reduces_of [_, _, _] (.ast (Item.postfixed task factor).ast) below rfl rfl goes
    (holds_expression goes ⟨.postfixed task factor, rfl, rfl⟩)

theorem groupPair_reduces (stacked : Stacked stack consumed)
    (top : yacc.top stack = 30) : Reduces .groupPair stack consumed := by
  rcases stacked.popThree top (by decide : sources 30 = [28]) (by decide) with
    ⟨first, _, _, _, rest, before, _, _, _, rfl, rfl, below, edge, before, left, sign, right⟩
  obtain rfl : first = 25 := by simpa [show sources 28 = [25] by decide] using before
  rcases left with ⟨chain, rfl, rfl⟩
  rcases right with ⟨second, rfl, rfl⟩
  rcases sign with ⟨⟨sign, lineno, lexpos⟩, rfl, rfl, same⟩
  have written : sign = .seperator := Token.eq_of_terminal (by decide) same
  subst written
  have bottom : yacc.top rest = 15 := by simpa [show sources 25 = [15] by decide] using edge
  have goes : lrGoto (yacc.top rest) .taskGroup = some 24 := by rw [bottom]; rfl
  exact reduces_of [_, _, _] (.group (Group.pair chain second).ast) below rfl rfl goes
    ⟨.pair chain second, rfl, rfl⟩

theorem groupMore_reduces (stacked : Stacked stack consumed)
    (top : yacc.top stack = 29) : Reduces .groupMore stack consumed := by
  rcases stacked.popThree top (by decide : sources 29 = [27]) (by decide) with
    ⟨first, _, _, _, rest, before, _, _, _, rfl, rfl, below, edge, before, left, sign, right⟩
  obtain rfl : first = 24 := by simpa [show sources 27 = [24] by decide] using before
  rcases left with ⟨group, rfl, rfl⟩
  rcases right with ⟨chain, rfl, rfl⟩
  rcases sign with ⟨⟨sign, lineno, lexpos⟩, rfl, rfl, same⟩
  have written : sign = .seperator := Token.eq_of_terminal (by decide) same
  subst written
  have bottom : yacc.top rest = 15 := by simpa [show sources 24 = [15] by decide] using edge
  have goes : lrGoto (yacc.top rest) .taskGroup = some 24 := by rw [bottom]; rfl
  refine reduces_of [_, _, _] (.group (Group.more group chain).ast) below rfl ?_ goes
    ⟨.more group chain, rfl, rfl⟩
  simp [reduceBy, pTaskGroup, group.ofGroup_ast chain]

theorem taskConditional_reduces (stacked : Stacked stack consumed)
    (top : yacc.top stack = 26) : Reduces .taskConditional stack consumed := by
  rcases stacked.pop top (by decide) with
    ⟨_, second, _, _, rfl, rfl, secondStacked, inside, closing⟩
  have inside : yacc.top second = 24 := by simpa [show sources 26 = [24] by decide] using inside
  rcases secondStacked.popThree inside (by decide : sources 24 = [15]) (by decide) with
    ⟨first, _, _, _, rest, before, _, _, _, rfl, rfl, below, edge, parent, left, sign, right⟩
  have tasks : ∀ state ∈ sources 15, symbolOf state = .task ∧
      ∀ source ∈ sources state, (lrGoto source .task).isSome := by decide
  rw [(tasks _ parent).1] at left
  rcases left with ⟨task, rfl, rfl⟩
  rcases right with ⟨group, rfl, rfl⟩
  rcases sign with ⟨⟨sign, _, _⟩, rfl, rfl, opens⟩
  rcases closing with ⟨⟨closing, _, _⟩, rfl, rfl, closes⟩
  have opened : sign = .lparen := by cases sign <;> first | rfl | cases opens
  have closed : closing = .rparen := by cases closing <;> first | rfl | cases closes
  subst opened closed
  rcases Option.isSome_iff_exists.mp ((tasks _ parent).2 _ edge) with ⟨target, goes⟩
  have listed : before ++ (task.tokens ++ ([.lparen] ++ group.tokens)) ++ [.rparen] =
      before ++ (TaskExpr.conditional task group).tokens := by simp [TaskExpr.tokens]
  rw [listed]
  have targets : ∀ target ∈ Nonterminal.task.states, symbolOf target = .task := by decide
  refine reduces_of [_, _, _, _] (.ast (TaskExpr.conditional task group).ast) below rfl rfl
    goes ?_
  rw [targets _ (mem_states_of_goto goes)]
  exact ⟨.conditional task group, rfl, rfl⟩

theorem expressionTerm_reduces (stacked : Stacked stack consumed)
    (top : yacc.top stack = 5) : Reduces .expressionTerm stack consumed := by
  rcases stacked.pop top (by decide) with ⟨_, rest, before, _, rfl, rfl, below, edge, holds⟩
  rcases holds with ⟨task, rfl, rfl⟩
  rcases goto_expression edge (by decide) with ⟨target, goes, _⟩
  exact reduces_of [_] (.ast task.ast) below rfl rfl goes
    (holds_expression goes ⟨.task task, rfl, rfl⟩)

theorem termTask_reduces (stacked : Stacked stack consumed)
    (top : yacc.top stack = 4) : Reduces .termTask stack consumed := by
  rcases stacked.pop top (by decide) with ⟨_, rest, before, _, rfl, rfl, below, edge, holds⟩
  rcases holds with ⟨task, rfl, rfl⟩
  have term : ∀ source ∈ sources 4, lrGoto source .term = some 5 := by decide
  exact reduces_of [_] (.ast task.ast) below rfl rfl (term _ edge) ⟨task, rfl, rfl⟩

theorem taskTaskname_reduces (stacked : Stacked stack consumed)
    (top : yacc.top stack = 7) : Reduces .taskTaskname stack consumed := by
  rcases stacked.pop top (by decide) with ⟨_, rest, before, _, rfl, rfl, below, edge, holds⟩
  rcases holds with ⟨⟨token, lineno, lexpos⟩, rfl, rfl, same⟩
  have named : ∃ name, token = .taskname name := by
    cases token <;> first | exact ⟨_, rfl⟩ | cases same
  rcases named with ⟨name, rfl⟩
  have task : ∀ source ∈ sources 7, (lrGoto source .task).any fun target =>
      symbolOf target = .task := by decide
  have found := task _ edge
  rcases goes : lrGoto (yacc.top rest) .task with _ | target
  · simp [goes] at found
  · refine reduces_of [_] (.ast (.taskName name)) below rfl rfl goes ?_
    rw [show symbolOf target = .task by simpa [goes] using found]
    exact ⟨.name name, rfl, rfl⟩

theorem descriptorNumber_reduces (stacked : Stacked stack consumed)
    (top : yacc.top stack = 6) : Reduces .descriptorNumber stack consumed := by
  rcases stacked.pop top (by decide) with ⟨_, rest, before, _, rfl, rfl, below, edge, holds⟩
  rcases holds with ⟨⟨token, lineno, lexpos⟩, rfl, rfl, same⟩
  have number : ∃ value, token = .number value := by
    cases token <;> first | exact ⟨_, rfl⟩ | cases same
  rcases number with ⟨value, rfl⟩
  have goes : ∀ source ∈ sources 6, lrGoto source .descriptor = some 2 := by decide
  by_cases small : value < 10
  · refine reduces_of [_] (.ast (.descriptor value)) below rfl ?_ (goes _ edge)
      ⟨⟨value, small⟩, rfl, rfl⟩
    simp [reduceBy, pDescriptor, small]
  · refine reduces_of_raises [_] rfl ?_
    simp [reduceBy, pDescriptor, small]

theorem factorNumber_reduces (stacked : Stacked stack consumed)
    (top : yacc.top stack ∈ [6, 23]) : Reduces .factorNumber stack consumed := by
  have numbers : ∀ state ∈ ([6, 23] : List State), state ≠ 0 ∧
      symbolOf state = .terminal .number ∧
      ∀ source ∈ sources state, (lrGoto source .factor).any fun target =>
        symbolOf target = .factor := by decide
  rcases stacked.pop rfl (numbers _ top).1 with
    ⟨_, rest, before, _, shape, rfl, below, edge, holds⟩
  rw [(numbers _ top).2.1] at holds
  rcases holds with ⟨⟨token, lineno, lexpos⟩, rfl, rfl, same⟩
  have number : ∃ value, token = .number value := by
    cases token <;> first | exact ⟨_, rfl⟩ | cases same
  rcases number with ⟨value, rfl⟩
  have found := (numbers _ top).2.2 _ edge
  rw [shape]
  by_cases small : value < 2
  · refine reduces_of_raises [_] rfl ?_
    simp [reduceBy, pFactor, small]
  · rcases goes : lrGoto (yacc.top rest) .factor with _ | target
    · simp [goes] at found
    · refine reduces_of [_] (.ast (.number value)) below rfl ?_ goes ?_
      · simp [reduceBy, pFactor, small]
      · rw [show symbolOf target = .factor by simpa [goes] using found]
        exact ⟨⟨value, Nat.not_lt.mp small⟩, rfl, rfl⟩

theorem reduce_sound {rule : Rule} (stacked : Stacked stack consumed)
    (complete : yacc.top stack ∈ rule.states) : Reduces rule stack consumed := by
  have only {state : State} (member : yacc.top stack ∈ [state]) : yacc.top stack = state :=
    List.mem_singleton.mp member
  cases rule with
  | expressionPointer => exact Link.reduces stacked .pointer (only complete)
  | expressionPpointer => exact Link.reduces stacked .ppointer (only complete)
  | expressionParallel => exact Link.reduces stacked .parallel (only complete)
  | descriptorPointer => exact Arrow.reduces stacked .pointer (only complete)
  | descriptorPpointer => exact Arrow.reduces stacked .ppointer (only complete)
  | factorRetry => exact factorRetry_reduces stacked (only complete)
  | taskRetry => exact taskRetry_reduces stacked (only complete)
  | expressionTerm => exact expressionTerm_reduces stacked (only complete)
  | termTask => exact termTask_reduces stacked (only complete)
  | descriptorNumber => exact descriptorNumber_reduces stacked (only complete)
  | factorNumber => exact factorNumber_reduces stacked complete
  | taskTaskname => exact taskTaskname_reduces stacked (only complete)
  | groupPair => exact groupPair_reduces stacked (only complete)
  | groupMore => exact groupMore_reduces stacked (only complete)
  | taskConditional => exact taskConditional_reduces stacked (only complete)

end Reductions

/-! ## Whole runs -/

/-- What the parser has shifted is on its stack. -/
def Parsed (tokens : List LexToken) (configuration : Configuration State LexToken Value) :
    Prop :=
  ∃ shifted, tokens = shifted ++ configuration.remaining ∧
    Stacked configuration.stack (shifted.map LexToken.token)

/-- How a parse of these tokens can end. -/
def Ends (tokens : List LexToken) (ending : Option PyError) :
    Outcome LexToken Value PyError → Prop
  | .accepted value => ending = none ∧ ∃ chain : Chain,
      value = .ast chain.ast ∧ tokens.map LexToken.token = chain.tokens
  | .rejected remaining => remaining <:+ tokens
  | .raised error remaining => remaining <:+ tokens ∧
      ((∃ message, error = .yaccError message) ∨ ending = some error)
  | .stuck | .outOfFuel => False

theorem symbol_of_shift {source target : State} {terminal : Terminal}
    (acts : lrAction source terminal = some (.shift target)) :
    symbolOf target = .terminal terminal := by
  have checked : ∀ state : State, ((lrAction state terminal).all fun
      | .shift target => decide (symbolOf target = .terminal terminal)
      | _ => true) = true := by
    cases terminal <;> decide
  have found := checked source
  rw [acts] at found
  exact of_decide_eq_true found

theorem shift_sound {source target : State} {token : LexToken}
    (acts : lrAction source token.token.terminal = some (.shift target)) :
    (symbolOf target).Holds (.token token) [token.token] := by
  rw [symbol_of_shift acts]
  exact ⟨token, rfl, rfl, rfl⟩

theorem accept_sound {state : State} {terminal : Terminal}
    (acts : lrAction state terminal = some .accept) : state = 1 ∧ terminal = .finish := by
  have checked : ∀ terminal : Terminal, ∀ state : State,
      lrAction state terminal = some .accept → state = 1 ∧ terminal = .finish := by
    intro terminal
    cases terminal <;> decide
  exact checked terminal state acts

theorem finish_not_shifted (state target : State) :
    lrAction state .finish ≠ some (.shift target) := by
  have checked : ∀ state : State, ((lrAction state .finish).all fun
      | .shift _ => false
      | _ => true) = true := by decide
  intro acts
  have found := checked state
  rw [acts] at found
  cases found

theorem step_sound {tokens : List LexToken} {ending : Option PyError}
    {configuration : Configuration State LexToken Value} (parsed : Parsed tokens configuration) :
    match yacc.step ending configuration with
    | .next following => Parsed tokens following
    | .halted outcome => Ends tokens ending outcome := by
  rcases configuration with ⟨stack, remaining⟩
  rcases parsed with ⟨shifted, rfl, stacked⟩
  dsimp only at stacked ⊢
  by_cases available : remaining = [] → ending = none
  · rcases acts : lrAction (yacc.top stack) (terminalOf remaining.head?) with
      _ | (target | rule | _)
    · rw [Parser.step_rejects available acts]
      exact List.suffix_append _ _
    · cases remaining with
      | nil => exact False.elim (finish_not_shifted _ _ acts)
      | cons token rest =>
          rw [Parser.step_shift acts]
          refine ⟨shifted ++ [token], by simp, ?_⟩
          rw [List.map_append]
          exact .push stacked (mem_sources_of_shift acts) (shift_sound acts)
    · rw [Parser.step_reduce available acts]
      rcases reduce_sound stacked (mem_states_of_reduce acts) remaining with
        ⟨frame, rest, reduces, stacked⟩ | ⟨message, raises⟩
      · rw [reduces]
        exact ⟨shifted, rfl, stacked⟩
      · rw [raises]
        exact ⟨List.suffix_append _ _, .inl ⟨message, rfl⟩⟩
    · have accepts := accept_sound acts
      have exhausted : remaining = [] := by
        cases remaining with
        | nil => rfl
        | cons token rest =>
            rcases token with ⟨token, lineno, lexpos⟩
            cases token <;> cases accepts.2
      subst exhausted
      rcases stacked.pop accepts.1 (by decide) with
        ⟨value, rest, before, _, rfl, yields, below, edge, chain, rfl, rfl⟩
      rw [Parser.step_accepts available acts]
      have bottom : yacc.top rest = 0 := by simpa [show sources 1 = [0] by decide] using edge
      refine ⟨available rfl, chain, rfl, ?_⟩
      rw [List.append_nil, yields, below.bottom bottom, List.nil_append]
  · rcases Classical.not_imp.mp available with ⟨rfl, raising⟩
    rcases Option.ne_none_iff_exists'.mp raising with ⟨error, rfl⟩
    rw [Parser.step_raises]
    exact ⟨List.nil_suffix, .inr rfl⟩

theorem parseTokens_ends (tokens : List LexToken) (ending : Option PyError) :
    Ends tokens ending (parseTokens tokens ending) := by
  have preserved : ∀ first second, Parsed tokens first →
      yacc.step ending first = .next second → Parsed tokens second := by
    intro first second parsed stepped
    have sound : match yacc.step ending first with
        | .next following => Parsed tokens following
        | .halted outcome => Ends tokens ending outcome := step_sound parsed
    rw [stepped] at sound
    exact sound
  have starts : Parsed tokens ⟨[], tokens⟩ := ⟨[], rfl, .empty⟩
  rcases Parser.run_invariant (Parsed tokens) preserved starts rfl
    (parseTokens_halts tokens ending) with ⟨last, parsed, stepped⟩
  have sound : match yacc.step ending last with
      | .next following => Parsed tokens following
      | .halted outcome => Ends tokens ending outcome := step_sound parsed
  rw [stepped] at sound
  exact sound

theorem parseTokens_accepted_iff (tokens : List LexToken) (ending : Option PyError)
    (value : Value) :
    parseTokens tokens ending = .accepted value ↔
      ending = none ∧ ∃ chain : Chain,
        value = .ast chain.ast ∧ tokens.map LexToken.token = chain.tokens := by
  constructor
  · intro accepted
    have ends := parseTokens_ends tokens ending
    rw [accepted] at ends
    exact ends
  · rintro ⟨rfl, chain, rfl, yields⟩
    exact parseTokens_of_chain chain yields

end EventPipeline.Parser
