import EventPipeline.Parser.Soundness

/-! # Beginnings of scripts

Whatever the parser has shifted is the beginning of a script of the grammar, and a token at which
it stops is the first that no script goes on with.
-/

namespace EventPipeline.Parser

open ShiftReduce

/-- A script begins with tokens of these kinds. -/
def Begins (tokens : List Token) : Prop :=
  ∃ chain : Chain, tokens.map Token.terminal <+: chain.tokens.map Token.terminal

/-- A script begins with these tokens. -/
def Completable (tokens : List Token) : Prop :=
  ∃ chain : Chain, tokens <+: chain.tokens

theorem Completable.begins {tokens : List Token} (completable : Completable tokens) :
    Begins tokens := by
  rcases completable with ⟨chain, begins⟩
  exact ⟨chain, begins.map Token.terminal⟩

theorem Completable.of_append {tokens more : List Token}
    (completable : Completable (tokens ++ more)) : Completable tokens := by
  rcases completable with ⟨chain, begins⟩
  exact ⟨chain, (List.prefix_append tokens more).trans begins⟩

theorem Begins.of_append {tokens more : List Token} (begins : Begins (tokens ++ more)) :
    Begins tokens := by
  rcases begins with ⟨chain, begins⟩
  refine ⟨chain, List.IsPrefix.trans ?_ begins⟩
  rw [List.map_append]
  exact List.prefix_append _ _

theorem Begins.of_kinds {tokens others : List Token} (begins : Begins tokens)
    (kinds : others.map Token.terminal = tokens.map Token.terminal) : Begins others := by
  rcases begins with ⟨chain, begins⟩
  exact ⟨chain, kinds ▸ begins⟩

/-! ## Putting chains together -/

def Chain.append (left : Chain) (link : Link) : Chain → Chain
  | .item only => .link left link only
  | .link chain inner last => .link (append left link chain) inner last

theorem Chain.tokens_append (left : Chain) (link : Link) : ∀ right : Chain,
    (left.append link right).tokens = left.tokens ++ link.token :: right.tokens
  | .item only => by rw [Chain.append, Chain.tokens, Chain.tokens]
  | .link chain inner last => by
      rw [Chain.append, Chain.tokens, Chain.tokens_append left link chain, Chain.tokens]
      simp

/-- Put a descriptor in front of the first item. -/
def Chain.describe (descriptor : Fin 10) (arrow : Arrow) : Chain → Chain
  | .item only => .item (.described descriptor arrow only)
  | .link chain inner last => .link (describe descriptor arrow chain) inner last

theorem Chain.tokens_describe (descriptor : Fin 10) (arrow : Arrow) : ∀ chain : Chain,
    (chain.describe descriptor arrow).tokens = .number descriptor :: arrow.token :: chain.tokens
  | .item only => by rw [Chain.describe, Chain.tokens, Item.tokens, Chain.tokens]
  | .link chain inner last => by
      rw [Chain.describe, Chain.tokens, Chain.tokens_describe descriptor arrow chain, Chain.tokens]
      rfl

/-- Some script. -/
def someChain : Chain := .item (.task (.name "A"))

/-! ## What can follow a stack -/

/-- Behind the tokens of a stack with this state on top, everything that the state goes on with can
be completed to a script. -/
structure GoesOn (state : State) (consumed : List Token) : Prop where
  expression : (lrGoto state .expression).isSome = true →
    ∀ chain : Chain, Completable (consumed ++ chain.tokens)
  task : (lrGoto state .task).isSome = true →
    ∀ task : TaskExpr, Completable (consumed ++ task.tokens)
  group : state = 15 → ∀ group : Group, Completable (consumed ++ (group.tokens ++ [.rparen]))

section Stacks

variable {stack : List (Frame State Value)} {consumed : List Token}

theorem length_lt_of_popTwo {first second : Frame State Value} {rest : List (Frame State Value)} :
    rest.length < ([first, second] ++ rest).length := by
  rw [List.length_append, List.length_cons, List.length_singleton]
  omega

theorem Stacked.popTwo {last : State} (stacked : Stacked stack consumed)
    (top : yacc.top stack = last) (inner : last ≠ 0 ∧ 0 ∉ sources last) :
    ∃ first left sign rest before leftTokens signTokens,
      stack = [⟨last, sign⟩, ⟨first, left⟩] ++ rest ∧
      consumed = before ++ (leftTokens ++ signTokens) ∧ Stacked rest before ∧
      yacc.top rest ∈ sources first ∧ first ∈ sources last ∧
      (symbolOf first).Holds left leftTokens ∧ (symbolOf last).Holds sign signTokens := by
  rcases stacked.pop top inner.1 with
    ⟨sign, second, secondTokens, signTokens, rfl, rfl, secondStacked, edge, signHolds⟩
  have nonzero : yacc.top second ≠ 0 := fun zero => inner.2 (zero ▸ edge)
  rcases secondStacked.pop rfl nonzero with
    ⟨left, rest, before, leftTokens, shape, rfl, below, first, leftHolds⟩
  refine ⟨yacc.top second, left, sign, rest, before, leftTokens, signTokens, ?_, by simp, below,
    first, edge, leftHolds, signHolds⟩
  rw [List.cons_append, List.cons_append, List.nil_append, ← shape]

theorem sources_expression {state : State} (symbol : symbolOf state = .chain) :
    ∀ source ∈ sources state, (lrGoto source .expression).isSome = true := by
  have checked : ∀ state : State, symbolOf state = .chain →
      ∀ source ∈ sources state, (lrGoto source .expression).isSome = true := by decide +kernel
  exact checked state symbol

theorem sources_task {state : State} (symbol : symbolOf state = .task) (inner : state ≠ 5) :
    ∀ source ∈ sources state, (lrGoto source .task).isSome = true := by
  have checked : ∀ state : State, symbolOf state = .task → state ≠ 5 →
      ∀ source ∈ sources state, (lrGoto source .task).isSome = true := by decide +kernel
  exact checked state symbol inner

theorem Stacked.goesOn_link (stacked : Stacked stack consumed) (link : Link)
    (top : yacc.top stack = link.states.1)
    (below : ∀ rest before, rest.length < stack.length → Stacked rest before →
      GoesOn (yacc.top rest) before) (chain : Chain) :
    Completable (consumed ++ chain.tokens) := by
  have path := link.path
  have chained : ∀ state ∈ chainStates, symbolOf state = .chain ∧ state ≠ 0 := by decide
  rcases stacked.popTwo top ⟨path.1, by rw [path.2.2.2.1]; decide⟩ with
    ⟨first, _, _, rest, before, _, _, rfl, rfl, bottom, edge, source, left, sign⟩
  rw [path.2.2.2.1] at source
  rw [(chained _ source).1] at left
  rw [path.2.2.2.2.2] at sign
  rcases left with ⟨front, rfl, rfl⟩
  rcases sign with ⟨sign, rfl, rfl, same⟩
  have goesOn := below rest before length_lt_of_popTwo bottom
  have completable := goesOn.expression (sources_expression (chained _ source).1 _ edge)
    (front.append link chain)
  rw [Chain.tokens_append, ← Link.token_eq same] at completable
  simpa using completable

theorem Stacked.goesOn_arrow (stacked : Stacked stack consumed) (arrow : Arrow)
    (top : yacc.top stack = arrow.states.1)
    (below : ∀ rest before, rest.length < stack.length → Stacked rest before →
      GoesOn (yacc.top rest) before) (chain : Chain) :
    Completable (consumed ++ chain.tokens) := by
  have path := arrow.path
  have described : ∀ source ∈ sources 2, (lrGoto source .expression).isSome = true := by
    decide +kernel
  rcases stacked.popTwo top ⟨path.1, by rw [path.2.2.2.1]; decide⟩ with
    ⟨first, _, _, rest, before, _, _, rfl, rfl, bottom, edge, source, left, sign⟩
  rw [path.2.2.2.1, List.mem_singleton] at source
  subst source
  rw [path.2.2.2.2.2] at sign
  rcases left with ⟨descriptor, rfl, rfl⟩
  rcases sign with ⟨sign, rfl, rfl, same⟩
  have goesOn := below rest before length_lt_of_popTwo bottom
  have completable := goesOn.expression (described _ edge) (chain.describe descriptor arrow)
  rw [Chain.tokens_describe, ← Arrow.token_eq same] at completable
  simpa using completable

theorem Stacked.goesOn_factor (stacked : Stacked stack consumed) (top : yacc.top stack = 13)
    (below : ∀ rest before, rest.length < stack.length → Stacked rest before →
      GoesOn (yacc.top rest) before) (task : TaskExpr) :
    Completable (consumed ++ task.tokens) := by
  have factored : ∀ source ∈ sources 3, (lrGoto source .expression).isSome = true := by
    decide +kernel
  rcases stacked.popTwo top (by decide) with
    ⟨first, _, _, rest, before, _, _, rfl, rfl, bottom, edge, source, left, sign⟩
  obtain rfl : first = 3 := by simpa [show sources 13 = [3] by decide] using source
  rcases left with ⟨factor, rfl, rfl⟩
  rcases sign with ⟨⟨sign, lineno, lexpos⟩, rfl, rfl, same⟩
  have written : sign = .retry := Token.eq_of_terminal (by decide) same
  subst written
  have goesOn := below rest before length_lt_of_popTwo bottom
  have completable := goesOn.expression (factored _ edge) (.item (.prefixed factor task))
  rw [Chain.tokens, Item.tokens] at completable
  simpa using completable

theorem Stacked.goesOn_opening (stacked : Stacked stack consumed) (top : yacc.top stack = 15)
    (below : ∀ rest before, rest.length < stack.length → Stacked rest before →
      GoesOn (yacc.top rest) before) (group : Group) :
    Completable (consumed ++ (group.tokens ++ [.rparen])) := by
  have opened : ∀ source ∈ sources 15, symbolOf source = .task ∧ source ≠ 5 := by decide
  rcases stacked.popTwo top (by decide) with
    ⟨first, _, _, rest, before, _, _, rfl, rfl, bottom, edge, source, left, sign⟩
  rw [(opened _ source).1] at left
  rcases left with ⟨task, rfl, rfl⟩
  rcases sign with ⟨⟨sign, lineno, lexpos⟩, rfl, rfl, same⟩
  have written : sign = .lparen := Token.eq_of_terminal (by decide) same
  subst written
  have goesOn := below rest before length_lt_of_popTwo bottom
  have completable := goesOn.task (sources_task (opened _ source).1 (opened _ source).2 _ edge)
    (.conditional task group)
  rw [TaskExpr.tokens] at completable
  simpa using completable

/-- A branch of a group and its comma can be followed by any branch. -/
theorem Stacked.goesOn_comma (stacked : Stacked stack consumed)
    (top : yacc.top stack ∈ [27, 28])
    (below : ∀ rest before, rest.length < stack.length → Stacked rest before →
      GoesOn (yacc.top rest) before) (chain : Chain) :
    Completable (consumed ++ chain.tokens) := by
  have commas : ∀ last ∈ ([27, 28] : List State), (last ≠ 0 ∧ 0 ∉ sources last) ∧
      symbolOf last = .terminal .seperator ∧ ∀ first ∈ sources last,
        (symbolOf first = .group ∨ symbolOf first = .chain) ∧ sources first = [15] := by decide
  rcases stacked.popTwo rfl (commas _ top).1 with
    ⟨first, _, _, rest, before, _, _, shape, rfl, bottom, edge, source, left, sign⟩
  have opening := ((commas _ top).2.2 _ source).2
  rw [opening, List.mem_singleton] at edge
  rw [(commas _ top).2.1] at sign
  rcases sign with ⟨⟨sign, lineno, lexpos⟩, rfl, rfl, same⟩
  have written : sign = .seperator := Token.eq_of_terminal (by decide) same
  subst written
  have goesOn := below rest before (shape ▸ length_lt_of_popTwo) bottom
  rcases ((commas _ top).2.2 _ source).1 with symbol | symbol
  · rw [symbol] at left
    rcases left with ⟨group, rfl, rfl⟩
    have completable := goesOn.group edge (.more group chain)
    rw [Group.tokens] at completable
    apply @Completable.of_append _ [.rparen]
    simpa using completable
  · rw [symbol] at left
    rcases left with ⟨front, rfl, rfl⟩
    have completable := goesOn.group edge (.pair front chain)
    rw [Group.tokens] at completable
    apply @Completable.of_append _ [.rparen]
    simpa using completable

/-- On every stack, by induction on its height: what a state goes on with completes the construct
that the frames below it have begun. -/
theorem Stacked.goesOn (stacked : Stacked stack consumed) : GoesOn (yacc.top stack) consumed := by
  suffices general : ∀ (size : Nat) (stack : List (Frame State Value)) (consumed : List Token),
      stack.length < size → Stacked stack consumed → GoesOn (yacc.top stack) consumed from
    general _ stack consumed (Nat.lt_succ_self _) stacked
  intro size
  induction size with
  | zero => exact fun _ _ impossible => absurd impossible (Nat.not_lt_zero _)
  | succ size induction =>
      intro stack consumed small stacked
      have below : ∀ rest before, rest.length < stack.length → Stacked rest before →
          GoesOn (yacc.top rest) before := fun rest before shorter bottom =>
        induction rest before (by omega) bottom
      have starts : ∀ state : State, (lrGoto state .expression).isSome = true →
          state = 0 ∨ state = 8 ∨ state = 9 ∨ state = 10 ∨ state = 11 ∨ state = 12 ∨
            state = 15 ∨ state ∈ ([27, 28] : List State) := by decide +kernel
      have tasks : ∀ state : State, (lrGoto state .task).isSome = true →
          (lrGoto state .expression).isSome = true ∨ state = 13 := by decide +kernel
      have expression : (lrGoto (yacc.top stack) .expression).isSome = true →
          ∀ chain : Chain, Completable (consumed ++ chain.tokens) := by
        intro starting chain
        rcases starts _ starting with top | top | top | top | top | top | top | top
        · rw [stacked.bottom top, List.nil_append]
          exact ⟨chain, List.prefix_rfl⟩
        · exact stacked.goesOn_link .pointer top below chain
        · exact stacked.goesOn_link .ppointer top below chain
        · exact stacked.goesOn_link .parallel top below chain
        · exact stacked.goesOn_arrow .pointer top below chain
        · exact stacked.goesOn_arrow .ppointer top below chain
        · have completable := stacked.goesOn_opening top below (.pair chain someChain)
          rw [Group.tokens, List.append_assoc, ← List.append_assoc] at completable
          exact completable.of_append
        · exact stacked.goesOn_comma top below chain
      refine ⟨expression, ?_, fun top => stacked.goesOn_opening top below⟩
      intro starting task
      rcases tasks _ starting with starting | top
      · have completable := expression starting (.item (.task task))
        rw [Chain.tokens, Item.tokens] at completable
        exact completable
      · exact stacked.goesOn_factor top below task

/-! ## Shifting -/

/-- The states behind which nothing begins: a number, a name, a retry sign behind a task and the
end of a group. -/
def closingStates : List State := [6, 7, 14, 23, 26]

theorem starts_of_shift {source target : State} {terminal : Terminal}
    (acts : lrAction source terminal = some (.shift target)) (other : target ∉ closingStates) :
    (lrGoto target .expression).isSome = true ∨ (lrGoto target .task).isSome = true := by
  have checked : ∀ source : State, ((lrAction source terminal).all fun
      | .shift target => decide (target ∉ closingStates →
          (lrGoto target .expression).isSome = true ∨ (lrGoto target .task).isSome = true)
      | _ => true) = true := by
    cases terminal <;> decide
  have found := checked source
  rw [acts] at found
  exact of_decide_eq_true found other

theorem sources_item {state : State} (number : state ∈ ([4, 6] : List State)) :
    ∀ source ∈ sources state, (lrGoto source .expression).isSome = true := by
  have checked : ∀ state ∈ ([4, 6] : List State), ∀ source ∈ sources state,
      (lrGoto source .expression).isSome = true := by decide +kernel
  exact checked state number

theorem sources_name : ∀ source ∈ sources 7, (lrGoto source .task).isSome = true := by
  decide +kernel

theorem Stacked.goesOn_task (stacked : Stacked stack consumed) (top : yacc.top stack = 4) :
    Completable (consumed ++ [.retry, .number 2]) := by
  rcases stacked.pop top (by decide) with ⟨_, rest, before, _, rfl, rfl, below, edge, holds⟩
  rcases holds with ⟨task, rfl, rfl⟩
  have completable := below.goesOn.expression (sources_item (by decide) _ edge)
    (.item (.postfixed task ⟨2, Nat.le_refl 2⟩))
  rw [Chain.tokens, Item.tokens, ← List.append_assoc] at completable
  exact completable

theorem begins_of_shift {token : LexToken} {target : State} (stacked : Stacked stack consumed)
    (acts : lrAction (yacc.top stack) token.token.terminal = some (.shift target)) :
    Begins (consumed ++ [token.token]) := by
  have edge := mem_sources_of_shift acts
  by_cases closing : target ∈ closingStates
  · have kind := symbol_of_shift acts
    have alike : ∀ other : Token, symbolOf target = .terminal other.terminal →
        Completable (consumed ++ [other]) → Begins (consumed ++ [token.token]) := by
      intro other same completable
      have sameKind := Symbol.terminal.inj (kind.symm.trans same)
      exact completable.begins.of_kinds (by simp [sameKind])
    simp only [closingStates, List.mem_cons, List.not_mem_nil, or_false] at closing
    rcases closing with rfl | rfl | rfl | rfl | rfl
    · have completable : Completable (consumed ++ ([.number 0] ++ [.pointer, .taskname "A"])) :=
        stacked.goesOn.expression (sources_item (by decide) _ edge)
          (.item (.described 0 .pointer (.task (.name "A"))))
      rw [← List.append_assoc] at completable
      exact alike (.number 0) rfl completable.of_append
    · exact alike (.taskname "A") rfl (stacked.goesOn.task (sources_name _ edge) (.name "A"))
    · have top : yacc.top stack = 4 := by simpa [show sources 14 = [4] by decide] using edge
      have completable := stacked.goesOn_task top
      rw [← List.singleton_append, ← List.append_assoc] at completable
      exact alike .retry rfl completable.of_append
    · have top : yacc.top stack = 14 := by simpa [show sources 23 = [14] by decide] using edge
      rcases stacked.pop top (by decide) with ⟨_, rest, before, _, rfl, rfl, below, inside, holds⟩
      rcases holds with ⟨⟨sign, lineno, lexpos⟩, rfl, rfl, same⟩
      have written : sign = .retry := Token.eq_of_terminal (by decide) same
      subst written
      have top : yacc.top rest = 4 := by simpa [show sources 14 = [4] by decide] using inside
      have completable := below.goesOn_task top
      rw [← List.singleton_append, ← List.append_assoc] at completable
      exact alike (.number 2) rfl completable
    · have top : yacc.top stack = 24 := by simpa [show sources 26 = [24] by decide] using edge
      rcases stacked.pop top (by decide) with ⟨_, rest, before, _, rfl, rfl, below, inside, holds⟩
      rcases holds with ⟨group, rfl, rfl⟩
      have top : yacc.top rest = 15 := by simpa [show sources 24 = [15] by decide] using inside
      have completable := below.goesOn.group top group
      rw [← List.append_assoc] at completable
      exact alike .rparen rfl completable
  · have pushed : Stacked (⟨target, .token token⟩ :: stack) (consumed ++ [token.token]) :=
      .push stacked edge (shift_sound acts)
    rcases starts_of_shift acts closing with starting | starting
    · exact (pushed.goesOn.expression starting someChain).of_append.begins
    · exact (pushed.goesOn.task starting (.name "A")).of_append.begins

end Stacks

end EventPipeline.Parser
