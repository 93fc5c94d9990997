import EventPipeline.Parser.Viable

/-! # How a parse ends

What the tokens alone say about the outcome: the parser raises at the first number that its rule
refuses, and otherwise stops at the first token that no script goes on with.
-/

namespace EventPipeline.Parser

open ShiftReduce

/-! ## Numbers -/

/-- The terminal that the parser sees next. -/
def following : List Token → Terminal
  | [] => .finish
  | token :: _ => token.terminal

/-- The rule for the number refuses it: behind a retry sign and in front of one stands a factor,
in front of an arrow a descriptor. -/
def Misnumbered (before : List Token) (value : Nat) (after : List Token) : Prop :=
  if before.getLast? = some .retry then
    value < 2 ∧ following after ∈ expressionFollow
  else
    (value < 2 ∧ following after = .retry) ∨
      (10 ≤ value ∧ (following after = .pointer ∨ following after = .ppointer))

/-- The parser comes to a number that its rule refuses, and can read what follows it. -/
def Refuses (tokens : List Token) (ending : Option PyError) : Prop :=
  ∃ before value after, tokens = before ++ .number value :: after ∧
    Begins (before ++ [.number value]) ∧ (after = [] → ending = none) ∧
    Misnumbered before value after

theorem following_map (tokens : List LexToken) :
    following (tokens.map LexToken.token) = terminalOf tokens.head? := by
  cases tokens <;> rfl

section Stacks

variable {stack : List (Frame State Value)} {consumed : List Token}

theorem Stacked.getLast? (stacked : Stacked stack consumed) {kind : Terminal}
    (symbol : symbolOf (yacc.top stack) = .terminal kind) (inner : yacc.top stack ≠ 0) :
    ∃ token, consumed.getLast? = some token ∧ token.terminal = kind := by
  rcases stacked.pop rfl inner with ⟨_, rest, before, _, _, rfl, _, _, holds⟩
  rw [symbol] at holds
  rcases holds with ⟨token, rfl, rfl, same⟩
  exact ⟨token.token, by simp, same⟩

/-- A number on top of the stack stands behind the retry sign of a task, or where an expression
begins. -/
theorem Stacked.number (stacked : Stacked stack consumed)
    (top : yacc.top stack ∈ ([6, 23] : List State)) :
    ∃ value lineno lexpos rest before,
      stack = ⟨yacc.top stack, .token ⟨.number value, lineno, lexpos⟩⟩ :: rest ∧
      consumed = before ++ [.number value] ∧
      (yacc.top stack = 23 ↔ before.getLast? = some .retry) := by
  have numbers : ∀ state ∈ ([6, 23] : List State), state ≠ 0 ∧
      symbolOf state = .terminal .number ∧ ∀ source ∈ sources state,
        (state = 23 ∧ source ≠ 0 ∧ symbolOf source = .terminal .retry) ∨
        (state ≠ 23 ∧ (source = 0 ∨ source ≠ 0 ∧ ∃ kind ∈ ([.pointer, .ppointer, .parallel,
          .lparen, .seperator] : List Terminal), symbolOf source = .terminal kind)) := by
    decide
  rcases stacked.pop rfl (numbers _ top).1 with
    ⟨_, rest, before, _, shape, rfl, below, edge, holds⟩
  rw [(numbers _ top).2.1] at holds
  rcases holds with ⟨⟨token, lineno, lexpos⟩, rfl, rfl, same⟩
  have number : ∃ value, token = .number value := by
    cases token <;> first | exact ⟨_, rfl⟩ | cases same
  rcases number with ⟨value, rfl⟩
  refine ⟨value, lineno, lexpos, rest, before, shape, rfl, ?_⟩
  rcases (numbers _ top).2.2 _ edge with ⟨behind, inner, symbol⟩ | ⟨other, starting⟩
  · rcases below.getLast? symbol inner with ⟨sign, last, retry⟩
    have written : sign = .retry := by cases sign <;> first | rfl | cases retry
    subst written
    exact iff_of_true behind last
  · apply iff_of_false other
    intro last
    rcases starting with bottom | ⟨inner, kind, listed, symbol⟩
    · rw [below.bottom bottom] at last
      cases last
    · rcases below.getLast? symbol inner with ⟨sign, shown, same⟩
      rw [last] at shown
      cases shown
      rw [← same] at listed
      revert listed
      decide

end Stacks

theorem number_actions {state : State} {terminal : Terminal} {rule : Rule}
    (top : state ∈ ([6, 23] : List State)) (acts : lrAction state terminal = some (.reduce rule)) :
    (state = 6 ∧ rule = .descriptorNumber ∧ (terminal = .pointer ∨ terminal = .ppointer)) ∨
    (state = 6 ∧ rule = .factorNumber ∧ terminal = .retry) ∨
    (state = 23 ∧ rule = .factorNumber ∧ terminal ∈ expressionFollow) := by
  have checked : ∀ state ∈ ([6, 23] : List State), ((lrAction state terminal).all fun
      | .reduce rule => decide
          ((state = 6 ∧ rule = .descriptorNumber ∧ (terminal = .pointer ∨ terminal = .ppointer)) ∨
          (state = 6 ∧ rule = .factorNumber ∧ terminal = .retry) ∨
          (state = 23 ∧ rule = .factorNumber ∧ terminal ∈ expressionFollow))
      | _ => true) = true := by
    cases terminal <;> decide
  have found := checked state top
  rw [acts] at found
  exact of_decide_eq_true found

/-- A number in front of anything else is neither reduced nor shifted on. -/
theorem number_stops {state : State} {terminal : Terminal} (top : state ∈ ([6, 23] : List State))
    (acts : lrAction state terminal = none) :
    (state = 23 → terminal ∉ expressionFollow) ∧
      (state ≠ 23 → terminal ≠ .retry ∧ terminal ≠ .pointer ∧ terminal ≠ .ppointer) := by
  have checked : ∀ terminal : Terminal, ∀ state ∈ ([6, 23] : List State),
      lrAction state terminal = none →
      (state = 23 → terminal ∉ expressionFollow) ∧
        (state ≠ 23 → terminal ≠ .retry ∧ terminal ≠ .pointer ∧ terminal ≠ .ppointer) := by
    intro terminal
    cases terminal <;> decide
  exact checked terminal state top acts

theorem number_not_shifted {state target : State} {terminal : Terminal}
    (top : state ∈ ([6, 23] : List State)) : lrAction state terminal ≠ some (.shift target) := by
  have checked : ∀ state ∈ ([6, 23] : List State), ((lrAction state terminal).all fun
      | .shift _ => false
      | _ => true) = true := by
    cases terminal <;> decide
  intro acts
  have found := checked state top
  rw [acts] at found
  cases found

/-! ## Which actions raise a `YaccError` -/

theorem setBinOps_not_yaccError {message : String} : ∀ (binOps : List Ast)
    (group : ConditionalGroup),
    ConditionalGroup.setBinOps binOps group ≠ .error (.yaccError message)
  | [], group => fun raised => by cases raised
  | binOp :: rest, group => by
      rw [ConditionalGroup.setBinOps]
      cases binOp with
      | binOp op left right => exact setBinOps_not_yaccError rest _
      | conditionalBinOP parent exprGroup =>
          rw [Ast.left]
          cases OrderedDict.get 0 exprGroup with
          | none => exact setBinOps_not_yaccError rest _
          | some left => exact setBinOps_not_yaccError rest _
      | taskName value => exact fun raised => by cases raised
      | descriptor value => exact fun raised => by cases raised
      | number value => exact fun raised => by cases raised

theorem ofGroup_not_yaccError {message : String} (expr0 : ConditionalGroup) (expr1 : Ast) :
    ConditionalGroup.ofGroup expr0 expr1 ≠ .error (.yaccError message) := by
  rw [ConditionalGroup.ofGroup]
  cases stored : ConditionalGroup.setBinOps (ConditionalGroup.getBinOps expr0) [] with
  | error error =>
      intro raised
      cases raised
      exact setBinOps_not_yaccError _ _ stored
  | ok group => exact fun raised => by cases raised

theorem yaccError_cases {rule : Rule} {values : List Value} {message : String}
    (raises : reduceBy rule values = .error (.yaccError message)) :
    ∃ value lineno lexpos, values = [.token ⟨.number value, lineno, lexpos⟩] ∧
      ((rule = .descriptorNumber ∧ 10 ≤ value) ∨ (rule = .factorNumber ∧ value < 2)) := by
  cases rule with
  | descriptorNumber =>
      replace raises : pDescriptor values = .error (.yaccError message) := raises
      unfold pDescriptor at raises
      split at raises
      · rename_i value lineno lexpos
        split at raises
        · cases raises
        · rename_i large
          exact ⟨value, lineno, lexpos, rfl, .inl ⟨rfl, Nat.not_lt.mp large⟩⟩
      · cases raises
  | factorNumber =>
      replace raises : pFactor values = .error (.yaccError message) := raises
      unfold pFactor at raises
      split at raises
      · rename_i value lineno lexpos
        split at raises
        · rename_i small
          exact ⟨value, lineno, lexpos, rfl, .inr ⟨rfl, small⟩⟩
        · cases raises
      · cases raises
  | expressionPointer | expressionPpointer | expressionParallel | descriptorPointer
  | descriptorPpointer | factorRetry | taskRetry =>
      replace raises : pExpression values = .error (.yaccError message) := raises
      unfold pExpression at raises
      split at raises
      · split at raises <;> cases raises
      · cases raises
  | expressionTerm | termTask =>
      replace raises : pSame values = .error (.yaccError message) := raises
      unfold pSame at raises
      split at raises <;> cases raises
  | taskTaskname =>
      replace raises : pTaskTaskname values = .error (.yaccError message) := raises
      unfold pTaskTaskname at raises
      split at raises <;> cases raises
  | groupPair | groupMore =>
      replace raises : pTaskGroup values = .error (.yaccError message) := raises
      unfold pTaskGroup at raises
      split at raises
      · cases raises
      · split at raises
        · rename_i stored
          cases raises
          exact False.elim (ofGroup_not_yaccError _ _ stored)
        · cases raises
      · cases raises
  | taskConditional =>
      replace raises : pTaskConditionalStatement values = .error (.yaccError message) := raises
      unfold pTaskConditionalStatement at raises
      split at raises <;> cases raises

/-! ## What is known behind the shifted tokens -/

/-- Every number that has been shifted and is not on top of the stack was taken by its rule. -/
structure Viable (tokens shifted : List LexToken)
    (configuration : Configuration State LexToken Value) : Prop where
  position : tokens = shifted ++ configuration.remaining
  stacked : Stacked configuration.stack (shifted.map LexToken.token)
  begins : Begins (shifted.map LexToken.token)
  numbered : ∀ before value after, shifted.map LexToken.token = before ++ .number value :: after →
    (after = [] ∧ yacc.top configuration.stack ∈ ([6, 23] : List State)) ∨
      ¬Misnumbered before value (after ++ configuration.remaining.map LexToken.token)

theorem viable_start (tokens : List LexToken) : Viable tokens [] ⟨[], tokens⟩ where
  position := rfl
  stacked := .empty
  begins := ⟨someChain, List.nil_prefix⟩
  numbered before value after split := by
    cases before <;> cases split

section Loop

variable {tokens shifted : List LexToken} {configuration : Configuration State LexToken Value}
  {ending : Option PyError}

theorem Viable.shift (viable : Viable tokens shifted configuration) {token : LexToken}
    {rest : List LexToken} {target : State} (next : configuration.remaining = token :: rest)
    (acts : lrAction (yacc.top configuration.stack) token.token.terminal = some (.shift target)) :
    Viable tokens (shifted ++ [token]) ⟨⟨target, .token token⟩ :: configuration.stack, rest⟩ where
  position := by
    rw [viable.position, next]
    simp
  stacked := by
    rw [List.map_append]
    exact .push viable.stacked (mem_sources_of_shift acts) (shift_sound acts)
  begins := by
    rw [List.map_append]
    exact begins_of_shift viable.stacked acts
  numbered before value after split := by
    rw [List.map_append, List.map_singleton] at split
    rcases List.eq_nil_or_concat after with rfl | ⟨inner, last, rfl⟩
    · have number := (List.append_inj' split rfl).2
      have kind := symbol_of_shift acts
      rw [List.cons.inj number |>.1] at kind
      have targets : ∀ target : State, symbolOf target = .terminal .number →
          target ∈ ([6, 23] : List State) := by decide
      exact .inl ⟨rfl, targets target kind⟩
    · have reordered : before ++ Token.number value :: inner.concat last =
          (before ++ .number value :: inner) ++ [last] := by simp
      rw [reordered] at split
      rcases List.append_inj' split rfl with ⟨earlier, same⟩
      rcases viable.numbered before value inner earlier with ⟨_, top⟩ | taken
      · exact absurd acts (number_not_shifted top)
      · rw [next, List.map_cons, (List.cons.inj same).1] at taken
        rw [List.concat_append]
        exact .inr taken

theorem Viable.taken (viable : Viable tokens shifted configuration) {rule : Rule}
    {popped rest : List (Frame State Value)} {value : Value}
    (acts : lrAction (yacc.top configuration.stack) (terminalOf configuration.remaining.head?) =
      some (.reduce rule))
    (shape : configuration.stack = popped ++ rest) (count : popped.length = (lrProduction rule).2)
    (reduces : reduceBy rule (popped.reverse.map Frame.value) = .ok value) :
    ∀ before number after, shifted.map LexToken.token = before ++ .number number :: after →
      ¬Misnumbered before number (after ++ configuration.remaining.map LexToken.token) := by
  intro before number after split misnumbered
  rcases viable.numbered before number after split with ⟨rfl, top⟩ | taken
  · rcases viable.stacked.number top with
      ⟨written, lineno, lexpos, below, ahead, stack, shown, behind⟩
    rw [split] at shown
    rcases List.append_inj' shown rfl with ⟨rfl, same⟩
    cases same
    rw [Misnumbered, List.nil_append, following_map] at misnumbered
    have single : (lrProduction rule).2 = 1 → popped.reverse.map Frame.value =
        [.token ⟨.number number, lineno, lexpos⟩] := by
      intro one
      rw [one] at count
      rcases List.length_eq_one_iff.mp count with ⟨frame, rfl⟩
      rw [stack, List.singleton_append] at shape
      rw [← (List.cons.inj shape).1]
      rfl
    have notBehind : yacc.top configuration.stack = 6 → before.getLast? ≠ some .retry := by
      intro state last
      rw [state] at behind
      exact absurd (behind.mpr last) (by decide)
    rcases number_actions top acts with
      ⟨state, rfl, kind⟩ | ⟨state, rfl, kind⟩ | ⟨state, rfl, kind⟩
    · rw [single rfl] at reduces
      rw [if_neg (notBehind state)] at misnumbered
      by_cases small : number < 10
      · rcases misnumbered with ⟨_, retry⟩ | ⟨large, _⟩
        · rw [retry] at kind
          rcases kind with kind | kind <;> cases kind
        · omega
      · simp [reduceBy, pDescriptor, small] at reduces
    · rw [single rfl] at reduces
      rw [if_neg (notBehind state), kind] at misnumbered
      by_cases small : number < 2
      · simp [reduceBy, pFactor, small] at reduces
      · rcases misnumbered with ⟨tiny, _⟩ | ⟨_, kind | kind⟩
        · exact small tiny
        · cases kind
        · cases kind
    · rw [single rfl] at reduces
      rw [if_pos (behind.mp state)] at misnumbered
      simp [reduceBy, pFactor, misnumbered.1] at reduces
  · exact taken misnumbered

theorem Viable.step (viable : Viable tokens shifted configuration)
    {after : Configuration State LexToken Value}
    (stepped : yacc.step ending configuration = .next after) :
    ∃ shifted, Viable tokens shifted after := by
  have sound := @step_sound tokens ending configuration ⟨shifted, viable.position, viable.stacked⟩
  rw [stepped] at sound
  rcases Parser.step_next_cases stepped with
    ⟨token, rest, target, next, acts, rfl⟩ |
    ⟨rule, popped, rest, value, target, acts, shape, count, reduces, _, rfl⟩
  · exact ⟨_, viable.shift next acts⟩
  · rcases sound with ⟨others, position, stacked⟩
    have same : shifted = others := by
      rw [viable.position] at position
      exact List.append_cancel_right position
    subst same
    exact ⟨shifted, position, stacked, viable.begins, fun before number after split =>
      .inr (viable.taken acts shape count reduces before number after split)⟩

theorem append_eq_cons_cases {left right before after : List Token} {token : Token}
    (same : left ++ right = before ++ token :: after) :
    (∃ inner, left = before ++ token :: inner ∧ after = inner ++ right) ∨
      ∃ more, before = left ++ more ∧ right = more ++ token :: after := by
  rcases List.append_eq_append_iff.mp same with ⟨more, longer, rest⟩ | ⟨inner, longer, rest⟩
  · exact .inr ⟨more, longer, rest⟩
  · cases inner with
    | nil => exact .inr ⟨[], by simpa using longer.symm, rest.symm⟩
    | cons first inner =>
        rcases List.cons.inj rest with ⟨rfl, rfl⟩
        exact .inl ⟨inner, longer, rfl⟩

theorem Viable.not_refuses (viable : Viable tokens shifted configuration)
    (stops : yacc.top configuration.stack ∈ ([6, 23] : List State) →
      (configuration.remaining = [] ∧ ending ≠ none) ∨
        lrAction (yacc.top configuration.stack) (terminalOf configuration.remaining.head?) = none)
    (ahead : ∀ offending rest, configuration.remaining = offending :: rest →
      ¬Begins ((shifted ++ [offending]).map LexToken.token)) :
    ¬Refuses (tokens.map LexToken.token) ending := by
  rintro ⟨before, value, after, split, begins, available, misnumbered⟩
  rw [viable.position, List.map_append] at split
  rcases append_eq_cons_cases split with ⟨inner, consumed, rfl⟩ | ⟨more, rfl, remaining⟩
  · rcases viable.numbered before value inner consumed with ⟨rfl, top⟩ | taken
    · rcases stops top with ⟨exhausted, raising⟩ | acts
      · exact raising (available (by simp [exhausted]))
      · rcases viable.stacked.number top with ⟨_, _, _, _, _, _, shown, behind⟩
        rw [consumed] at shown
        rcases List.append_inj' shown rfl with ⟨rfl, _⟩
        have stopping := number_stops top acts
        rw [Misnumbered, List.nil_append, following_map] at misnumbered
        split at misnumbered
        · rename_i last
          exact stopping.1 (behind.mpr last) misnumbered.2
        · rename_i other
          have kinds := stopping.2 fun state => other (behind.mp state)
          rcases misnumbered with ⟨_, kind⟩ | ⟨_, kind | kind⟩
          · exact kinds.1 kind
          · exact kinds.2.1 kind
          · exact kinds.2.2 kind
    · exact taken misnumbered
  · cases next : configuration.remaining with
    | nil =>
        rw [next] at remaining
        cases more <;> cases remaining
    | cons offending rest =>
        rw [next, List.map_cons] at remaining
        apply ahead offending rest next
        rw [List.map_append, List.map_singleton]
        cases more with
        | nil =>
            rw [(List.cons.inj remaining).1]
            simpa using begins
        | cons first more =>
            rw [(List.cons.inj remaining).1]
            apply @Begins.of_append _ (more ++ [.number value])
            simpa using begins

end Loop

/-! ## Outcomes -/

def Verdict (tokens : List LexToken) (ending : Option PyError) :
    Outcome LexToken Value PyError → Prop
  | .accepted _ => ¬Refuses (tokens.map LexToken.token) ending ∧ ending = none ∧
      ∃ chain : Chain, tokens.map LexToken.token = chain.tokens
  | .rejected remaining => ¬Refuses (tokens.map LexToken.token) ending ∧
      (remaining = [] → ending = none) ∧ ∃ shifted, tokens = shifted ++ remaining ∧
        Begins (shifted.map LexToken.token) ∧ ∀ offending rest, remaining = offending :: rest →
          ¬Begins ((shifted ++ [offending]).map LexToken.token)
  | .raised error _ => (Refuses (tokens.map LexToken.token) ending ∧
      ∃ message, error = .yaccError message) ∨
      (¬Refuses (tokens.map LexToken.token) ending ∧ Begins (tokens.map LexToken.token) ∧
        ending = some error)
  | .stuck | .outOfFuel => False

/-- No script goes on with the token at which the parser stops: a script that does would be
stopped at as well. -/
theorem not_begins_of_rejected {tokens shifted rest : List LexToken} {offending : LexToken}
    {ending : Option PyError} (position : tokens = shifted ++ offending :: rest)
    (rejected : parseTokens tokens ending = .rejected (offending :: rest)) :
    ¬Begins ((shifted ++ [offending]).map LexToken.token) := by
  rintro ⟨chain, begins⟩
  let written : List LexToken := chain.tokens.map fun token => ⟨token, 0, 0⟩
  have yields : written.map LexToken.token = chain.tokens := by
    simp [written, Function.comp_def]
  have length : (shifted ++ [offending]).length = shifted.length + 1 := by simp
  have alike : yacc.Alike (shifted.length + 1) ⟨[], tokens⟩ ⟨[], written⟩ := by
    refine ⟨rfl, ?_⟩
    have kinds : ∀ listed : List LexToken,
        listed.map (fun token => yacc.kind (some token)) =
          (listed.map LexToken.token).map Token.terminal := by
      intro listed
      rw [List.map_map]
      rfl
    have start : tokens.take (shifted.length + 1) = shifted ++ [offending] := by
      rw [position, List.take_length_add_append]
      rfl
    have taken := List.prefix_iff_eq_take.mp begins
    simp only [List.length_map, length] at taken
    rw [kinds, kinds, start, taken, List.map_take, List.map_take, yields]
  exact Parser.not_accepted_of_alike position alike rejected _ (parseTokens_of_chain chain yields)

theorem viable_of_reaches {tokens : List LexToken} {ending : Option PyError}
    {reached : Configuration State LexToken Value}
    (reaches : yacc.Reaches ending ⟨[], tokens⟩ reached) :
    ∃ shifted, Viable tokens shifted reached := by
  suffices general : ∀ {count first last}, yacc.Steps ending count first last →
      (∃ shifted, Viable tokens shifted first) → ∃ shifted, Viable tokens shifted last by
    rcases reaches with ⟨count, steps⟩
    exact general steps ⟨[], viable_start tokens⟩
  intro count first last steps
  induction steps with
  | refl configuration => exact id
  | cons stepped _ induction =>
      rintro ⟨shifted, viable⟩
      exact induction (viable.step stepped)

theorem parseTokens_last (tokens : List LexToken) (ending : Option PyError) :
    ∃ shifted last, Viable tokens shifted last ∧ yacc.Reaches ending ⟨[], tokens⟩ last ∧
      yacc.step ending last = .halted (parseTokens tokens ending) := by
  have preserved : ∀ first second, yacc.Reaches ending ⟨[], tokens⟩ first →
      yacc.step ending first = .next second → yacc.Reaches ending ⟨[], tokens⟩ second :=
    fun _ _ reaches stepped => reaches.trans (.single stepped)
  rcases Parser.run_invariant _ preserved ⟨0, .refl _⟩ rfl (parseTokens_halts tokens ending) with
    ⟨last, reaches, stepped⟩
  rcases viable_of_reaches reaches with ⟨shifted, viable⟩
  exact ⟨shifted, last, viable, reaches, stepped⟩

theorem available_of_halted {configuration : Configuration State LexToken Value}
    {ending : Option PyError} {outcome : Outcome LexToken Value PyError}
    (stepped : yacc.step ending configuration = .halted outcome)
    (other : ∀ error, ending = some error → outcome ≠ .raised error [])
    (exhausted : configuration.remaining = []) : ending = none := by
  rcases configuration with ⟨stack, remaining⟩
  cases exhausted
  cases ended : ending with
  | none => rfl
  | some error =>
      rw [ended, Parser.step_raises] at stepped
      cases stepped
      exact absurd rfl (other error ended)

theorem Viable.misnumbered {tokens shifted : List LexToken}
    {configuration : Configuration State LexToken Value}
    (viable : Viable tokens shifted configuration) {rule : Rule}
    {popped rest : List (Frame State Value)} {message : String}
    (acts : lrAction (yacc.top configuration.stack) (terminalOf configuration.remaining.head?) =
      some (.reduce rule))
    (shape : configuration.stack = popped ++ rest)
    (raises : reduceBy rule (popped.reverse.map Frame.value) = .error (.yaccError message)) :
    ∃ before value, shifted.map LexToken.token = before ++ [.number value] ∧
      Misnumbered before value (configuration.remaining.map LexToken.token) := by
  rcases yaccError_cases raises with ⟨value, lineno, lexpos, values, range⟩
  have top : yacc.top configuration.stack ∈ ([6, 23] : List State) := by
    have complete := mem_states_of_reduce acts
    rcases range with ⟨rfl, _⟩ | ⟨rfl, _⟩
    · rw [List.mem_singleton.mp complete]
      decide
    · exact complete
  rcases viable.stacked.number top with ⟨written, _, _, below, before, stack, consumed, behind⟩
  have single : popped.length = 1 := by
    have lengths := congrArg List.length values
    simpa using lengths
  rcases List.length_eq_one_iff.mp single with ⟨frame, rfl⟩
  have same : written = value := by
    rw [stack, List.singleton_append] at shape
    rw [← (List.cons.inj shape).1] at values
    cases values
    rfl
  subst same
  refine ⟨before, written, consumed, ?_⟩
  rw [Misnumbered, following_map]
  have notBehind : yacc.top configuration.stack = 6 → before.getLast? ≠ some .retry := by
    intro state last
    rw [state] at behind
    exact absurd (behind.mpr last) (by decide)
  rcases number_actions top acts with
    ⟨state, rfl, kind⟩ | ⟨state, rfl, kind⟩ | ⟨state, rfl, kind⟩
  · rw [if_neg (notBehind state)]
    exact .inr ⟨range.elim And.right (fun other => by cases other.1), kind⟩
  · rw [if_neg (notBehind state)]
    exact .inl ⟨range.elim (fun other => by cases other.1) And.right, kind⟩
  · rw [if_pos (behind.mp state)]
    exact ⟨range.elim (fun other => by cases other.1) And.right, kind⟩

theorem parseTokens_verdict (tokens : List LexToken) (ending : Option PyError) :
    Verdict tokens ending (parseTokens tokens ending) := by
  rcases parseTokens_last tokens ending with ⟨shifted, last, viable, _, stepped⟩
  have ends := parseTokens_ends tokens ending
  rcases outcome : parseTokens tokens ending with value | remaining | ⟨error, remaining⟩ | _ | _
  · rw [outcome] at ends stepped
    have accepts := Parser.step_accepted_cases stepped
    have acts := accept_sound accepts
    refine ⟨viable.not_refuses ?_ ?_, ends.1, ends.2.imp fun chain => And.right⟩
    · rw [acts.1]
      exact fun impossible => absurd impossible (by decide)
    · intro offending rest next
      have kind := acts.2
      rw [next] at kind
      rcases offending with ⟨token, lineno, lexpos⟩
      cases token <;> cases kind
  · rw [outcome] at stepped
    have stopped := Parser.step_rejected_cases stepped
    have ahead : ∀ offending rest, remaining = offending :: rest →
        ¬Begins ((shifted ++ [offending]).map LexToken.token) := by
      rintro offending rest rfl
      refine not_begins_of_rejected ?_ outcome
      rw [stopped.1]
      exact viable.position
    refine ⟨viable.not_refuses (fun _ => .inr stopped.2) ?_, ?_, shifted, ?_, viable.begins, ahead⟩
    · rw [← stopped.1]
      exact ahead
    · intro exhausted
      exact available_of_halted stepped (fun _ _ same => by cases same)
        (stopped.1.symm.trans exhausted)
    · rw [stopped.1]
      exact viable.position
  · rw [outcome] at stepped
    rcases Parser.step_raised_cases stepped with
      ⟨exhausted, raising⟩ | ⟨available, rule, popped, rest, acts, shape, count, raises⟩
    · refine .inr
        ⟨viable.not_refuses (fun _ => .inl ⟨exhausted, by simp [raising]⟩) ?_, ?_, raising⟩
      · simp [exhausted]
      · have all : tokens = shifted := by simpa [exhausted] using viable.position
        rw [all]
        exact viable.begins
    · have refused : yacc.reduce rule ⟨last.stack, last.remaining⟩ =
          .halted (.raised error last.remaining) := by
        rw [shape]
        exact Parser.reduce_raised count raises
      rcases reduce_sound viable.stacked (mem_states_of_reduce acts) last.remaining with
        ⟨frame, below, reduces, _⟩ | ⟨message, yaccError⟩
      · rw [refused] at reduces
        cases reduces
      · rw [refused] at yaccError
        cases yaccError
        rcases viable.misnumbered acts shape raises with ⟨before, value, consumed, misnumbered⟩
        have begins := viable.begins
        rw [consumed] at begins
        refine .inl ⟨⟨before, value, _, ?_, begins, ?_, misnumbered⟩, message, rfl⟩
        · rw [viable.position, List.map_append, consumed]
          simp
        · exact fun exhausted => available (List.map_eq_nil_iff.mp exhausted)
  · rw [outcome] at ends
    exact ends.elim
  · rw [outcome] at ends
    exact ends.elim

end EventPipeline.Parser
