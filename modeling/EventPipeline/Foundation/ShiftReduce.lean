import Mathlib.Algebra.GroupWithZero.Nat
import Mathlib.Data.List.Basic

/-! # Table-driven shift-reduce parsing

An LR driver over arbitrary tables and semantic actions. The token list may end
in an exception of the lexer instead of the end of the input. The library gives
the composition of partial runs, the invariant rule for whole runs and a bound
on the number of steps from a weighting of states and tokens.
-/

namespace EventPipeline.ShiftReduce

inductive Action (State Rule : Type)
  | shift (target : State)
  | reduce (rule : Rule)
  | accept
deriving DecidableEq

/-- The tables of a parser and its semantic actions. `kind none` is the
terminal that stands for the end of the input. -/
structure Parser (State Terminal Nonterminal Rule Token Value Error : Type) where
  start : State
  action : State → Terminal → Option (Action State Rule)
  goto : State → Nonterminal → Option State
  input : Rule → Nonterminal
  length : Rule → Nat
  kind : Option Token → Terminal
  shifted : Token → Value
  reduced : Rule → List Value → Except Error Value

structure Frame (State Value : Type) where
  state : State
  value : Value

/-- The stack, top first and without the start state below it, and the tokens
not yet shifted. -/
structure Configuration (State Token Value : Type) where
  stack : List (Frame State Value)
  remaining : List Token

/-- How a parse ends. The remaining tokens start with the lookahead. -/
inductive Outcome (Token Value Error : Type)
  | accepted (value : Value)
  | rejected (remaining : List Token)
  | raised (error : Error) (remaining : List Token)
  | stuck
  | outOfFuel

inductive StepResult (State Token Value Error : Type)
  | next (configuration : Configuration State Token Value)
  | halted (outcome : Outcome Token Value Error)

namespace Parser

variable {State Terminal Nonterminal Rule Token Value Error : Type}
  (parser : Parser State Terminal Nonterminal Rule Token Value Error)
  (ending : Option Error)

def top : List (Frame State Value) → State
  | [] => parser.start
  | frame :: _ => frame.state

def reduce (rule : Rule) (configuration : Configuration State Token Value) :
    StepResult State Token Value Error :=
  let popped := configuration.stack.take (parser.length rule)
  let rest := configuration.stack.drop (parser.length rule)
  if popped.length = parser.length rule then
    match parser.reduced rule (popped.reverse.map Frame.value) with
    | .error error => .halted (.raised error configuration.remaining)
    | .ok value =>
        match parser.goto (parser.top rest) (parser.input rule) with
        | none => .halted .stuck
        | some target => .next ⟨⟨target, value⟩ :: rest, configuration.remaining⟩
  else
    .halted .stuck

/-- One turn of the driver loop. Asking for a lookahead past the last token
raises the exception the token list ends in, if it ends in one. -/
def step (configuration : Configuration State Token Value) :
    StepResult State Token Value Error :=
  match configuration.remaining, ending with
  | [], some error => .halted (.raised error [])
  | remaining, _ =>
      match parser.action (parser.top configuration.stack) (parser.kind remaining.head?) with
      | none => .halted (.rejected remaining)
      | some (.shift target) =>
          match remaining with
          | [] => .halted .stuck
          | token :: rest =>
              .next ⟨⟨target, parser.shifted token⟩ :: configuration.stack, rest⟩
      | some (.reduce rule) => parser.reduce rule configuration
      | some .accept =>
          match configuration.stack with
          | [] => .halted .stuck
          | frame :: _ => .halted (.accepted frame.value)

def run : Nat → Configuration State Token Value → Outcome Token Value Error
  | 0, _ => .outOfFuel
  | fuel + 1, configuration =>
      match parser.step ending configuration with
      | .next following => run fuel following
      | .halted outcome => outcome

/-- The loop with a check in front of each turn. -/
def runGuarded (guard : Configuration State Token Value → Option Error) :
    Nat → Configuration State Token Value → Outcome Token Value Error
  | 0, _ => .outOfFuel
  | fuel + 1, configuration =>
      match guard configuration with
      | some error => .raised error configuration.remaining
      | none =>
          match parser.step ending configuration with
          | .next following => runGuarded guard fuel following
          | .halted outcome => outcome

/-! ## What one step can do -/

variable {parser ending}

theorem step_next_cases {first second : Configuration State Token Value}
    (stepped : parser.step ending first = .next second) :
    (∃ token rest target, first.remaining = token :: rest ∧
      parser.action (parser.top first.stack) (parser.kind (some token)) =
        some (.shift target) ∧
      second = ⟨⟨target, parser.shifted token⟩ :: first.stack, rest⟩) ∨
    (∃ rule popped rest value target,
      parser.action (parser.top first.stack) (parser.kind first.remaining.head?) =
        some (.reduce rule) ∧
      first.stack = popped ++ rest ∧ popped.length = parser.length rule ∧
      parser.reduced rule (popped.reverse.map Frame.value) = .ok value ∧
      parser.goto (parser.top rest) (parser.input rule) = some target ∧
      second = ⟨⟨target, value⟩ :: rest, first.remaining⟩) := by
  rcases first with ⟨stack, remaining⟩
  unfold step at stepped
  split at stepped
  · cases stepped
  · dsimp only at stepped
    split at stepped
    · cases stepped
    · rename_i target acts
      split at stepped
      · cases stepped
      · rename_i token rest _
        cases stepped
        exact .inl ⟨token, rest, target, rfl, acts, rfl⟩
    · rename_i rule acts
      unfold reduce at stepped
      dsimp only at stepped
      split at stepped
      · rename_i popped
        split at stepped
        · cases stepped
        · rename_i value reduces
          split at stepped
          · cases stepped
          · rename_i target goes
            cases stepped
            exact .inr ⟨rule, stack.take (parser.length rule),
              stack.drop (parser.length rule), value, target, acts,
              (List.take_append_drop _ _).symm, popped, reduces, goes, rfl⟩
      · cases stepped
    · split at stepped <;> cases stepped

theorem step_rejected_cases {configuration : Configuration State Token Value}
    {remaining : List Token}
    (stepped : parser.step ending configuration = .halted (.rejected remaining)) :
    remaining = configuration.remaining ∧
      parser.action (parser.top configuration.stack) (parser.kind configuration.remaining.head?) =
        none := by
  rcases configuration with ⟨stack, input⟩
  unfold step at stepped
  split at stepped
  · cases stepped
  · dsimp only at stepped
    split at stepped
    · rename_i acts
      cases stepped
      exact ⟨rfl, acts⟩
    · split at stepped <;> cases stepped
    · unfold reduce at stepped
      dsimp only at stepped
      split at stepped
      · split at stepped
        · cases stepped
        · split at stepped <;> cases stepped
      · cases stepped
    · split at stepped <;> cases stepped

theorem step_raised_cases {configuration : Configuration State Token Value} {error : Error}
    {remaining : List Token}
    (stepped : parser.step ending configuration = .halted (.raised error remaining)) :
    (configuration.remaining = [] ∧ ending = some error) ∨
    (configuration.remaining = [] → ending = none) ∧ ∃ rule popped rest,
      parser.action (parser.top configuration.stack) (parser.kind configuration.remaining.head?) =
        some (.reduce rule) ∧
      configuration.stack = popped ++ rest ∧ popped.length = parser.length rule ∧
      parser.reduced rule (popped.reverse.map Frame.value) = .error error := by
  rcases configuration with ⟨stack, input⟩
  unfold step at stepped
  split at stepped
  · rename_i empty
    cases stepped
    exact .inl ⟨empty, rfl⟩
  · rename_i readable
    have available : input = [] → _ = none := fun empty =>
      Option.eq_none_iff_forall_ne_some.mpr fun raised => readable raised empty
    dsimp only at stepped
    split at stepped
    · cases stepped
    · split at stepped <;> cases stepped
    · rename_i rule acts
      unfold reduce at stepped
      dsimp only at stepped
      split at stepped
      · rename_i popped
        split at stepped
        · rename_i raises
          cases stepped
          exact .inr ⟨available, rule, stack.take (parser.length rule),
            stack.drop (parser.length rule), acts,
            (List.take_append_drop _ _).symm, popped, raises⟩
        · split at stepped <;> cases stepped
      · cases stepped
    · split at stepped <;> cases stepped

theorem step_accepted_cases {configuration : Configuration State Token Value} {value : Value}
    (stepped : parser.step ending configuration = .halted (.accepted value)) :
    parser.action (parser.top configuration.stack) (parser.kind configuration.remaining.head?) =
      some .accept := by
  rcases configuration with ⟨stack, input⟩
  unfold step at stepped
  split at stepped
  · cases stepped
  · dsimp only at stepped
    split at stepped
    · cases stepped
    · split at stepped <;> cases stepped
    · unfold reduce at stepped
      dsimp only at stepped
      split at stepped
      · split at stepped
        · cases stepped
        · split at stepped <;> cases stepped
      · cases stepped
    · assumption

theorem step_ne_outOfFuel {configuration : Configuration State Token Value} :
    parser.step ending configuration ≠ .halted .outOfFuel := by
  intro stepped
  unfold step at stepped
  split at stepped
  · cases stepped
  · split at stepped
    · cases stepped
    · split at stepped <;> cases stepped
    · unfold reduce at stepped
      dsimp only at stepped
      split at stepped
      · split at stepped
        · cases stepped
        · split at stepped <;> cases stepped
      · cases stepped
    · split at stepped <;> cases stepped

theorem step_shift {stack : List (Frame State Value)} {token : Token}
    {remaining : List Token} {target : State}
    (acts : parser.action (parser.top stack) (parser.kind (some token)) =
      some (.shift target)) :
    parser.step ending ⟨stack, token :: remaining⟩ =
      .next ⟨⟨target, parser.shifted token⟩ :: stack, remaining⟩ := by
  simp only [step, List.head?_cons, acts]

theorem reduce_next {popped rest : List (Frame State Value)} {remaining : List Token}
    {rule : Rule} {value : Value} {target : State}
    (count : popped.length = parser.length rule)
    (reduces : parser.reduced rule (popped.reverse.map Frame.value) = .ok value)
    (goes : parser.goto (parser.top rest) (parser.input rule) = some target) :
    parser.reduce rule ⟨popped ++ rest, remaining⟩ =
      .next ⟨⟨target, value⟩ :: rest, remaining⟩ := by
  have taken : (popped ++ rest).take (parser.length rule) = popped := by simp [← count]
  have dropped : (popped ++ rest).drop (parser.length rule) = rest := by simp [← count]
  simp only [reduce, taken, dropped, count, if_true, reduces, goes]

theorem reduce_raised {popped rest : List (Frame State Value)} {remaining : List Token}
    {rule : Rule} {error : Error}
    (count : popped.length = parser.length rule)
    (raises : parser.reduced rule (popped.reverse.map Frame.value) = .error error) :
    parser.reduce rule ⟨popped ++ rest, remaining⟩ =
      .halted (.raised error remaining) := by
  have taken : (popped ++ rest).take (parser.length rule) = popped := by simp [← count]
  simp only [reduce, taken, count, if_true, raises]

/-- A complete right side on top of the stack is reduced where the table says
so. -/
theorem step_reduce {stack : List (Frame State Value)} {remaining : List Token}
    {rule : Rule} (available : remaining = [] → ending = none)
    (acts : parser.action (parser.top stack) (parser.kind remaining.head?) =
      some (.reduce rule)) :
    parser.step ending ⟨stack, remaining⟩ = parser.reduce rule ⟨stack, remaining⟩ := by
  cases remaining with
  | cons token remaining => simp only [step, acts]
  | nil =>
      rw [available rfl]
      simp only [step, acts]

theorem step_raises {stack : List (Frame State Value)} {error : Error} :
    parser.step (some error) ⟨stack, ([] : List Token)⟩ = .halted (.raised error []) :=
  rfl

theorem step_rejects {stack : List (Frame State Value)} {remaining : List Token}
    (available : remaining = [] → ending = none)
    (acts : parser.action (parser.top stack) (parser.kind remaining.head?) = none) :
    parser.step ending ⟨stack, remaining⟩ = .halted (.rejected remaining) := by
  cases remaining with
  | cons token remaining => simp only [step, acts]
  | nil =>
      rw [available rfl]
      simp only [step, acts]

theorem step_accepts {frame : Frame State Value} {rest : List (Frame State Value)}
    {remaining : List Token} (available : remaining = [] → ending = none)
    (acts : parser.action (parser.top (frame :: rest)) (parser.kind remaining.head?) =
      some .accept) :
    parser.step ending ⟨frame :: rest, remaining⟩ = .halted (.accepted frame.value) := by
  cases remaining with
  | cons token remaining => simp only [step, acts]
  | nil =>
      rw [available rfl]
      simp only [step, acts]

/-! ## Composing runs -/

/-- `count` turns of the loop lead from one configuration to another. -/
inductive Steps (parser : Parser State Terminal Nonterminal Rule Token Value Error)
    (ending : Option Error) : Nat → Configuration State Token Value →
    Configuration State Token Value → Prop
  | refl (configuration) : Steps parser ending 0 configuration configuration
  | cons {count first second last} :
      parser.step ending first = .next second →
      Steps parser ending count second last →
      Steps parser ending (count + 1) first last

theorem Steps.trans {left right : Nat}
    {first second third : Configuration State Token Value}
    (firstSteps : parser.Steps ending left first second)
    (secondSteps : parser.Steps ending right second third) :
    parser.Steps ending (left + right) first third := by
  induction firstSteps with
  | refl => simpa using secondSteps
  | @cons count first second last step _ induction =>
      have whole : parser.Steps ending (count + right + 1) first third :=
        .cons step (induction secondSteps)
      have reordered : count + 1 + right = count + right + 1 := by omega
      exact reordered ▸ whole

theorem Steps.single {first second : Configuration State Token Value}
    (step : parser.step ending first = .next second) :
    parser.Steps ending 1 first second :=
  .cons step (.refl second)

theorem run_of_steps {count : Nat} {first last : Configuration State Token Value}
    (steps : parser.Steps ending count first last) (fuel : Nat) :
    parser.run ending (count + fuel) first = parser.run ending fuel last := by
  induction steps with
  | refl => simp
  | @cons count first second last step _ induction =>
      have reordered : count + 1 + fuel = count + fuel + 1 := by omega
      rw [reordered, run, step]
      exact induction

theorem run_add_fuel {fuel : Nat} {configuration : Configuration State Token Value}
    (halts : ∀ outcome, parser.run ending fuel configuration = outcome →
      outcome ≠ .outOfFuel) (extra : Nat) :
    parser.run ending (fuel + extra) configuration =
      parser.run ending fuel configuration := by
  induction fuel generalizing configuration with
  | zero => exact False.elim (halts _ rfl rfl)
  | succ fuel induction =>
      have reordered : fuel + 1 + extra = fuel + extra + 1 := by omega
      rw [reordered, run, run]
      cases stepped : parser.step ending configuration with
      | halted outcome => rfl
      | next following =>
          apply induction
          intro outcome reached
          exact halts outcome (by rw [run, stepped]; exact reached)

/-- Some turns of the loop lead from one configuration to another. -/
def Reaches (parser : Parser State Terminal Nonterminal Rule Token Value Error)
    (ending : Option Error) (first last : Configuration State Token Value) : Prop :=
  ∃ count, parser.Steps ending count first last

theorem Reaches.trans {first second third : Configuration State Token Value}
    (firstSteps : parser.Reaches ending first second)
    (secondSteps : parser.Reaches ending second third) :
    parser.Reaches ending first third := by
  rcases firstSteps with ⟨left, firstSteps⟩
  rcases secondSteps with ⟨right, secondSteps⟩
  exact ⟨left + right, firstSteps.trans secondSteps⟩

theorem Reaches.single {first second : Configuration State Token Value}
    (step : parser.step ending first = .next second) :
    parser.Reaches ending first second :=
  ⟨1, Steps.single step⟩

theorem run_of_reaches {first last : Configuration State Token Value}
    {outcome : Outcome Token Value Error} {fuel : Nat}
    (reaches : parser.Reaches ending first last)
    (halted : parser.step ending last = .halted outcome)
    (halts : parser.run ending fuel first ≠ .outOfFuel) :
    parser.run ending fuel first = outcome := by
  rcases reaches with ⟨count, steps⟩
  calc parser.run ending fuel first
      = parser.run ending (fuel + (count + 1)) first :=
        (run_add_fuel (fun _ reached => reached ▸ halts) (count + 1)).symm
    _ = parser.run ending (count + (fuel + 1)) first := by congr 1; omega
    _ = parser.run ending (fuel + 1) last := run_of_steps steps (fuel + 1)
    _ = outcome := by rw [run, halted]

theorem Steps.reaches_cons {first second last : Configuration State Token Value}
    (step : parser.step ending first = .next second) (reaches : parser.Reaches ending second last) :
    parser.Reaches ending first last :=
  (Reaches.single step).trans reaches

theorem Steps.shifts {count : Nat} {first last : Configuration State Token Value}
    {ahead rest : List Token} {token : Token} (steps : parser.Steps ending count first last)
    (position : first.remaining = ahead ++ token :: rest)
    (past : last.remaining.length ≤ rest.length) :
    ∃ stack target, parser.action (parser.top stack) (parser.kind (some token)) =
        some (.shift target) ∧
      parser.Reaches ending first ⟨⟨target, parser.shifted token⟩ :: stack, rest⟩ := by
  induction steps generalizing ahead with
  | refl configuration =>
      rw [position] at past
      simp at past
      omega
  | @cons count first second last stepped _ induction =>
      rcases step_next_cases stepped with
        ⟨next, tail, target, remaining, acts, rfl⟩ |
        ⟨rule, popped, below, value, target, _, _, _, _, _, rfl⟩
      · rw [position] at remaining
        cases ahead with
        | nil =>
            rcases List.cons.inj remaining with ⟨rfl, rfl⟩
            exact ⟨first.stack, target, acts, .single stepped⟩
        | cons head ahead =>
            rcases List.cons.inj remaining with ⟨rfl, rfl⟩
            rcases induction rfl past with ⟨stack, target, acts, reaches⟩
            exact ⟨stack, target, acts, Steps.reaches_cons stepped reaches⟩
      · rcases induction position past with ⟨stack, target, acts, reaches⟩
        exact ⟨stack, target, acts, Steps.reaches_cons stepped reaches⟩

/-- The end of the token list plays no part before it is reached. -/
theorem Steps.of_ending {other : Option Error} {count : Nat}
    {first last : Configuration State Token Value} (steps : parser.Steps ending count first last)
    (nonempty : last.remaining ≠ []) :
    first.remaining ≠ [] ∧ parser.Steps other count first last := by
  induction steps with
  | refl configuration => exact ⟨nonempty, .refl configuration⟩
  | @cons count first second last stepped _ induction =>
      have later := induction nonempty
      have readable : first.remaining ≠ [] := by
        intro empty
        rcases step_next_cases stepped with
          ⟨next, tail, target, remaining, _, rfl⟩ |
          ⟨rule, popped, below, value, target, _, _, _, _, _, rfl⟩
        · rw [empty] at remaining
          cases remaining
        · exact later.1 empty
      refine ⟨readable, .cons (Eq.trans ?_ stepped) later.2⟩
      rcases first with ⟨stack, remaining⟩
      cases remaining with
      | nil => exact absurd rfl readable
      | cons token rest => rfl

/-! ## Whole runs -/

section Guards

variable {guard : Configuration State Token Value → Option Error}

theorem runGuarded_of_clear {fuel : Nat} {configuration : Configuration State Token Value}
    (clear : ∀ reached, parser.Reaches ending configuration reached → guard reached = none) :
    parser.runGuarded ending guard fuel configuration = parser.run ending fuel configuration := by
  induction fuel generalizing configuration with
  | zero => rfl
  | succ fuel induction =>
      rw [runGuarded, run, clear configuration ⟨0, .refl configuration⟩]
      cases stepped : parser.step ending configuration with
      | halted outcome => rfl
      | next following =>
          exact induction fun reached reaches => clear reached (Steps.reaches_cons stepped reaches)

theorem runGuarded_of_barred {fuel : Nat} {first last : Configuration State Token Value}
    {error : Error} (reaches : parser.Reaches ending first last) (barred : guard last = some error)
    (halts : parser.run ending fuel first ≠ .outOfFuel) :
    ∃ reached raised, guard reached = some raised ∧
      parser.runGuarded ending guard fuel first = .raised raised reached.remaining := by
  rcases reaches with ⟨count, steps⟩
  induction steps generalizing fuel with
  | refl configuration =>
      cases fuel with
      | zero => exact absurd rfl halts
      | succ fuel => exact ⟨configuration, error, barred, by rw [runGuarded, barred]⟩
  | @cons count first second last stepped _ induction =>
      cases fuel with
      | zero => exact absurd rfl halts
      | succ fuel =>
          cases checked : guard first with
          | some raised => exact ⟨first, raised, checked, by rw [runGuarded, checked]⟩
          | none =>
              rw [run, stepped] at halts
              rw [runGuarded, checked, stepped]
              exact induction barred halts

end Guards


/-- A halted run ends in a step from a configuration in which every invariant
of the loop holds. -/
theorem run_invariant (Invariant : Configuration State Token Value → Prop)
    (preserved : ∀ first second, Invariant first →
      parser.step ending first = .next second → Invariant second)
    {fuel : Nat} {configuration : Configuration State Token Value}
    {outcome : Outcome Token Value Error}
    (holds : Invariant configuration)
    (reached : parser.run ending fuel configuration = outcome)
    (halts : outcome ≠ .outOfFuel) :
    ∃ last, Invariant last ∧ parser.step ending last = .halted outcome := by
  induction fuel generalizing configuration with
  | zero => exact False.elim (halts reached.symm)
  | succ fuel induction =>
      rw [run] at reached
      cases stepped : parser.step ending configuration with
      | halted final =>
          rw [stepped] at reached
          exact ⟨configuration, holds, stepped.trans (congrArg _ reached)⟩
      | next following =>
          rw [stepped] at reached
          exact induction (preserved _ _ holds stepped) reached

theorem suffix_of_rejected {fuel : Nat} {configuration : Configuration State Token Value}
    {remaining : List Token}
    (rejected : parser.run ending fuel configuration = .rejected remaining) :
    remaining <:+ configuration.remaining := by
  induction fuel generalizing configuration with
  | zero => cases rejected
  | succ fuel induction =>
      rw [run] at rejected
      cases stepped : parser.step ending configuration with
      | halted outcome =>
          rw [stepped] at rejected
          have same := (step_rejected_cases (stepped.trans (congrArg _ rejected))).1
          exact same ▸ List.suffix_rfl
      | next following =>
          rw [stepped] at rejected
          have later := induction rejected
          rcases step_next_cases stepped with
            ⟨token, rest, target, next, _, rfl⟩ | ⟨rule, popped, rest, value, target, _, _, _, _, _, rfl⟩
          · rw [next]
            exact later.trans (List.suffix_cons token rest)
          · exact later

/-! ## Tokens of the same kinds

The values on the stack decide only whether an action raises. -/

/-- The stacks show the same states, and the next tokens, as many as given, are of the same
kinds. -/
structure Alike (parser : Parser State Terminal Nonterminal Rule Token Value Error) (count : Nat)
    (left right : Configuration State Token Value) : Prop where
  states : left.stack.map Frame.state = right.stack.map Frame.state
  kinds : (left.remaining.take count).map (fun token => parser.kind (some token)) =
    (right.remaining.take count).map fun token => parser.kind (some token)

theorem top_of_states {left right : List (Frame State Value)}
    (same : left.map Frame.state = right.map Frame.state) : parser.top left = parser.top right := by
  cases left with
  | nil =>
      cases right with
      | nil => rfl
      | cons frame rest => cases same
  | cons frame rest =>
      cases right with
      | nil => cases same
      | cons other others => exact (List.cons.inj same).1

theorem Alike.lookahead {count : Nat} {left right : Configuration State Token Value} {token : Token}
    {rest : List Token} (alike : parser.Alike (count + 1) left right)
    (next : left.remaining = token :: rest) :
    ∃ other others, right.remaining = other :: others ∧
      parser.kind (some other) = parser.kind (some token) ∧
      (rest.take count).map (fun token => parser.kind (some token)) =
        (others.take count).map fun token => parser.kind (some token) := by
  have kinds := alike.kinds
  rw [next] at kinds
  cases following : right.remaining with
  | nil =>
      rw [following] at kinds
      cases kinds
  | cons other others =>
      rw [following] at kinds
      have both := List.cons.inj kinds
      exact ⟨other, others, rfl, both.1.symm, both.2⟩

/-- A list on which the parser stops at a token is not accepted when the tokens up to there are
exchanged for others of the same kinds. -/
theorem not_accepted_of_alike {leftEnding rightEnding : Option Error} {fuel otherFuel : Nat}
    {left right : Configuration State Token Value} {ahead rest : List Token} {offending : Token}
    (position : left.remaining = ahead ++ offending :: rest)
    (alike : parser.Alike (ahead.length + 1) left right)
    (rejected : parser.run leftEnding fuel left = .rejected (offending :: rest)) (value : Value) :
    parser.run rightEnding otherFuel right ≠ .accepted value := by
  induction fuel generalizing otherFuel left right ahead with
  | zero => cases rejected
  | succ fuel induction =>
      cases otherFuel with
      | zero => exact fun accepted => by cases accepted
      | succ otherFuel =>
          rw [run] at rejected ⊢
          have tops := parser.top_of_states alike.states
          cases stepped : parser.step leftEnding left with
          | halted outcome =>
              rw [stepped] at rejected
              have stopped := step_rejected_cases (stepped.trans (congrArg _ rejected))
              rcases alike.lookahead stopped.1.symm with ⟨other, others, next, kind, _⟩
              have refused : parser.step rightEnding right =
                  .halted (.rejected right.remaining) := by
                apply step_rejects
                · intro empty
                  rw [next] at empty
                  cases empty
                · have acts := stopped.2
                  rw [← stopped.1, List.head?_cons] at acts
                  rw [next, List.head?_cons, ← tops, kind]
                  exact acts
              rw [refused]
              exact fun accepted => by cases accepted
          | next following =>
              rw [stepped] at rejected
              rcases step_next_cases stepped with
                ⟨token, tail, target, next, acts, rfl⟩ |
                ⟨rule, popped, below, reduced, target, acts, shape, count, _, goes, rfl⟩
              · rcases alike.lookahead next with ⟨other, others, otherNext, kind, kinds⟩
                rw [tops, ← kind] at acts
                have shifted : parser.step rightEnding right =
                    .next ⟨⟨target, parser.shifted other⟩ :: right.stack, others⟩ := by
                  have moved := @step_shift _ _ _ _ _ _ _ parser rightEnding right.stack other
                    others
                    target acts
                  rw [← otherNext] at moved
                  exact moved
                rw [shifted]
                cases ahead with
                | nil =>
                    -- the offending token itself cannot be shifted
                    rw [position] at next
                    rcases List.cons.inj next with ⟨rfl, rfl⟩
                    have shorter := (suffix_of_rejected rejected).length_le
                    exact False.elim (Nat.not_succ_le_self rest.length shorter)
                | cons first ahead =>
                    rw [position] at next
                    rcases List.cons.inj next with ⟨rfl, rfl⟩
                    have following : parser.Alike (ahead.length + 1)
                        ⟨⟨target, parser.shifted first⟩ :: left.stack, ahead ++ offending :: rest⟩
                        ⟨⟨target, parser.shifted other⟩ :: right.stack, others⟩ :=
                      ⟨congrArg (target :: ·) alike.states, kinds⟩
                    exact induction rfl following rejected
              · have states := alike.states
                rw [shape, List.map_append] at states
                rcases List.append_eq_map_iff.mp states with
                  ⟨otherPopped, otherBelow, otherShape, poppedStates, belowStates⟩
                have otherCount : otherPopped.length = parser.length rule := by
                  have lengths := congrArg List.length poppedStates
                  simp only [List.length_map] at lengths
                  omega
                rcases ahead_next : ahead ++ offending :: rest with _ | ⟨token, tail⟩
                · cases ahead <;> cases ahead_next
                rw [ahead_next] at position
                rcases alike.lookahead position with ⟨other, others, otherNext, kind, _⟩
                have reduces : parser.step rightEnding right = parser.reduce rule right := by
                  apply step_reduce
                  · intro empty
                    rw [otherNext] at empty
                    cases empty
                  · rw [position, List.head?_cons] at acts
                    rw [otherNext, List.head?_cons, kind, ← tops]
                    exact acts
                have sameRight : right = ⟨otherPopped ++ otherBelow, right.remaining⟩ := by
                  rw [← otherShape]
                rw [reduces]
                cases made : parser.reduced rule (otherPopped.reverse.map Frame.value) with
                | error error =>
                    rw [sameRight, reduce_raised otherCount made]
                    exact fun accepted => by cases accepted
                | ok otherValue =>
                    rw [parser.top_of_states belowStates.symm] at goes
                    rw [sameRight, reduce_next otherCount made goes]
                    have following : parser.Alike (ahead.length + 1)
                        ⟨⟨target, reduced⟩ :: below, left.remaining⟩
                        ⟨⟨target, otherValue⟩ :: otherBelow, right.remaining⟩ :=
                      ⟨congrArg (target :: ·) belowStates.symm, alike.kinds⟩
                    exact @induction otherFuel ⟨⟨target, reduced⟩ :: below, left.remaining⟩ _ ahead
                      (position.trans ahead_next.symm) following rejected

/-- Weights under which every turn of the loop consumes something: a shift a
token, a reduction the frames it pops. -/
structure Weighting (parser : Parser State Terminal Nonterminal Rule Token Value Error) where
  ofState : State → Nat
  ofToken : Token → Nat
  positive : ∀ state, 0 < ofState state
  shifts : ∀ state token target,
    parser.action state (parser.kind (some token)) = some (.shift target) →
      ofState target < ofToken token
  reduces : ∀ state terminal rule,
    parser.action state terminal = some (.reduce rule) →
      0 < parser.length rule ∧
        ∀ source target, parser.goto source (parser.input rule) = some target →
          ofState target + 1 < ofState state + parser.length rule

namespace Weighting

variable (weighting : Weighting parser)

def ofStack (stack : List (Frame State Value)) : Nat :=
  (stack.map fun frame => weighting.ofState frame.state).sum

def ofTokens (tokens : List Token) : Nat :=
  (tokens.map weighting.ofToken).sum

def ofConfiguration (configuration : Configuration State Token Value) : Nat :=
  weighting.ofStack configuration.stack + weighting.ofTokens configuration.remaining

theorem length_le_ofStack (stack : List (Frame State Value)) :
    stack.length ≤ weighting.ofStack stack := by
  induction stack with
  | nil => simp [ofStack]
  | cons frame rest induction =>
      have positive := weighting.positive frame.state
      simp only [ofStack, List.length_cons, List.map_cons, List.sum_cons] at induction ⊢
      omega

theorem ofStack_append (left right : List (Frame State Value)) :
    weighting.ofStack (left ++ right) =
      weighting.ofStack left + weighting.ofStack right := by
  simp [ofStack]

/-- Popped frames weigh the state of the top one and at least one for each
other. -/
theorem top_add_length_le (popped rest : List (Frame State Value))
    (nonempty : 0 < popped.length) :
    weighting.ofState (parser.top (popped ++ rest)) + popped.length ≤
      weighting.ofStack popped + 1 := by
  cases popped with
  | nil => simp at nonempty
  | cons frame others =>
      have others := weighting.length_le_ofStack others
      simp only [ofStack, top, List.cons_append, List.map_cons, List.sum_cons,
        List.length_cons] at others ⊢
      omega

theorem step_decreases {first second : Configuration State Token Value}
    (stepped : parser.step ending first = .next second) :
    weighting.ofConfiguration second < weighting.ofConfiguration first := by
  rcases step_next_cases stepped with
    ⟨token, rest, target, tokens, acts, rfl⟩ |
    ⟨rule, popped, rest, value, target, acts, stack, count, _, goes, rfl⟩
  · have lighter := weighting.shifts _ token target acts
    simp only [ofConfiguration, ofStack, ofTokens, tokens, List.map_cons, List.sum_cons]
    omega
  · have rules := weighting.reduces _ _ rule acts
    have lighter := rules.2 _ _ goes
    have heavy := weighting.top_add_length_le popped rest (by omega)
    rw [← stack, count] at heavy
    simp only [ofConfiguration, stack, weighting.ofStack_append]
    simp only [ofStack, List.map_cons, List.sum_cons] at heavy ⊢
    omega

theorem run_halts {fuel : Nat} {configuration : Configuration State Token Value}
    (enough : weighting.ofConfiguration configuration < fuel) :
    parser.run ending fuel configuration ≠ .outOfFuel := by
  induction fuel generalizing configuration with
  | zero => omega
  | succ fuel induction =>
      rw [run]
      cases stepped : parser.step ending configuration with
      | next following =>
          have lighter := weighting.step_decreases stepped
          exact induction (by omega)
      | halted outcome =>
          intro exhausted
          exact step_ne_outOfFuel (stepped.trans (congrArg _ exhausted))

end Weighting

end Parser

end EventPipeline.ShiftReduce
