import EventPipeline.Foundation.ShiftReduce
import EventPipeline.Parser.Ast
import Mathlib.Data.Fintype.Basic

/-! # The pointy grammar

The tables of `parsetab.py`, the actions of `grammar.py` and the error callback.
The parser never feeds anything back into the lexer, so the tokens can be listed
before they are parsed; a number that `int` refuses ends the list with the
exception the parser meets when it asks for that token.
-/

namespace EventPipeline.Parser

open ShiftReduce

inductive Terminal
  | number
  | taskname
  | finish
  | pointer
  | ppointer
  | parallel
  | retry
  | lparen
  | seperator
  | rparen
deriving DecidableEq, Repr

inductive Nonterminal
  | expression
  | descriptor
  | factor
  | task
  | term
  | taskGroup
deriving DecidableEq, Repr

abbrev State := Fin 31

instance stateCount : NeZero 31 := ⟨by decide⟩

/-- The rules of the grammar in the order of their numbers, from 1 on. -/
inductive Rule
  | expressionPointer
  | expressionPpointer
  | expressionParallel
  | descriptorPointer
  | descriptorPpointer
  | factorRetry
  | taskRetry
  | expressionTerm
  | termTask
  | descriptorNumber
  | factorNumber
  | taskTaskname
  | groupPair
  | groupMore
  | taskConditional
deriving DecidableEq, Repr

def Rule.all : List Rule :=
  [.expressionPointer, .expressionPpointer, .expressionParallel, .descriptorPointer,
    .descriptorPpointer, .factorRetry, .taskRetry, .expressionTerm, .termTask,
    .descriptorNumber, .factorNumber, .taskTaskname, .groupPair, .groupMore,
    .taskConditional]

def Token.terminal : Token → Terminal
  | .seperator => .seperator
  | .pointer => .pointer
  | .ppointer => .ppointer
  | .parallel => .parallel
  | .retry => .retry
  | .taskname _ => .taskname
  | .lparen => .lparen
  | .rparen => .rparen
  | .number _ => .number

/-- Tokens without a value of their own are told by their terminals. -/
theorem Token.eq_of_terminal {token other : Token}
    (bare : other.terminal ≠ .taskname ∧ other.terminal ≠ .number)
    (same : token.terminal = other.terminal) : token = other := by
  cases other with
  | taskname name => exact absurd rfl bare.1
  | number value => exact absurd rfl bare.2
  | seperator | pointer | ppointer | parallel | retry | lparen | rparen =>
      cases token <;> first | rfl | cases same

def terminalOf : Option LexToken → Terminal
  | none => .finish
  | some token => token.token.terminal

/-! ## Tables -/

/-- `_lr_action_items`: a positive entry shifts, a negative one reduces by the
rule of that number and zero accepts. -/
def lrActionItems : Terminal → List (State × Int)
  | .number => [(0, 6), (8, 6), (9, 6), (10, 6), (11, 6), (12, 6), (14, 23), (15, 6),
      (27, 6), (28, 6)]
  | .taskname => [(0, 7), (8, 7), (9, 7), (10, 7), (11, 7), (12, 7), (13, 7), (15, 7),
      (27, 7), (28, 7)]
  | .finish => [(1, 0), (4, -9), (5, -8), (7, -12), (16, -1), (17, -2), (18, -3),
      (19, -4), (20, -5), (21, -6), (22, -7), (23, -11), (26, -15)]
  | .pointer => [(1, 8), (2, 11), (4, -9), (5, -8), (6, -10), (7, -12), (16, -1),
      (17, -2), (18, -3), (19, -4), (20, -5), (21, -6), (22, -7), (23, -11), (25, 8),
      (26, -15), (29, 8), (30, 8)]
  | .ppointer => [(1, 9), (2, 12), (4, -9), (5, -8), (6, -10), (7, -12), (16, -1),
      (17, -2), (18, -3), (19, -4), (20, -5), (21, -6), (22, -7), (23, -11), (25, 9),
      (26, -15), (29, 9), (30, 9)]
  | .parallel => [(1, 10), (4, -9), (5, -8), (7, -12), (16, -1), (17, -2), (18, -3),
      (19, -4), (20, -5), (21, -6), (22, -7), (23, -11), (25, 10), (26, -15), (29, 10),
      (30, 10)]
  | .retry => [(3, 13), (4, 14), (6, -11), (7, -12), (26, -15)]
  | .lparen => [(4, 15), (7, -12), (21, 15), (26, -15)]
  | .seperator => [(4, -9), (5, -8), (7, -12), (16, -1), (17, -2), (18, -3), (19, -4),
      (20, -5), (21, -6), (22, -7), (23, -11), (24, 27), (25, 28), (26, -15), (29, -14),
      (30, -13)]
  | .rparen => [(4, -9), (5, -8), (7, -12), (16, -1), (17, -2), (18, -3), (19, -4),
      (20, -5), (21, -6), (22, -7), (23, -11), (24, 26), (26, -15), (29, -14), (30, -13)]

def lrGotoItems : Nonterminal → List (State × State)
  | .expression => [(0, 1), (8, 16), (9, 17), (10, 18), (11, 19), (12, 20), (15, 25),
      (27, 29), (28, 30)]
  | .descriptor => [(0, 2), (8, 2), (9, 2), (10, 2), (11, 2), (12, 2), (15, 2), (27, 2),
      (28, 2)]
  | .factor => [(0, 3), (8, 3), (9, 3), (10, 3), (11, 3), (12, 3), (14, 22), (15, 3),
      (27, 3), (28, 3)]
  | .task => [(0, 4), (8, 4), (9, 4), (10, 4), (11, 4), (12, 4), (13, 21), (15, 4),
      (27, 4), (28, 4)]
  | .term => [(0, 5), (8, 5), (9, 5), (10, 5), (11, 5), (12, 5), (15, 5), (27, 5), (28, 5)]
  | .taskGroup => [(15, 24)]

def actionOf : Int → Option (Action State Rule)
  | .ofNat 0 => some .accept
  | .ofNat target => some (.shift (Fin.ofNat 31 target))
  | .negSucc index => Rule.all[index]?.map .reduce

def lrAction (state : State) (terminal : Terminal) : Option (Action State Rule) :=
  (OrderedDict.get state (lrActionItems terminal)).bind actionOf

def lrGoto (state : State) (nonterminal : Nonterminal) : Option State :=
  OrderedDict.get state (lrGotoItems nonterminal)

/-- The left side and the length of each rule in `_lr_productions`. -/
def lrProduction : Rule → Nonterminal × Nat
  | .expressionPointer | .expressionPpointer | .expressionParallel => (.expression, 3)
  | .descriptorPointer | .descriptorPpointer => (.expression, 3)
  | .factorRetry | .taskRetry => (.expression, 3)
  | .expressionTerm => (.expression, 1)
  | .termTask => (.term, 1)
  | .descriptorNumber => (.descriptor, 1)
  | .factorNumber => (.factor, 1)
  | .taskTaskname => (.task, 1)
  | .groupPair | .groupMore => (.taskGroup, 3)
  | .taskConditional => (.task, 4)

/-! ## Semantic actions -/

/-- What the parser keeps for a symbol on its stack. -/
inductive Value
  | token (token : LexToken)
  | ast (ast : Ast)
  | group (group : ConditionalGroup)

/-- Values that the tables never hand to an action. -/
def malformed : Except PyError Value :=
  .error (.attributeError "malformed production")

def pExpression : List Value → Except PyError Value
  | [.ast left, .token op, .ast right] =>
      match op.token.operator with
      | some operator => .ok (.ast (.binOp operator left right))
      | none => malformed
  | _ => malformed

/-- `p_expression_term` and `p_task`. -/
def pSame : List Value → Except PyError Value
  | [value] => .ok value
  | _ => malformed

def position (token : LexToken) : String :=
  "Line: " ++ toString token.lineno ++ ", Column: " ++ toString token.lexpos

def pDescriptor : List Value → Except PyError Value
  | [.token ⟨.number value, lineno, lexpos⟩] =>
      if value < 10 then
        .ok (.ast (.descriptor value))
      else
        .error (.yaccError ("Descriptors cannot be either greater 9 or less than 0. " ++
          position ⟨.number value, lineno, lexpos⟩ ++ ", Offending token: " ++
          toString value))
  | _ => malformed

def pFactor : List Value → Except PyError Value
  | [.token ⟨.number value, lineno, lexpos⟩] =>
      if value < 2 then
        .error (.yaccError ("Task cannot be retried less than 2 times. " ++
          position ⟨.number value, lineno, lexpos⟩ ++ ", Offending Token: " ++
          toString value))
      else
        .ok (.ast (.number value))
  | _ => malformed

def pTaskTaskname : List Value → Except PyError Value
  | [.token ⟨.taskname name, _, _⟩] => .ok (.ast (.taskName name))
  | _ => malformed

def pTaskGroup : List Value → Except PyError Value
  | [.ast left, .token _, .ast right] =>
      .ok (.group (ConditionalGroup.ofExpressions left right))
  | [.group left, .token _, .ast right] =>
      match ConditionalGroup.ofGroup left right with
      | .error error => .error error
      | .ok group => .ok (.group group)
  | _ => malformed

def pTaskConditionalStatement : List Value → Except PyError Value
  | [.ast parent, .token _, .group group, .token _] =>
      .ok (.ast (.conditionalBinOP parent group))
  | _ => malformed

def reduceBy : Rule → List Value → Except PyError Value
  | .expressionPointer | .expressionPpointer | .expressionParallel => pExpression
  | .descriptorPointer | .descriptorPpointer => pExpression
  | .factorRetry | .taskRetry => pExpression
  | .expressionTerm | .termTask => pSame
  | .descriptorNumber => pDescriptor
  | .factorNumber => pFactor
  | .taskTaskname => pTaskTaskname
  | .groupPair | .groupMore => pTaskGroup
  | .taskConditional => pTaskConditionalStatement

/-- The parser object that `yacc()` builds from the grammar. -/
def yacc : ShiftReduce.Parser State Terminal Nonterminal Rule LexToken Value PyError where
  start := 0
  action := lrAction
  goto := lrGoto
  input rule := (lrProduction rule).1
  length rule := (lrProduction rule).2
  kind := terminalOf
  shifted := .token
  reduced := reduceBy

/-! ## Running the parser -/

/-- Every token is shifted once and takes part in at most four reductions. -/
def parseTokens (tokens : List LexToken) (ending : Option PyError) :
    Outcome LexToken Value PyError :=
  yacc.run ending (5 * tokens.length + 1) ⟨[], tokens⟩

/-- `p_error` on a token. It counts tokens where it means to count lines, and
the line counter it starts from includes the lines of all earlier scripts. -/
def pError (token : LexToken) (lexer : Lexer) : PyError × Lexer :=
  let message := "Syntax error in input at line " ++ toString token.lineno ++
    ", Column " ++ toString token.lexpos ++ ", Offending token: " ++ token.token.text
  let restarted := lexer.input lexer.lexdata
  match restarted.nextAfter (token.lineno - 1) with
  | (.error error, after) => (error, after)
  | (.ok context, after) =>
      match context.token with
      | .number _ => (.attributeError "'int' object has no attribute 'strip'", after)
      | found => (.syntaxError (message ++ "\nError occurred near: " ++ found.text), after)

def Lexer.readTo (lexer : Lexer) (remaining : List LexToken) : Lexer :=
  lexer.pull (lexer.tokens.1.length - remaining.length + 1)

/-- What `pointy_parser` makes of the outcome of the loop, with the lexer object it leaves
behind. -/
def conclude (lexer : Lexer) : Outcome LexToken Value PyError → Except PyError Ast × Lexer
  | .accepted (.ast ast) => (.ok ast, lexer.readTo [])
  | .rejected [] =>
      (.error (.syntaxError "Syntax error at the end of the input!"), lexer.readTo [])
  | .rejected (token :: rest) =>
      let raised := pError token (lexer.readTo (token :: rest))
      (.error raised.1, raised.2)
  | .raised (.yaccError message) remaining =>
      (.error (.syntaxError ("Parsing error: " ++ message)), lexer.readTo remaining)
  | .raised error remaining => (.error error, lexer.readTo remaining)
  | .accepted _ | .stuck | .outOfFuel => (.error .recursionError, lexer)

def pointyParser (lexer : Lexer) (code : String) : Except PyError Ast × Lexer :=
  let lexer := lexer.input code.toList
  conclude lexer (parseTokens lexer.tokens.1 lexer.tokens.2)

example : (pointyParser .initial "A(10->C,40->B)").1 =
    .error (.syntaxError ("Parsing error: Descriptors cannot be either greater 9 or " ++
      "less than 0. Line: 1, Column: 2, Offending token: 10")) := by
  rfl

/-! ## The loop ends -/

def Rule.states : Rule → List State
  | .expressionPointer => [16]
  | .expressionPpointer => [17]
  | .expressionParallel => [18]
  | .descriptorPointer => [19]
  | .descriptorPpointer => [20]
  | .factorRetry => [21]
  | .taskRetry => [22]
  | .expressionTerm => [5]
  | .termTask => [4]
  | .descriptorNumber => [6]
  | .factorNumber => [6, 23]
  | .taskTaskname => [7]
  | .groupPair => [30]
  | .groupMore => [29]
  | .taskConditional => [26]

def Nonterminal.states : Nonterminal → List State
  | .expression => [1, 16, 17, 18, 19, 20, 25, 29, 30]
  | .descriptor => [2]
  | .factor => [3, 22]
  | .task => [4, 21]
  | .term => [5]
  | .taskGroup => [24]

theorem mem_states_of_reduce {state : State} {terminal : Terminal} {rule : Rule}
    (acts : lrAction state terminal = some (.reduce rule)) : state ∈ rule.states := by
  have checked : ∀ state : State, ((lrAction state terminal).all fun
      | .reduce rule => decide (state ∈ rule.states)
      | _ => true) = true := by
    cases terminal <;> decide
  have found := checked state
  rw [acts] at found
  exact of_decide_eq_true found

theorem mem_states_of_goto {source target : State} {nonterminal : Nonterminal}
    (goes : lrGoto source nonterminal = some target) : target ∈ nonterminal.states := by
  have checked : ∀ source : State, ((lrGoto source nonterminal).all fun target =>
      decide (target ∈ nonterminal.states)) = true := by
    cases nonterminal <;> decide
  have found := checked source
  rw [goes] at found
  exact of_decide_eq_true found

def stateWeight : State → Nat
  | 7 => 4
  | 4 | 21 => 3
  | 5 | 6 | 23 => 2
  | _ => 1

def yaccWeighting : yacc.Weighting where
  ofState := stateWeight
  ofToken _ := 5
  positive := by decide
  shifts := by
    have lighter : ∀ target, stateWeight target < 5 := by decide
    intro state token target _
    exact lighter target
  reduces := by
    have checked : ∀ rule : Rule, 0 < (lrProduction rule).2 ∧
        ∀ state ∈ rule.states, ∀ target ∈ (lrProduction rule).1.states,
          stateWeight target + 1 < stateWeight state + (lrProduction rule).2 := by
      intro rule
      cases rule <;> decide
    intro state terminal rule acts
    refine ⟨(checked rule).1, fun source target goes => ?_⟩
    exact (checked rule).2 state (mem_states_of_reduce acts) target (mem_states_of_goto goes)

theorem parseTokens_halts (tokens : List LexToken) (ending : Option PyError) :
    parseTokens tokens ending ≠ .outOfFuel := by
  apply yaccWeighting.run_halts
  simp [Parser.Weighting.ofConfiguration, Parser.Weighting.ofStack,
    Parser.Weighting.ofTokens, yaccWeighting]
  omega

end EventPipeline.Parser
