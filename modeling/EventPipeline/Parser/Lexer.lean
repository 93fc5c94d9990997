import EventPipeline.Exceptions
import Mathlib.Data.List.Basic

/-! # The pointy lexer

`PointyLexer` on the ply driver. The master expression tries the function rules
first and then the string rules; since no two rules share a first character
except `|->` and `||`, the first character decides. One lexer object serves
every parse of the process: `input` resets the text and the position but not
the line counter. A `@recursive-depth` directive calls `_extend_recursion_depth`
as soon as it is matched.
-/

namespace EventPipeline.Parser

inductive Token
  | seperator
  | pointer
  | ppointer
  | parallel
  | retry
  | taskname (name : String)
  | lparen
  | rparen
  | number (value : Nat)
deriving DecidableEq, Repr

/-- The `value` attribute of a token as a format string shows it. -/
def Token.text : Token → String
  | .seperator => ","
  | .pointer => "->"
  | .ppointer => "|->"
  | .parallel => "||"
  | .retry => "*"
  | .taskname name => name
  | .lparen => "("
  | .rparen => ")"
  | .number value => toString value

def Token.taskname? : Token → Option String
  | .taskname name => some name
  | _ => none

def Token.isNumber : Token → Bool
  | .number _ => true
  | _ => false

structure LexToken where
  token : Token
  lineno : Nat
  lexpos : Nat
deriving DecidableEq, Repr

/-! ## Characters -/

/-- The code points of the digits zero, one for each run of ten decimal digits
that the class `\d` of a text pattern matches. -/
def digitZeros : List Nat :=
  [0x30, 0x660, 0x6F0, 0x7C0, 0x966, 0x9E6, 0xA66, 0xAE6, 0xB66, 0xBE6, 0xC66, 0xCE6,
    0xD66, 0xDE6, 0xE50, 0xED0, 0xF20, 0x1040, 0x1090, 0x17E0, 0x1810, 0x1946, 0x19D0,
    0x1A80, 0x1A90, 0x1B50, 0x1BB0, 0x1C40, 0x1C50, 0xA620, 0xA8D0, 0xA900, 0xA9D0,
    0xA9F0, 0xAA50, 0xABF0, 0xFF10, 0x104A0, 0x10D30, 0x11066, 0x110F0, 0x11136,
    0x111D0, 0x112F0, 0x11450, 0x114D0, 0x11650, 0x116C0, 0x11730, 0x118E0, 0x11950,
    0x11C50, 0x11D50, 0x11DA0, 0x16A60, 0x16AC0, 0x16B50, 0x1D7CE, 0x1D7D8, 0x1D7E2,
    0x1D7EC, 0x1D7F6, 0x1E140, 0x1E2F0, 0x1E950, 0x1FBF0]

def digitValue (char : Char) : Option Nat :=
  digitZeros.findSome? fun start =>
    if start ≤ char.toNat ∧ char.toNat < start + 10 then some (char.toNat - start) else none

def isDigit (char : Char) : Bool :=
  (digitValue char).isSome

/-- `[a-zA-Z_]` -/
def isNameStart (char : Char) : Bool :=
  char.isAlpha || char = '_'

/-- `[a-zA-Z0-9_]` -/
def isNameChar (char : Char) : Bool :=
  char.isAlphanum || char = '_'

/-- `[a-zA-Z0-9-]` -/
def isDirectiveChar (char : Char) : Bool :=
  char.isAlphanum || char = '-'

/-- The longest digit string that `int` converts by default. -/
def intMaxStrDigits : Nat := 4300

/-- `int` of a string of decimal digits. -/
def int (digits : List Char) : Except PyError Nat :=
  if intMaxStrDigits < digits.length then
    .error (.valueError ("Exceeds the limit (" ++ toString intMaxStrDigits ++
      " digits) for integer string conversion"))
  else
    .ok (digits.foldl (fun value char => 10 * value + (digitValue char).getD 0) 0)

/-! ## Lexemes -/

/-- What one match of the master expression contributes. -/
inductive Lexeme
  | token (token : Token)
  | ignored
  | newlines (count : Nat)
  | depth (limit : Nat)
  | refused (error : PyError)

/-- `t_DIRECTIVE` after its `@`. The rule returns no token and skips one more
character; without a match the `@` is an illegal character. -/
def directive (rest : List Char) : Lexeme × List Char :=
  match rest.dropWhile isDirectiveChar with
  | ':' :: more =>
      let name := rest.takeWhile isDirectiveChar
      let value := more.takeWhile Char.isAlphanum
      if name = [] ∨ value = [] then
        (.ignored, rest)
      else
        let after := (more.dropWhile Char.isAlphanum).drop 1
        if name = "recursive-depth".toList ∧ value.all Char.isDigit then
          match int value with
          | .ok limit => (.depth limit, after)
          | .error error => (.refused error, after)
        else
          (.ignored, after)
  | _ => (.ignored, rest)

/-- The lexeme that starts with the given character, and the text after it. -/
def lexeme (char : Char) (rest : List Char) : Lexeme × List Char :=
  if char = ' ' ∨ char = '\t' then
    (.ignored, rest)
  else if isDigit char then
    match int (char :: rest.takeWhile isDigit) with
    | .ok value => (.token (.number value), rest.dropWhile isDigit)
    | .error error => (.refused error, rest.dropWhile isDigit)
  else if char = '@' then
    directive rest
  else if char = '\n' then
    (.newlines (1 + (rest.takeWhile (· = '\n')).length), rest.dropWhile (· = '\n'))
  else if isNameStart char then
    (.token (.taskname (String.ofList (char :: rest.takeWhile isNameChar))),
      rest.dropWhile isNameChar)
  else
    match char, rest with
    | '|', '-' :: '>' :: after => (.token .ppointer, after)
    | '|', '|' :: after => (.token .parallel, after)
    | '-', '>' :: after => (.token .pointer, after)
    | '#', _ => (.ignored, rest.dropWhile (· ≠ '\n'))
    | '*', _ => (.token .retry, rest)
    | '(', _ => (.token .lparen, rest)
    | ')', _ => (.token .rparen, rest)
    | ',', _ => (.token .seperator, rest)
    -- `t_error` reports an illegal character and skips it
    | _, _ => (.ignored, rest)

theorem length_dropWhile_le (select : Char → Bool) (text : List Char) :
    (text.dropWhile select).length ≤ text.length :=
  (List.dropWhile_suffix select).length_le

theorem directive_length (rest : List Char) : (directive rest).2.length ≤ rest.length := by
  unfold directive
  split
  · rename_i more found
    have nameDropped := length_dropWhile_le isDirectiveChar rest
    have valueDropped := length_dropWhile_le Char.isAlphanum more
    rw [found, List.length_cons] at nameDropped
    dsimp only
    split
    · simp
    · split
      · split <;> simp only [List.length_drop] <;> omega
      · simp only [List.length_drop]
        omega
  · simp

theorem lexeme_length (char : Char) (rest : List Char) :
    (lexeme char rest).2.length ≤ rest.length := by
  unfold lexeme
  split
  · simp
  · split
    · split <;> exact length_dropWhile_le _ _
    · split
      · exact directive_length rest
      · split
        · exact length_dropWhile_le _ _
        · split
          · exact length_dropWhile_le _ _
          · split <;> first
              | exact length_dropWhile_le _ _
              | (simp only [List.length_cons]; omega)

theorem int_error {digits : List Char} {error : PyError} (refused : int digits = .error error) :
    ∃ message, error = .valueError message := by
  unfold int at refused
  split at refused
  · cases refused
    exact ⟨_, rfl⟩
  · cases refused

theorem lexeme_refused {char : Char} {rest after : List Char} {error : PyError}
    (refused : lexeme char rest = (.refused error, after)) :
    ∃ message, error = .valueError message := by
  unfold lexeme at refused
  split at refused
  · cases refused
  · split at refused
    · split at refused
      · cases refused
      · rename_i converted
        cases refused
        exact int_error converted
    · split at refused
      · unfold directive at refused
        split at refused
        · dsimp only at refused
          split at refused
          · cases refused
          · split at refused
            · split at refused
              · cases refused
              · rename_i converted
                cases refused
                exact int_error converted
            · cases refused
        · cases refused
      · split at refused
        · cases refused
        · split at refused
          · cases refused
          · split at refused <;> cases refused

/-! ## The lexer object -/

/-- The text given to `input`, the part of it not yet matched, the line counter,
and the arguments of `_extend_recursion_depth` so far. -/
structure Lexer where
  lexdata : List Char
  rest : List Char
  lineno : Nat
  requested : List Nat
deriving DecidableEq, Repr

namespace Lexer

def initial : Lexer := ⟨[], [], 1, []⟩

def lexpos (lexer : Lexer) : Nat := lexer.lexdata.length - lexer.rest.length

/-- Set a new text. The line counter goes on from where it stood. -/
def input (lexer : Lexer) (text : List Char) : Lexer :=
  { lexer with lexdata := text, rest := text }

def tokenLoop : Nat → Lexer → Except PyError (Option LexToken) × Lexer
  | 0, lexer => (.ok none, lexer)
  | fuel + 1, lexer =>
      match lexer.rest with
      | [] => (.ok none, lexer)
      | char :: rest =>
          match lexeme char rest with
          | (.token token, after) =>
              (.ok (some ⟨token, lexer.lineno, lexer.lexpos⟩), { lexer with rest := after })
          | (.ignored, after) => tokenLoop fuel { lexer with rest := after }
          | (.newlines count, after) =>
              tokenLoop fuel { lexer with rest := after, lineno := lexer.lineno + count }
          | (.depth limit, after) =>
              tokenLoop fuel { lexer with rest := after, requested := lexer.requested ++ [limit] }
          | (.refused error, after) => (.error error, { lexer with rest := after })

/-- `Lexer.token`: the next token, or `none` at the end of the text. Every turn
of the loop consumes a character, so the length of the text is fuel enough. -/
def token (lexer : Lexer) : Except PyError (Option LexToken) × Lexer :=
  lexer.tokenLoop lexer.rest.length

/-- `Lexer.next`, which raises `StopIteration` at the end of the text. -/
def next (lexer : Lexer) : Except PyError LexToken × Lexer :=
  match lexer.token with
  | (.error error, after) => (.error error, after)
  | (.ok none, after) => (.error .stopIteration, after)
  | (.ok (some token), after) => (.ok token, after)

/-- Discard `count` tokens and return the one after them. -/
def nextAfter : Nat → Lexer → Except PyError LexToken × Lexer
  | 0, lexer => lexer.next
  | count + 1, lexer =>
      match lexer.next with
      | (.error error, after) => (.error error, after)
      | (.ok _, after) => nextAfter count after

/-- The lexer after the given number of `token` calls. -/
def pull : Nat → Lexer → Lexer
  | 0, lexer => lexer
  | count + 1, lexer => pull count lexer.token.2

def tokensLoop : Nat → Lexer → List LexToken × Option PyError
  | 0, _ => ([], none)
  | fuel + 1, lexer =>
      match lexer.token with
      | (.error error, _) => ([], some error)
      | (.ok none, _) => ([], none)
      | (.ok (some token), after) =>
          let following := tokensLoop fuel after
          (token :: following.1, following.2)

/-- All tokens of the remaining text, and the exception that ends them when
`int` refuses a number. -/
def tokens (lexer : Lexer) : List LexToken × Option PyError :=
  lexer.tokensLoop (lexer.rest.length + 1)

example : (initial.input "A(0 |-> B, 1 -> C * 2)".toList).tokens.1.map LexToken.token =
    [.taskname "A", .lparen, .number 0, .ppointer, .taskname "B", .seperator,
      .number 1, .pointer, .taskname "C", .retry, .number 2, .rparen] := by
  decide

/-! ## Token streams

Fuel beyond the length of the text changes nothing, so the token list obeys an
equation without fuel, and asking for the tokens one by one gives the same
tokens as the list. -/

/-- What one `token` call does to the lexer: it consumes text, keeps the text
it was given and never moves the line counter back. -/
structure Advances (before after : Lexer) : Prop where
  lexdata : after.lexdata = before.lexdata
  lineno : before.lineno ≤ after.lineno
  rest : after.rest.length ≤ before.rest.length

theorem tokenLoop_advances (fuel : Nat) (lexer : Lexer) :
    Advances lexer (lexer.tokenLoop fuel).2 ∧
      ∀ token, (lexer.tokenLoop fuel).1 = .ok (some token) →
        (lexer.tokenLoop fuel).2.rest.length < lexer.rest.length ∧
          lexer.lineno ≤ token.lineno := by
  induction fuel generalizing lexer with
  | zero =>
      refine ⟨⟨rfl, Nat.le_refl _, Nat.le_refl _⟩, ?_⟩
      intro token found
      cases found
  | succ fuel induction =>
      rcases lexer with ⟨lexdata, rest, lineno, requested⟩
      cases rest with
      | nil =>
          refine ⟨⟨rfl, Nat.le_refl _, Nat.le_refl _⟩, ?_⟩
          intro token found
          cases found
      | cons char rest =>
          have shorter := lexeme_length char rest
          simp only [tokenLoop]
          rcases matched : lexeme char rest with ⟨kind, after⟩
          rw [matched] at shorter
          dsimp only at shorter ⊢
          cases kind with
          | token token =>
              refine ⟨⟨rfl, Nat.le_refl _, by simp only [List.length_cons]; omega⟩, ?_⟩
              intro found equal
              cases equal
              exact ⟨by simp only [List.length_cons]; omega, Nat.le_refl _⟩
          | refused error =>
              refine ⟨⟨rfl, Nat.le_refl _, by simp only [List.length_cons]; omega⟩, ?_⟩
              intro found equal
              cases equal
          | ignored =>
              have loop := induction ⟨lexdata, after, lineno, requested⟩
              refine ⟨⟨loop.1.lexdata, loop.1.lineno, ?_⟩, ?_⟩
              · have consumed := loop.1.rest
                simp only [List.length_cons] at consumed ⊢
                omega
              · intro token found
                have later := loop.2 token found
                simp only [List.length_cons] at later ⊢
                exact ⟨by omega, later.2⟩
          | depth limit =>
              have loop := induction ⟨lexdata, after, lineno, requested ++ [limit]⟩
              refine ⟨⟨loop.1.lexdata, loop.1.lineno, ?_⟩, ?_⟩
              · have consumed := loop.1.rest
                simp only [List.length_cons] at consumed ⊢
                omega
              · intro token found
                have later := loop.2 token found
                simp only [List.length_cons] at later ⊢
                exact ⟨by omega, later.2⟩
          | newlines count =>
              have loop := induction ⟨lexdata, after, lineno + count, requested⟩
              refine ⟨⟨loop.1.lexdata, ?_, ?_⟩, ?_⟩
              · have counted := loop.1.lineno
                simp only at counted ⊢
                omega
              · have consumed := loop.1.rest
                simp only [List.length_cons] at consumed ⊢
                omega
              · intro token found
                have later := loop.2 token found
                simp only [List.length_cons] at later ⊢
                exact ⟨by omega, by omega⟩

theorem token_advances (lexer : Lexer) : Advances lexer lexer.token.2 :=
  (tokenLoop_advances _ lexer).1

theorem token_found {lexer after : Lexer} {token : LexToken}
    (found : lexer.token = (.ok (some token), after)) :
    after.rest.length < lexer.rest.length ∧ lexer.lineno ≤ token.lineno := by
  have shorter := (tokenLoop_advances lexer.rest.length lexer).2 token
  unfold Lexer.token at found
  rw [found] at shorter
  exact shorter rfl

theorem tokensLoop_add_fuel {fuel : Nat} {lexer : Lexer}
    (enough : lexer.rest.length < fuel) (extra : Nat) :
    lexer.tokensLoop (fuel + extra) = lexer.tokensLoop fuel := by
  induction fuel generalizing lexer with
  | zero => omega
  | succ fuel induction =>
      have reordered : fuel + 1 + extra = fuel + extra + 1 := by omega
      rw [reordered]
      rcases asked : lexer.token with ⟨result, after⟩
      simp only [tokensLoop, asked]
      rcases result with error | none | token
      · rfl
      · rfl
      · have shorter := (token_found asked).1
        have same := @induction after (by omega)
        simp only [same]

theorem tokensLoop_of_lt {fuel : Nat} {lexer : Lexer} (enough : lexer.rest.length < fuel) :
    lexer.tokensLoop fuel = lexer.tokens := by
  have split : lexer.rest.length + 1 + (fuel - (lexer.rest.length + 1)) = fuel := by omega
  rw [tokens, ← tokensLoop_add_fuel (Nat.lt_succ_self _) (fuel - (lexer.rest.length + 1)),
    split]

theorem tokens_eq (lexer : Lexer) :
    lexer.tokens =
      match lexer.token with
      | (.error error, _) => ([], some error)
      | (.ok none, _) => ([], none)
      | (.ok (some token), after) => (token :: after.tokens.1, after.tokens.2) := by
  rw [tokens, tokensLoop]
  rcases asked : lexer.token with ⟨result, after⟩
  rcases result with error | none | token
  · rfl
  · rfl
  · have shorter := (token_found asked).1
    dsimp only
    rw [tokensLoop_of_lt shorter]

/-- Asking for token number `count` gives the one in the list, and past its end
the exception that ends it or `StopIteration`. -/
theorem nextAfter_eq (count : Nat) (lexer : Lexer) :
    (lexer.nextAfter count).1 =
      match lexer.tokens.1[count]? with
      | some token => .ok token
      | none => .error (lexer.tokens.2.getD .stopIteration) := by
  induction count generalizing lexer with
  | zero =>
      rw [tokens_eq]
      rcases asked : lexer.token with ⟨result, after⟩
      rcases result with error | none | token <;> simp [nextAfter, next, asked]
  | succ count induction =>
      rw [tokens_eq]
      rcases asked : lexer.token with ⟨result, after⟩
      rcases result with error | none | token
      · simp [nextAfter, next, asked]
      · simp [nextAfter, next, asked]
      · simp only [nextAfter, next, asked, List.getElem?_cons_succ]
        exact induction after

theorem tokenLoop_error {fuel : Nat} {lexer after : Lexer} {error : PyError}
    (raised : lexer.tokenLoop fuel = (.error error, after)) :
    ∃ message, error = .valueError message := by
  induction fuel generalizing lexer with
  | zero => cases raised
  | succ fuel induction =>
      rcases lexer with ⟨lexdata, rest, lineno, requested⟩
      cases rest with
      | nil => cases raised
      | cons char rest =>
          simp only [tokenLoop] at raised
          rcases matched : lexeme char rest with ⟨kind, remaining⟩
          rw [matched] at raised
          cases kind with
          | token token => cases raised
          | refused refusal =>
              cases raised
              exact lexeme_refused matched
          | ignored => exact induction raised
          | newlines count => exact induction raised
          | depth limit => exact induction raised

theorem tokens_error {lexer : Lexer} {error : PyError} (ending : lexer.tokens.2 = some error) :
    ∃ message, error = .valueError message := by
  suffices general : ∀ (fuel : Nat) (lexer : Lexer),
      (lexer.tokensLoop fuel).2 = some error → ∃ message, error = .valueError message from
    general _ lexer ending
  intro fuel
  induction fuel with
  | zero => exact fun _ ending => nomatch ending
  | succ fuel induction =>
      intro lexer ending
      rcases asked : lexer.token with ⟨result, after⟩
      simp only [tokensLoop, asked] at ending
      rcases result with raised | none | token
      · cases ending
        exact tokenLoop_error asked
      · cases ending
      · exact induction after ending

theorem pull_lexdata (count : Nat) (lexer : Lexer) :
    (lexer.pull count).lexdata = lexer.lexdata := by
  induction count generalizing lexer with
  | zero => rfl
  | succ count induction => exact (induction _).trans lexer.token_advances.lexdata

/-! ## The line counter does not influence the tokens -/

def SamePlace (left right : Lexer) : Prop :=
  left.lexdata = right.lexdata ∧ left.rest = right.rest

/-- Two answers of `token` that differ in line numbers only. -/
inductive SameToken :
    Except PyError (Option LexToken) → Except PyError (Option LexToken) → Prop
  | raised (error) : SameToken (.error error) (.error error)
  | ended : SameToken (.ok none) (.ok none)
  | found {left right : LexToken} : left.token = right.token →
      left.lexpos = right.lexpos → SameToken (.ok (some left)) (.ok (some right))

theorem tokenLoop_samePlace (fuel : Nat) {left right : Lexer} (same : SamePlace left right) :
    SameToken (left.tokenLoop fuel).1 (right.tokenLoop fuel).1 ∧
      SamePlace (left.tokenLoop fuel).2 (right.tokenLoop fuel).2 := by
  induction fuel generalizing left right with
  | zero => exact ⟨.ended, same⟩
  | succ fuel induction =>
      rcases left with ⟨lexdata, rest, leftLine, leftRequested⟩
      rcases right with ⟨_, _, rightLine, rightRequested⟩
      rcases same with ⟨sameData, sameRest⟩
      cases sameData
      cases sameRest
      cases rest with
      | nil => exact ⟨.ended, rfl, rfl⟩
      | cons char rest =>
          simp only [tokenLoop]
          rcases matched : lexeme char rest with ⟨kind, after⟩
          cases kind with
          | token token => exact ⟨.found rfl rfl, rfl, rfl⟩
          | refused error => exact ⟨.raised error, rfl, rfl⟩
          | ignored => exact induction ⟨rfl, rfl⟩
          | newlines count => exact induction ⟨rfl, rfl⟩
          | depth limit => exact induction ⟨rfl, rfl⟩

/-- The kinds of the tokens and the exception that ends them depend on the text
only. -/
theorem tokens_samePlace {left right : Lexer} (same : SamePlace left right) :
    left.tokens.1.map LexToken.token = right.tokens.1.map LexToken.token ∧
      left.tokens.2 = right.tokens.2 := by
  suffices general : ∀ (fuel : Nat) (left right : Lexer), SamePlace left right →
      (left.tokensLoop fuel).1.map LexToken.token =
        (right.tokensLoop fuel).1.map LexToken.token ∧
      (left.tokensLoop fuel).2 = (right.tokensLoop fuel).2 by
    rw [tokens, tokens, same.2]
    exact general _ left right same
  intro fuel
  induction fuel with
  | zero => exact fun _ _ _ => ⟨rfl, rfl⟩
  | succ fuel induction =>
      intro left right same
      have step := tokenLoop_samePlace left.rest.length same
      have leftToken : left.tokenLoop left.rest.length = left.token := rfl
      have rightToken : right.tokenLoop left.rest.length = right.token := by
        rw [same.2, Lexer.token]
      rw [leftToken, rightToken] at step
      rcases leftAsked : left.token with ⟨leftResult, leftAfter⟩
      rcases rightAsked : right.token with ⟨rightResult, rightAfter⟩
      rw [leftAsked, rightAsked] at step
      rcases step with ⟨sameToken, samePlace⟩
      simp only [tokensLoop, leftAsked, rightAsked]
      cases sameToken with
      | raised error => exact ⟨rfl, rfl⟩
      | ended => exact ⟨rfl, rfl⟩
      | found sameKind _ =>
          have following := induction _ _ samePlace
          exact ⟨by simp [sameKind, following.1], following.2⟩

/-! ## The depths that directives request -/

/-- The left lexer has logged the earlier depths and otherwise what the right one has. -/
structure Continues (earlier : List Nat) (left right : Lexer) : Prop where
  samePlace : SamePlace left right
  requested : left.requested = earlier ++ right.requested

theorem Continues.tokenLoop {earlier : List Nat} {left right : Lexer} (fuel : Nat)
    (continues : Continues earlier left right) :
    Continues earlier (left.tokenLoop fuel).2 (right.tokenLoop fuel).2 := by
  induction fuel generalizing left right with
  | zero => exact continues
  | succ fuel induction =>
      rcases left with ⟨lexdata, rest, leftLine, leftRequested⟩
      rcases right with ⟨_, _, rightLine, rightRequested⟩
      rcases continues with ⟨⟨sameData, sameRest⟩, logged⟩
      cases sameData
      cases sameRest
      cases rest with
      | nil => exact ⟨⟨rfl, rfl⟩, logged⟩
      | cons char rest =>
          simp only [Lexer.tokenLoop]
          rcases matched : lexeme char rest with ⟨kind, after⟩
          cases kind with
          | token token => exact ⟨⟨rfl, rfl⟩, logged⟩
          | refused error => exact ⟨⟨rfl, rfl⟩, logged⟩
          | ignored => exact induction ⟨⟨rfl, rfl⟩, logged⟩
          | newlines count => exact induction ⟨⟨rfl, rfl⟩, logged⟩
          | depth limit =>
              dsimp only at logged
              refine induction ⟨⟨rfl, rfl⟩, ?_⟩
              simp [logged]

theorem Continues.pull {earlier : List Nat} {left right : Lexer} (count : Nat)
    (continues : Continues earlier left right) :
    Continues earlier (left.pull count) (right.pull count) := by
  induction count generalizing left right with
  | zero => exact continues
  | succ count induction =>
      have same : left.rest.length = right.rest.length := by rw [continues.samePlace.2]
      have moved := continues.tokenLoop left.rest.length
      rw [Lexer.pull, Lexer.pull, Lexer.token, Lexer.token, ← same]
      exact induction moved

end Lexer

/-- The depths that the directives of a text request up to the token of this index, which the
parser has as its lookahead. -/
def requestsUntil (code : String) (index : Nat) : List Nat :=
  ((Lexer.initial.input code.toList).pull (index + 1)).requested

theorem Lexer.requested_pull (lexer : Lexer) (code : String) (index : Nat) :
    ((lexer.input code.toList).pull (index + 1)).requested =
      lexer.requested ++ requestsUntil code index := by
  have start : Continues lexer.requested (lexer.input code.toList)
      (Lexer.initial.input code.toList) := ⟨⟨rfl, rfl⟩, (List.append_nil _).symm⟩
  exact (start.pull (index + 1)).requested

end EventPipeline.Parser
