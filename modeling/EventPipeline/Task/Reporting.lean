import EventPipeline.Task.Acceptance
import EventPipeline.Task.BuilderRecursion

/-! # Which scripts are reported

For every text, in a process that has parsed others before: whether the builder returns a tree or
raises a `SyntaxError`, and when another exception leaves it. The condition is on the tokens, the
line counter and the recursion limit.
-/

namespace EventPipeline

open EventPipeline.Parser EventPipeline.ShiftReduce

/-! ## The condition on the text -/

/-- The exception with which `int` refuses a number of the text. -/
def intRefusal (code : String) : Option PyError :=
  (Lexer.initial.input code.toList).tokens.2

/-- The first token that no script goes on with. -/
def StopsAt (lexer : Lexer) (code : String) (offending : LexToken) : Prop :=
  ∃ before after, (lexer.input code.toList).tokens.1 = before ++ offending :: after ∧
    Begins (before.map LexToken.token) ∧ ¬Begins ((before ++ [offending]).map LexToken.token)

/-- Counting tokens from the start of the text, the one with the number of the offending token's
line exists and is no number. -/
def Located (code : String) (offending : LexToken) : Prop :=
  ∃ context, (tokensOf code)[offending.lineno - 1]? = some context ∧ context.isNumber = false

/-- A rule refuses a number, or the parser stops at a token that can be located, or a script of the
grammar is complete and buildable or breaks off. -/
def Reported (lexer : Lexer) (code : String) : Prop :=
  Refuses (tokensOf code) (intRefusal code) ∨
  (∃ offending, StopsAt lexer code offending ∧ Located code offending) ∨
  (Begins (tokensOf code) ∧ intRefusal code = none ∧
    ∀ chain : Chain, tokensOf code = chain.tokens → chain.Buildable)

/-! ## What the parser raises -/

theorem pError_isSyntaxError_iff {code : String} {lexer : Lexer} (offending : LexToken)
    (text : lexer.lexdata = code.toList) :
    (pError offending lexer).1.IsSyntaxError ↔ Located code offending := by
  have relexed := Lexer.nextAfter_eq (offending.lineno - 1) (lexer.input lexer.lexdata)
  have kinds := (tokens_input lexer code).1
  have ending := @Lexer.tokens_error (lexer.input lexer.lexdata)
  rw [← text] at kinds
  simp only [Located, ← kinds, List.getElem?_map]
  rcases asked : (lexer.input lexer.lexdata).nextAfter (offending.lineno - 1) with
    ⟨result, after⟩
  rw [asked] at relexed
  simp only [pError, asked]
  rcases found : (lexer.input lexer.lexdata).tokens.1[offending.lineno - 1]? with
    _ | ⟨token, lineno, lexpos⟩
  · rw [found] at relexed
    subst relexed
    rcases ended : (lexer.input lexer.lexdata).tokens.2 with _ | error
    · simp [PyError.IsSyntaxError]
    · rcases ending ended with ⟨message, rfl⟩
      simp [PyError.IsSyntaxError]
  · rw [found] at relexed
    subst relexed
    cases token <;> simp [PyError.IsSyntaxError, Token.isNumber]

theorem Parser.Chain.ast_eq {chain other : Chain} (same : chain.tokens = other.tokens) :
    chain.ast = other.ast := by
  let written : List LexToken := chain.tokens.map fun token => ⟨token, 0, 0⟩
  have yields : written.map LexToken.token = chain.tokens := by simp [written, Function.comp_def]
  have accepted := parseTokens_of_chain chain yields
  rw [parseTokens_of_chain other (yields.trans same)] at accepted
  exact (Value.ast.inj (Outcome.accepted.inj accepted)).symm

theorem Parser.Chain.buildable_of_tokens {chain other : Chain} (same : chain.tokens = other.tokens)
    (buildable : chain.Buildable) : other.Buildable := by
  have alike := Chain.ast_eq same
  rcases other.builds .empty with ⟨built, _⟩ | ⟨_, message, raised⟩
  · exact built
  · rcases chain.builds .empty with ⟨_, heap, first, rest, parsed, _⟩ | ⟨failing, _⟩
    · rw [alike, raised] at parsed
      cases parsed
    · exact absurd buildable failing

theorem begins_of_script {code : String} {chain : Chain} (yields : tokensOf code = chain.tokens) :
    Begins (tokensOf code) :=
  ⟨chain, yields ▸ List.prefix_rfl⟩

theorem not_stopsAt_of_begins {lexer : Lexer} {code : String} (begins : Begins (tokensOf code))
    (offending : LexToken) : ¬StopsAt lexer code offending := by
  rintro ⟨before, after, listed, _, stops⟩
  rw [← (tokens_input lexer code).1, listed] at begins
  apply stops
  have reordered : (before ++ offending :: after).map LexToken.token =
      (before ++ [offending]).map LexToken.token ++ after.map LexToken.token := by simp
  rw [reordered] at begins
  exact begins.of_append

theorem StopsAt.unique {lexer : Lexer} {code : String} {offending other : LexToken}
    (stops : StopsAt lexer code offending) (otherStops : StopsAt lexer code other) :
    offending = other := by
  have first : ∀ {before after before' after' : List LexToken} {token token' : LexToken},
      before ++ token :: after = before' ++ token' :: after' →
      ¬Begins ((before ++ [token]).map LexToken.token) → Begins (before'.map LexToken.token) →
      before'.length ≤ before.length := by
    intro before after before' after' token token' same refused begins
    refine Nat.le_of_not_lt fun longer => refused ?_
    rcases List.append_eq_append_iff.mp same with ⟨more, shown, rest⟩ | ⟨more, shown, _⟩
    · cases more with
      | nil => simp [shown] at longer
      | cons head more =>
          rw [(List.cons.inj rest).1]
          rw [shown, List.append_cons, List.map_append] at begins
          exact begins.of_append
    · rw [shown, List.length_append] at longer
      omega
  rcases stops with ⟨before, after, listed, begins, refused⟩
  rcases otherStops with ⟨before', after', listed', begins', refused'⟩
  have same := listed.symm.trans listed'
  have length : before.length = before'.length :=
    Nat.le_antisymm (first same.symm refused' begins) (first same refused begins')
  exact (List.cons.inj (List.append_inj same length).2).1

section Outcomes

variable {lexer : Lexer} {code : String}

theorem verdict_parseOutcome (lexer : Lexer) (code : String) :
    Verdict (lexer.input code.toList).tokens.1 (intRefusal code) (parseOutcome lexer code) := by
  rw [intRefusal, ← (tokens_input lexer code).2]
  exact parseTokens_verdict _ _

theorem not_script_of_outcome (lexer : Lexer)
    (other : ∀ ast : Ast, parseOutcome lexer code ≠ .accepted (.ast ast))
    (ended : intRefusal code = none) (chain : Chain) : tokensOf code ≠ chain.tokens :=
  fun yields => other chain.ast
    ((parseOutcome_accepted_iff lexer code _).mpr ⟨ended, chain, rfl, yields⟩)

theorem reported_of_accepted {value : Value} (outcome : parseOutcome lexer code = .accepted value) :
    ∃ chain : Chain, value = .ast chain.ast ∧ tokensOf code = chain.tokens ∧
      intRefusal code = none ∧ (Reported lexer code ↔ chain.Buildable) := by
  rcases (parseOutcome_accepted_iff lexer code value).mp outcome with ⟨ended, chain, rfl, yields⟩
  have verdict := verdict_parseOutcome lexer code
  rw [outcome, Verdict, (tokens_input lexer code).1] at verdict
  refine ⟨chain, rfl, yields, ended, ?_, fun buildable => ?_⟩
  · rintro (refuses | ⟨offending, stops, _⟩ | ⟨_, _, buildable⟩)
    · exact absurd refuses verdict.1
    · exact absurd stops (not_stopsAt_of_begins (begins_of_script yields) offending)
    · exact buildable chain yields
  · exact .inr (.inr ⟨begins_of_script yields, ended, fun other otherYields =>
      Chain.buildable_of_tokens (yields.symm.trans otherYields) buildable⟩)

theorem reported_of_rejected {remaining : List LexToken}
    (outcome : parseOutcome lexer code = .rejected remaining) :
    ∃ error, (pointyParser lexer code).1 = .error error ∧
      (error.IsSyntaxError ↔ Reported lexer code) := by
  have verdict := verdict_parseOutcome lexer code
  rw [outcome, Verdict, (tokens_input lexer code).1] at verdict
  rcases verdict with ⟨refuses, ended, shifted, listed, begins, stops⟩
  have stopped := outcome
  simp only [parseOutcome] at stopped
  cases remaining with
  | nil =>
      rw [List.append_nil] at listed
      rw [← listed, (tokens_input lexer code).1] at begins
      have other := not_script_of_outcome lexer
        (fun ast accepted => by rw [outcome] at accepted; cases accepted) (ended rfl)
      have reported : Reported lexer code :=
        .inr (.inr ⟨begins, ended rfl, fun chain yields => absurd yields (other chain)⟩)
      refine ⟨_, by simp only [pointyParser, stopped]; rfl, ?_⟩
      exact iff_of_true trivial reported
  | cons offending rest =>
      refine ⟨_, by simp only [pointyParser, stopped]; rfl, ?_⟩
      have stopsAt : StopsAt lexer code offending :=
        ⟨shifted, rest, listed, begins, stops offending rest rfl⟩
      rw [pError_isSyntaxError_iff offending (Lexer.pull_lexdata _ _)]
      constructor
      · exact fun located => .inr (.inl ⟨offending, stopsAt, located⟩)
      · rintro (refused | ⟨found, otherStops, located⟩ | ⟨all, _⟩)
        · exact absurd refused refuses
        · exact stopsAt.unique otherStops ▸ located
        · exact absurd stopsAt (not_stopsAt_of_begins all offending)

theorem reported_of_raised {error : PyError} {remaining : List LexToken}
    (outcome : parseOutcome lexer code = .raised error remaining) :
    ∃ error, (pointyParser lexer code).1 = .error error ∧
      (error.IsSyntaxError ↔ Reported lexer code) := by
  have verdict := verdict_parseOutcome lexer code
  rw [outcome, Verdict, (tokens_input lexer code).1] at verdict
  have stopped := outcome
  simp only [parseOutcome] at stopped
  rcases verdict with ⟨refuses, message, rfl⟩ | ⟨refuses, begins, ended⟩
  · refine ⟨_, by simp only [pointyParser, stopped]; rfl, ?_⟩
    exact iff_of_true trivial (.inl refuses)
  · have numbers := (tokens_input lexer code).2.trans ended
    rcases Lexer.tokens_error numbers with ⟨message, rfl⟩
    refine ⟨_, by simp only [pointyParser, stopped]; rfl, iff_of_false id ?_⟩
    rintro (refused | ⟨offending, stops, _⟩ | ⟨_, none, _⟩)
    · exact refuses refused
    · exact not_stopsAt_of_begins begins offending stops
    · rw [ended] at none
      cases none

end Outcomes

/-- Without a limit: a script of the grammar is parsed, and the exception for any other text is a
`SyntaxError` exactly if the text is reported. -/
theorem pointyParser_reports (lexer : Lexer) (code : String) :
    (∃ chain : Chain, parseOutcome lexer code = .accepted (.ast chain.ast) ∧
      tokensOf code = chain.tokens ∧ intRefusal code = none ∧
      (Reported lexer code ↔ chain.Buildable)) ∨
    ((intRefusal code = none → ∀ chain : Chain, tokensOf code ≠ chain.tokens) ∧
      ∃ error, (pointyParser lexer code).1 = .error error ∧
        (error.IsSyntaxError ↔ Reported lexer code)) := by
  have verdict := verdict_parseOutcome lexer code
  rcases outcome : parseOutcome lexer code with value | remaining | ⟨error, remaining⟩ | _ | _
  · rcases reported_of_accepted outcome with ⟨chain, rfl, yields, ended, reported⟩
    exact .inl ⟨chain, rfl, yields, ended, reported⟩
  · refine .inr ⟨not_script_of_outcome lexer fun ast accepted => ?_, reported_of_rejected outcome⟩
    rw [outcome] at accepted
    cases accepted
  · refine .inr ⟨not_script_of_outcome lexer fun ast accepted => ?_, reported_of_raised outcome⟩
    rw [outcome] at accepted
    cases accepted
  · rw [outcome] at verdict
    exact verdict.elim
  · rw [outcome] at verdict
    exact verdict.elim

/-! ## Under the recursion limit -/

/-- The script fits under the limit that is in force: each group when the parser completes it, and
the syntax tree when the parser is through. -/
structure FitsLimit (interpreter : PyInterpreter) (lexer : Lexer) (code : String) : Prop where
  groups : GroupsFit (fun shifted => interpreter.parserRoom
    (lexer.requested ++ requestsUntil code shifted)) (tokensOf code)
  tree : intRefusal code = none → ∀ chain : Chain, tokensOf code = chain.tokens →
    parseCalls chain.ast ≤ interpreter.builderRoom
      (lexer.requested ++ requestsUntil code (tokensOf code).length)

theorem fitsLimit_of_length {interpreter : PyInterpreter} {lexer : Lexer} {code : String}
    (groups : ∀ shifted ≤ (tokensOf code).length, (tokensOf code).length ≤
      interpreter.parserRoom (lexer.requested ++ requestsUntil code shifted))
    (tree : (tokensOf code).length ≤ interpreter.builderRoom
      (lexer.requested ++ requestsUntil code (tokensOf code).length)) :
    FitsLimit interpreter lexer code where
  groups := groupsFit_of_length groups
  tree _ chain yields := by
    have calls := chain.parseCalls_le
    rw [← yields] at calls
    exact Nat.le_trans calls tree

theorem pointyParserWithin_cases (interpreter : PyInterpreter) (lexer : Lexer) (code : String) :
    (GroupsFit (fun shifted => interpreter.parserRoom
        (lexer.requested ++ requestsUntil code shifted)) (tokensOf code) ∧
      pointyParserWithin interpreter lexer code = pointyParser lexer code) ∨
    (¬GroupsFit (fun shifted => interpreter.parserRoom
        (lexer.requested ++ requestsUntil code shifted)) (tokensOf code) ∧
      (pointyParserWithin interpreter lexer code).1 = .error .recursionError) := by
  have room : (fun remaining => interpreter.parserRoom
      ((lexer.input code.toList).readTo remaining).requested) =
      fun remaining => interpreter.parserRoom (lexer.requested ++
        requestsUntil code ((lexer.input code.toList).tokens.1.length - remaining.length)) := by
    funext remaining
    rw [Lexer.readTo, Lexer.requested_pull]
  have cases := parseTokensWithin_cases (fun shifted => interpreter.parserRoom
    (lexer.requested ++ requestsUntil code shifted)) (lexer.input code.toList).tokens.1
    (lexer.input code.toList).tokens.2
  rw [(tokens_input lexer code).1] at cases
  rcases cases with ⟨fit, same⟩ | ⟨deep, remaining, raised⟩
  · refine .inl ⟨fit, ?_⟩
    simp only [pointyParserWithin, pointyParser, room, same]
  · refine .inr ⟨deep, ?_⟩
    simp only [pointyParserWithin, room, raised]
    rfl

theorem requested_of_accepted {lexer : Lexer} {code : String} {chain : Chain}
    (accepted : parseOutcome lexer code = .accepted (.ast chain.ast)) :
    (pointyParser lexer code).2.requested =
      lexer.requested ++ requestsUntil code (tokensOf code).length := by
  have length : (lexer.input code.toList).tokens.1.length = (tokensOf code).length := by
    rw [← (tokens_input lexer code).1, List.length_map]
  simp only [parseOutcome] at accepted
  simp only [pointyParser, accepted, conclude]
  rw [Lexer.readTo, List.length_nil, Nat.sub_zero, Lexer.requested_pull, length]

theorem buildPipelineWithin_of_fitsLimit {interpreter : PyInterpreter} {lexer : Lexer} {code : String}
    (fits : FitsLimit interpreter lexer code) :
    buildPipelineWithin interpreter lexer code = buildPipelineFromExecutionCode lexer code := by
  by_cases empty : code = ""
  · rw [buildPipelineWithin, buildPipelineFromExecutionCode, if_pos empty, if_pos empty]
  rw [buildPipelineWithin, buildPipelineFromExecutionCode, if_neg empty, if_neg empty]
  rcases pointyParserWithin_cases interpreter lexer code with ⟨_, same⟩ | ⟨deep, _⟩
  · rw [same]
    rcases pointyParser_reports lexer code with
      ⟨chain, accepted, yields, ended, _⟩ | ⟨_, error, raised, _⟩
    · have enough := fits.tree ended chain yields
      rcases parseAstWithin_agrees chain.ast (interpreter.builderRoom
        (lexer.requested ++ requestsUntil code (tokensOf code).length)) .empty with
        ⟨_, alike⟩ | ⟨short, _⟩
      · rcases built : parseAst chain.ast .empty with error | ⟨tail, heap⟩
        · simp only [pointyParser_accepted accepted, requested_of_accepted accepted, bind,
            Except.bind, alike, built]
        · cases tail <;>
            simp only [pointyParser_accepted accepted, requested_of_accepted accepted, bind,
              Except.bind, alike, built]
      · omega
    · simp only [raised, bind, Except.bind]
  · exact absurd fits.groups deep

theorem raises_of_not_fitsLimit {interpreter : PyInterpreter} {lexer : Lexer} {code : String}
    (nonempty : code ≠ "") (deep : ¬FitsLimit interpreter lexer code) :
    ∃ error, (buildPipelineWithin interpreter lexer code).1 = .error error ∧
      ¬error.IsSyntaxError := by
  rw [buildPipelineWithin, if_neg nonempty]
  rcases pointyParserWithin_cases interpreter lexer code with ⟨groups, same⟩ | ⟨_, raised⟩
  · have tree : ∃ chain : Chain, intRefusal code = none ∧ tokensOf code = chain.tokens ∧
        interpreter.builderRoom (lexer.requested ++ requestsUntil code (tokensOf code).length) <
          parseCalls chain.ast := by
      by_contra none
      exact deep ⟨groups, fun ended chain yields =>
        Nat.le_of_not_lt fun short => none ⟨chain, ended, yields, short⟩⟩
    rcases tree with ⟨chain, ended, yields, short⟩
    have accepted : parseOutcome lexer code = .accepted (.ast chain.ast) :=
      (parseOutcome_accepted_iff lexer code _).mpr ⟨ended, chain, rfl, yields⟩
    rw [same]
    simp only [pointyParser_accepted accepted, requested_of_accepted accepted, bind, Except.bind]
    rcases parseAstWithin_agrees chain.ast (interpreter.builderRoom
      (lexer.requested ++ requestsUntil code (tokensOf code).length)) .empty with
      ⟨enough, _⟩ | ⟨_, overflows | ⟨error, unlimited, raised⟩⟩
    · omega
    · exact ⟨.recursionError, by rw [overflows], id⟩
    · rcases chain.builds .empty with ⟨_, heap, first, rest, parsed, _⟩ | ⟨_, message, failed⟩
      · rw [unlimited] at parsed
        cases parsed
      · rw [unlimited] at failed
        cases failed
        exact ⟨_, by rw [raised], id⟩
  · exact ⟨.recursionError, by simp only [raised, bind, Except.bind], id⟩

/-! ## Reports -/

/-- The text is accepted by a process whose lexer has read other texts before. -/
def AcceptedWithin (interpreter : PyInterpreter) (lexer : Lexer) (code : String) : Prop :=
  ∃ built, (buildPipelineWithin interpreter lexer code).1 = .ok built

/-- The root of a task tree is returned or a `SyntaxError` is raised. -/
def ReturnsOrReports (interpreter : PyInterpreter) (lexer : Lexer) (code : String) : Prop :=
  (∃ tree heap, (buildPipelineWithin interpreter lexer code).1 = .ok (TaskTree.id tree, heap) ∧
    TaskTree.Stored heap none tree ∧ tree.ids.Nodup) ∨
  ∃ error, (buildPipelineWithin interpreter lexer code).1 = .error error ∧ error.IsSyntaxError

/-- The lexer object after the scripts of a process so far. -/
def lexerAfter (interpreter : PyInterpreter) (history : List String) : Lexer :=
  history.foldl (fun lexer script => (buildPipelineWithin interpreter lexer script).2)
    Lexer.initial

/-- A script of the grammar that the builder can build. -/
def WellFormed (code : String) : Prop :=
  intRefusal code = none ∧ ∃ chain : Chain, tokensOf code = chain.tokens ∧ chain.Buildable

theorem acceptedWithin_iff (interpreter : PyInterpreter) (lexer : Lexer) {code : String}
    (nonempty : code ≠ "") :
    AcceptedWithin interpreter lexer code ↔ WellFormed code ∧ FitsLimit interpreter lexer code := by
  by_cases fits : FitsLimit interpreter lexer code
  · rw [AcceptedWithin, buildPipelineWithin_of_fitsLimit fits, and_iff_left fits]
    exact accepted_iff lexer nonempty
  · rcases raises_of_not_fitsLimit nonempty fits with ⟨error, raised, _⟩
    refine iff_of_false ?_ fun both => fits both.2
    rintro ⟨built, accepted⟩
    rw [raised] at accepted
    cases accepted

theorem returnsOrReports_iff_reported {interpreter : PyInterpreter} {lexer : Lexer} {code : String}
    (nonempty : code ≠ "") (fits : FitsLimit interpreter lexer code) :
    ReturnsOrReports interpreter lexer code ↔ Reported lexer code := by
  rw [ReturnsOrReports, buildPipelineWithin_of_fitsLimit fits]
  rcases pointyParser_reports lexer code with
    ⟨chain, accepted, _, _, reported⟩ | ⟨_, error, raised, reported⟩
  · rw [reported]
    rcases build_of_accepted nonempty accepted with
      ⟨buildable, heap, first, rest, built, _, owned⟩ | ⟨failing, message, raised⟩
    · refine iff_of_true (.inl ⟨close first rest, heap, ?_, owned.stored, owned.nodup⟩) buildable
      rw [close_id]
      exact built
    · refine iff_of_false ?_ failing
      rintro (⟨tree, heap, built, _⟩ | ⟨other, otherRaised, syntaxError⟩)
      · rw [raised] at built
        cases built
      · rw [raised] at otherRaised
        cases otherRaised
        exact syntaxError
  · have same := build_of_raised nonempty raised
    rw [← reported]
    constructor
    · rintro (⟨tree, heap, built, _⟩ | ⟨other, otherRaised, syntaxError⟩)
      · rw [same] at built
        cases built
      · rw [same] at otherRaised
        cases otherRaised
        exact syntaxError
    · exact fun syntaxError => .inr ⟨error, same, syntaxError⟩

/-- An interpreter with the default limit that takes every depth above the frames in use. -/
def standardInterpreter : PyInterpreter where
  recursionLimit := 1000
  accepts limit := 20 < limit
  parserFrames := 20
  builderFrames := 10

end EventPipeline
