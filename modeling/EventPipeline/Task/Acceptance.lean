import EventPipeline.Parser.Soundness
import EventPipeline.Task.BuilderCorrectness

/-! # Scripts from text to task tree

What `build_pipeline_from_execution_code` does with every text: which texts it
accepts, what it has built then, and which exceptions leave it otherwise.
-/

namespace EventPipeline

open EventPipeline.Parser EventPipeline.ShiftReduce

/-- The tokens of a text. They are the same whatever was lexed before. -/
def tokensOf (code : String) : List Token :=
  (Lexer.initial.input code.toList).tokens.1.map LexToken.token

theorem tokens_input (lexer : Lexer) (code : String) :
    (lexer.input code.toList).tokens.1.map LexToken.token = tokensOf code ∧
      (lexer.input code.toList).tokens.2 =
        (Lexer.initial.input code.toList).tokens.2 :=
  Lexer.tokens_samePlace ⟨rfl, rfl⟩

/-- What `pointy_parser` makes of the tokens of a text. -/
def parseOutcome (lexer : Lexer) (code : String) :
    ShiftReduce.Outcome LexToken Value PyError :=
  let listed := (lexer.input code.toList).tokens
  parseTokens listed.1 listed.2

theorem pointyParser_accepted {lexer : Lexer} {code : String} {chain : Chain}
    (accepted : parseOutcome lexer code = .accepted (.ast chain.ast)) :
    (pointyParser lexer code).1 = .ok chain.ast := by
  simp only [parseOutcome] at accepted
  simp only [pointyParser, accepted, conclude]

theorem build_of_accepted {lexer : Lexer} {code : String} {chain : Chain}
    (nonempty : code ≠ "") (accepted : parseOutcome lexer code = .accepted (.ast chain.ast)) :
    (chain.Buildable ∧ ∃ heap first rest,
      (buildPipelineFromExecutionCode lexer code).1 = .ok (first.id, heap) ∧
      chain.Denotes first rest ∧ Owned .empty heap (close first rest)) ∨
    (¬chain.Buildable ∧ ∃ message,
      (buildPipelineFromExecutionCode lexer code).1 = .error (.attributeError message)) := by
  have parsed := pointyParser_accepted accepted
  rcases chain.builds .empty with
    ⟨buildable, heap, first, rest, built, denotes, spine⟩ | ⟨failing, message, raised⟩
  · refine .inl ⟨buildable, heap, first, rest, ?_, denotes, spine.tree⟩
    have rooted := spine.tree.rootOf_eq (lastOf_id_mem_close first rest)
    simp [buildPipelineFromExecutionCode, nonempty, parsed, built, rooted, bind, Except.bind,
      pure, Except.pure]
  · refine .inr ⟨failing, message, ?_⟩
    simp [buildPipelineFromExecutionCode, nonempty, parsed, raised, bind, Except.bind]

theorem build_of_raised {lexer : Lexer} {code : String} {error : PyError}
    (nonempty : code ≠ "") (raised : (pointyParser lexer code).1 = .error error) :
    (buildPipelineFromExecutionCode lexer code).1 = .error error := by
  simp [buildPipelineFromExecutionCode, nonempty, raised, bind, Except.bind]

/-- The text is accepted, in a process that has lexed other texts before. -/
def Accepted (lexer : Lexer) (code : String) : Prop :=
  ∃ built, (buildPipelineFromExecutionCode lexer code).1 = .ok built

theorem parseOutcome_accepted_iff (lexer : Lexer) (code : String) (value : Value) :
    parseOutcome lexer code = .accepted value ↔
      (Lexer.initial.input code.toList).tokens.2 = none ∧
        ∃ chain : Chain, value = .ast chain.ast ∧ tokensOf code = chain.tokens := by
  have kinds := tokens_input lexer code
  rw [parseOutcome, parseTokens_accepted_iff, kinds.1, kinds.2]

theorem pointyParser_cases (lexer : Lexer) (code : String) :
    (∃ chain : Chain, parseOutcome lexer code = .accepted (.ast chain.ast) ∧
      tokensOf code = chain.tokens) ∨
    ∃ error, (pointyParser lexer code).1 = .error error := by
  have ends : Parser.Ends (lexer.input code.toList).tokens.1
      (lexer.input code.toList).tokens.2 (parseOutcome lexer code) := parseTokens_ends _ _
  rcases outcome : parseOutcome lexer code with value | remaining | ⟨error, remaining⟩ | _ | _
  · rcases (parseOutcome_accepted_iff lexer code value).mp outcome with ⟨_, chain, rfl, yields⟩
    exact .inl ⟨chain, rfl, yields⟩
  · have stopped := outcome
    simp only [parseOutcome] at stopped
    cases remaining <;> exact .inr ⟨_, by simp only [pointyParser, stopped]; rfl⟩
  · have stopped := outcome
    simp only [parseOutcome] at stopped
    cases error <;> exact .inr ⟨_, by simp only [pointyParser, stopped]; rfl⟩
  · rw [outcome] at ends
    exact ends.elim
  · rw [outcome] at ends
    exact ends.elim

theorem build_cases (lexer : Lexer) {code : String} (nonempty : code ≠ "") :
    (∃ chain heap first rest,
      (buildPipelineFromExecutionCode lexer code).1 = .ok (TaskTree.id first, heap) ∧
      tokensOf code = Chain.tokens chain ∧ chain.Buildable ∧ chain.Denotes first rest ∧
      Owned .empty heap (close first rest)) ∨
    ∃ error, (buildPipelineFromExecutionCode lexer code).1 = .error error := by
  rcases pointyParser_cases lexer code with ⟨chain, accepted, yields⟩ | ⟨error, raised⟩
  · rcases build_of_accepted nonempty accepted with
      ⟨buildable, heap, first, rest, built, denotes, owned⟩ | ⟨_, message, raised⟩
    · exact .inl ⟨chain, heap, first, rest, built, yields, buildable, denotes, owned⟩
    · exact .inr ⟨_, raised⟩
  · exact .inr ⟨error, build_of_raised nonempty raised⟩

/-- A text that the builder has accepted, with what it has built. -/
structure AcceptedPipeline where
  lexer : Lexer
  code : String
  root : TaskId
  heap : Heap
  accepted : (buildPipelineFromExecutionCode lexer code).1 = .ok (root, heap)

theorem AcceptedPipeline.denoted (pipeline : AcceptedPipeline) :
    ∃ chain first rest, tokensOf pipeline.code = Chain.tokens chain ∧
      chain.Buildable ∧ chain.Denotes first rest ∧
      Owned .empty pipeline.heap (close first rest) ∧ pipeline.root = first.id := by
  rcases pipeline with ⟨lexer, code, root, heap, accepted⟩
  have nonempty : code ≠ "" := by
    rintro rfl
    cases accepted
  rcases build_cases lexer nonempty with
    ⟨chain, built, first, rest, same, yields, buildable, denotes, owned⟩ | ⟨error, raised⟩
  · rw [accepted] at same
    cases same
    exact ⟨chain, first, rest, yields, buildable, denotes, owned, rfl⟩
  · rw [accepted] at raised
    cases raised

theorem accepted_iff (lexer : Lexer) {code : String} (nonempty : code ≠ "") :
    Accepted lexer code ↔ (Lexer.initial.input code.toList).tokens.2 = none ∧
      ∃ chain : Chain, tokensOf code = chain.tokens ∧ chain.Buildable := by
  constructor
  · rintro ⟨built, accepted⟩
    rcases pointyParser_cases lexer code with ⟨chain, parsed, yields⟩ | ⟨error, raised⟩
    · refine ⟨((parseOutcome_accepted_iff lexer code _).mp parsed).1, chain, yields, ?_⟩
      rcases build_of_accepted nonempty parsed with ⟨buildable, _⟩ | ⟨_, message, raised⟩
      · exact buildable
      · rw [raised] at accepted
        cases accepted
    · rw [build_of_raised nonempty raised] at accepted
      cases accepted
  · rintro ⟨ended, chain, yields, buildable⟩
    have parsed : parseOutcome lexer code = .accepted (.ast chain.ast) :=
      (parseOutcome_accepted_iff lexer code _).mpr ⟨ended, chain, rfl, yields⟩
    rcases build_of_accepted nonempty parsed with ⟨_, heap, first, rest, built, _⟩ | ⟨failing, _⟩
    · exact ⟨_, built⟩
    · exact False.elim (failing buildable)

end EventPipeline
