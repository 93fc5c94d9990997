import Mathlib.Logic.Relation

/-! # Recursive procedures as machines

A procedure ends its body, calls itself as the last thing it does, or calls
itself inside a loop that it resumes afterwards. A run of it with enough fuel is
a run of a machine that keeps the loops to be resumed on a stack, so that
invariants, termination and statements about every state of a run are proved
one step at a time.
-/

namespace EventPipeline.Procedure

variable {Call State Error : Type}

/-- How the body of a call ends. After `nest` the procedure runs `inner`, and
when that has returned it goes on with `outer`. -/
inductive Ending (Call State Error : Type)
  | done (state : State)
  | raised (error : Error)
  | jump (call : Call) (state : State)
  | nest (inner outer : Call) (state : State)

def run (body : Call → State → Ending Call State Error) :
    Nat → Call → State → Option (Except Error State)
  | 0, _, _ => none
  | fuel + 1, call, state =>
      match body call state with
      | .done state => some (.ok state)
      | .raised error => some (.error error)
      | .jump next state => run body fuel next state
      | .nest inner outer state =>
          match run body fuel inner state with
          | some (.ok state) => run body fuel outer state
          | other => other

theorem run_add_fuel {body : Call → State → Ending Call State Error} {fuel : Nat}
    {call : Call} {state : State} {result : Except Error State}
    (ran : run body fuel call state = some result) (spare : Nat) :
    run body (fuel + spare) call state = some result := by
  induction fuel generalizing call state result with
  | zero => cases ran
  | succ fuel induction =>
      rw [Nat.add_right_comm]
      simp only [run] at ran ⊢
      rcases ended : body call state with after | error | ⟨next, after⟩ | ⟨inner, outer, after⟩
      · rwa [ended] at ran
      · rwa [ended] at ran
      · rw [ended] at ran
        exact induction ran
      · rw [ended] at ran
        rcases inside : run body fuel inner after with _ | result
        · simp [inside] at ran
        · simp only [inside] at ran
          simp only [induction inside]
          cases result with
          | error error => exact ran
          | ok middle => exact induction ran

/-- `control` is the call to run, or nothing when a call has just returned. -/
structure Config (Call State : Type) where
  control : Option Call
  waiting : List Call
  state : State

inductive Step (body : Call → State → Ending Call State Error) :
    Config Call State → Config Call State → Prop
  | done {call waiting before after} : body call before = .done after →
      Step body ⟨some call, waiting, before⟩ ⟨none, waiting, after⟩
  | jump {call next waiting before after} : body call before = .jump next after →
      Step body ⟨some call, waiting, before⟩ ⟨some next, waiting, after⟩
  | nest {call inner outer waiting before after} :
      body call before = .nest inner outer after →
      Step body ⟨some call, waiting, before⟩ ⟨some inner, outer :: waiting, after⟩
  | resume {call waiting state} :
      Step body ⟨none, call :: waiting, state⟩ ⟨some call, waiting, state⟩

variable {body : Call → State → Ending Call State Error}

abbrev Reaches (body : Call → State → Ending Call State Error) :
    Config Call State → Config Call State → Prop :=
  Relation.ReflTransGen (Step body)

theorem run_reaches {fuel : Nat} {call : Call} {state final : State} (waiting : List Call)
    (returned : run body fuel call state = some (.ok final)) :
    Reaches body ⟨some call, waiting, state⟩ ⟨none, waiting, final⟩ := by
  induction fuel generalizing call state final waiting with
  | zero => cases returned
  | succ fuel induction =>
      simp only [run] at returned
      rcases ended : body call state with after | error | ⟨next, after⟩ | ⟨inner, outer, after⟩
      · rw [ended] at returned
        cases returned
        exact .single (.done ended)
      · rw [ended] at returned
        cases returned
      · rw [ended] at returned
        exact .head (.jump ended) (induction waiting returned)
      · rw [ended] at returned
        rcases inside : run body fuel inner after with _ | error | middle
        · simp [inside] at returned
        · simp [inside] at returned
        · simp only [inside] at returned
          have first := induction (outer :: waiting) inside
          have second := induction waiting returned
          exact .head (.nest ended) (first.trans (.head .resume second))

theorem reaches_invariant {Inv : Config Call State → Prop}
    (preserved : ∀ {before after}, Inv before → Step body before after → Inv after)
    {start config : Config Call State} (initial : Inv start)
    (reached : Reaches body start config) : Inv config := by
  induction reached with
  | refl => exact initial
  | tail _ step induction => exact preserved induction step

theorem run_total {Inv : Config Call State → Prop} {measure : Config Call State → Nat}
    (preserved : ∀ {before after}, Inv before → Step body before after → Inv after)
    (decreases : ∀ {before after}, Inv before → Step body before after →
      measure after < measure before)
    (safe : ∀ {call waiting state error}, Inv ⟨some call, waiting, state⟩ →
      body call state ≠ .raised error)
    {fuel : Nat} {call : Call} {waiting : List Call} {state : State}
    (initial : Inv ⟨some call, waiting, state⟩)
    (enough : measure ⟨some call, waiting, state⟩ < fuel) :
    ∃ final, run body fuel call state = some (.ok final) := by
  induction fuel generalizing call waiting state with
  | zero => exact absurd enough (Nat.not_lt_zero _)
  | succ fuel induction =>
      have onward : ∀ {next}, Step body ⟨some call, waiting, state⟩ next →
          Inv next ∧ measure next < fuel := fun step =>
        ⟨preserved initial step, Nat.lt_of_lt_of_le (decreases initial step)
          (Nat.le_of_lt_succ enough)⟩
      rcases ended : body call state with after | error | ⟨next, after⟩ | ⟨inner, outer, after⟩
      · exact ⟨after, by simp [run, ended]⟩
      · exact absurd ended (safe initial)
      · rcases onward (.jump ended) with ⟨invariant, bound⟩
        rcases induction invariant bound with ⟨final, returned⟩
        exact ⟨final, by simp [run, ended, returned]⟩
      · rcases onward (.nest ended) with ⟨invariant, bound⟩
        rcases induction invariant bound with ⟨middle, inside⟩
        have resumed : Inv ⟨some outer, waiting, middle⟩ ∧
            measure ⟨some outer, waiting, middle⟩ < fuel := by
          have reached := (run_reaches (outer :: waiting) inside).tail .resume
          have kept : ∀ {before after}, Inv before ∧ measure before < fuel →
              Step body before after → Inv after ∧ measure after < fuel :=
            fun held step => ⟨preserved held.1 step,
              Nat.lt_trans (decreases held.1 step) held.2⟩
          exact reaches_invariant kept ⟨invariant, bound⟩ reached
        rcases induction resumed.1 resumed.2 with ⟨final, returned⟩
        exact ⟨final, by simp [run, ended, inside, returned]⟩

theorem step_rightUnique : Relator.RightUnique (Step body) := by
  intro before first second left right
  cases left with
  | done ended => cases right <;> simp_all
  | jump ended => cases right <;> simp_all
  | nest ended => cases right <;> simp_all
  | resume =>
      cases right
      rfl

theorem reaches_final {start config : Config Call State} {final : State}
    (ended : Reaches body start ⟨none, [], final⟩) (reached : Reaches body start config) :
    Reaches body config ⟨none, [], final⟩ := by
  rcases Relation.ReflTransGen.total_of_right_unique step_rightUnique reached ended with
    onward | backward
  · exact onward
  · cases backward.cases_head with
    | inl same => exact same ▸ .refl
    | inr moved =>
        rcases moved with ⟨next, step, _⟩
        cases step

end EventPipeline.Procedure
