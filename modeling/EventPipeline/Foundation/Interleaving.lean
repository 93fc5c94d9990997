import Mathlib.Data.List.Basic

/-! # Interleavings

Several producers each put their values in order into one queue. The values of different
producers come in any order.
-/

namespace EventPipeline

/-- The values come from the queues, each time from the front of one of them, until all
queues are empty. -/
inductive Interleaving {Producer Value : Type} :
    List (Producer × List Value) → List Value → Prop
  | done {queues} : (∀ queue ∈ queues, queue.2 = []) → Interleaving queues []
  | take {before producer value rest after values} :
      Interleaving (before ++ (producer, rest) :: after) values →
      Interleaving (before ++ (producer, value :: rest) :: after) (value :: values)

theorem Interleaving.single {Producer Value : Type} (producer : Producer)
    (values : List Value) : Interleaving [(producer, values)] values := by
  induction values with
  | nil => exact .done (by simp)
  | cons value rest induction =>
      exact @Interleaving.take _ _ [] producer value rest [] rest induction

theorem Interleaving.cons {Producer Value : Type} (producer : Producer)
    {queues : List (Producer × List Value)} {values : List Value}
    (interleaving : Interleaving queues values) :
    Interleaving ((producer, []) :: queues) values := by
  induction interleaving with
  | done empty => exact .done (List.forall_mem_cons.mpr ⟨rfl, empty⟩)
  | @take before other value rest after values _ induction =>
      exact @Interleaving.take _ _ ((producer, []) :: before) other value rest after values
        induction

theorem Interleaving.sequential {Producer Value : Type} :
    ∀ queues : List (Producer × List Value), Interleaving queues (queues.flatMap Prod.snd)
  | [] => .done (by simp)
  | (producer, values) :: queues => by
      induction values with
      | nil => exact (Interleaving.sequential queues).cons producer
      | cons value rest induction =>
          exact @Interleaving.take _ _ [] producer value rest queues _ induction

section Runs

variable {Producer Value Input State : Type} {valueOf : Input → Value}
  {step : State → Input → State} {Holds : List (Producer × List Value) → State → Prop}
  (preserved : ∀ {before producer input rest after state},
    Holds (before ++ (producer, valueOf input :: rest) :: after) state →
    Holds (before ++ (producer, rest) :: after) (step state input))
include preserved

theorem Interleaving.holds {queues : List (Producer × List Value)} {inputs : List Input}
    {state : State} (interleaving : Interleaving queues (inputs.map valueOf))
    (initial : Holds queues state) :
    Holds (queues.map fun queue => (queue.1, [])) (inputs.foldl step state) := by
  induction inputs generalizing queues state with
  | nil =>
      cases interleaving with
      | done empty =>
          have same : queues.map (fun queue => (queue.1, [])) = queues := by
            conv_rhs => rw [← List.map_id queues]
            apply List.map_congr_left
            intro queue member
            rw [id, ← empty queue member]
          rw [same]
          exact initial
  | cons input inputs induction =>
      rw [List.map_cons] at interleaving
      cases interleaving with
      | take later =>
          have holds := induction later (preserved initial)
          simpa using holds

theorem Interleaving.holds_prefix {queues : List (Producer × List Value)}
    {inputs front : List Input} {state : State}
    (interleaving : Interleaving queues (inputs.map valueOf)) (initial : Holds queues state)
    (early : front <+: inputs) :
    ∃ rest, rest.map Prod.fst = queues.map Prod.fst ∧ Holds rest (front.foldl step state) := by
  induction inputs generalizing queues front state with
  | nil =>
      rw [List.prefix_nil.mp early]
      exact ⟨_, rfl, initial⟩
  | cons input inputs induction =>
      cases front with
      | nil => exact ⟨_, rfl, initial⟩
      | cons first front =>
          rcases List.cons_prefix_cons.mp early with ⟨rfl, shorter⟩
          rw [List.map_cons] at interleaving
          cases interleaving with
          | take later =>
              rcases induction later (preserved initial) shorter with ⟨rest, producers, holds⟩
              refine ⟨rest, ?_, holds⟩
              simpa using producers

end Runs

end EventPipeline
