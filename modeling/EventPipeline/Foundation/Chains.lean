import Mathlib.Data.List.Chain
import Mathlib.Logic.Relation

/-! # Maximal chains

Chains of a relation in which every value has at most one successor and at most
one predecessor. Two such chains that cannot be extended are equal when they
have a value in common.
-/

namespace EventPipeline

section Chains

variable {Value : Type} {related : Value → Value → Prop}

theorem exists_rel_of_isChain {first : Value} {rest : List Value}
    (chain : (first :: rest).IsChain related) {value : Value} (member : value ∈ rest) :
    ∃ before ∈ first :: rest, related before value := by
  induction rest generalizing first with
  | nil => cases member
  | cons second rest induction =>
      rcases List.isChain_cons_cons.mp chain with ⟨edge, chain⟩
      rcases List.mem_cons.mp member with rfl | later
      · exact ⟨first, List.mem_cons_self, edge⟩
      · rcases induction chain later with ⟨before, inside, edge⟩
        exact ⟨before, List.mem_cons_of_mem _ inside, edge⟩

theorem reflTransGen_of_isChain {first : Value} {rest : List Value}
    (chain : (first :: rest).IsChain related) {value : Value} (member : value ∈ first :: rest) :
    Relation.ReflTransGen related first value := by
  induction rest generalizing first with
  | nil =>
      rw [List.mem_singleton.mp member]
  | cons second rest induction =>
      rcases List.isChain_cons_cons.mp chain with ⟨edge, chain⟩
      rcases List.mem_cons.mp member with rfl | later
      · exact .refl
      · exact .head edge (induction chain later)

/-- Of two values that lead to a third one, one leads to the other. -/
theorem total_of_leftUnique (unique : Relator.LeftUnique related) {first second value : Value}
    (left : Relation.ReflTransGen related first value)
    (right : Relation.ReflTransGen related second value) :
    Relation.ReflTransGen related first second ∨ Relation.ReflTransGen related second first := by
  have converse : Relator.RightUnique (Function.swap related) := fun _ _ _ one other =>
    unique one other
  rcases Relation.ReflTransGen.total_of_right_unique converse left.swap right.swap with
    down | up
  · exact .inr (Relation.reflTransGen_swap.mp down)
  · exact .inl (Relation.reflTransGen_swap.mp up)

theorem head?_of_isChain {chain : List Value} (linked : chain.IsChain related) {value : Value}
    (member : value ∈ chain) (first : ∀ before, ¬related before value) :
    chain.head? = some value := by
  cases chain with
  | nil => cases member
  | cons head rest =>
      rcases List.mem_cons.mp member with rfl | later
      · rfl
      · rcases exists_rel_of_isChain linked later with ⟨before, _, edge⟩
        exact absurd edge (first before)

def Ends (related : Value → Value → Prop) (chain : List Value) : Prop :=
  ∀ last ∈ chain.getLast?, ∀ next, ¬related last next

theorem eq_of_isChain (unique : Relator.RightUnique related) {first : Value}
    {left right : List Value} (leftChain : (first :: left).IsChain related)
    (rightChain : (first :: right).IsChain related) (leftEnds : Ends related (first :: left))
    (rightEnds : Ends related (first :: right)) : left = right := by
  induction left generalizing first right with
  | nil =>
      cases right with
      | nil => rfl
      | cons second right =>
          exact absurd (List.isChain_cons_cons.mp rightChain).1 (leftEnds first rfl second)
  | cons second left induction =>
      cases right with
      | nil => exact absurd (List.isChain_cons_cons.mp leftChain).1 (rightEnds first rfl second)
      | cons other right =>
          rcases List.isChain_cons_cons.mp leftChain with ⟨leftEdge, leftChain⟩
          rcases List.isChain_cons_cons.mp rightChain with ⟨rightEdge, rightChain⟩
          obtain rfl := unique leftEdge rightEdge
          refine congrArg (List.cons second) (induction leftChain rightChain ?_ ?_)
          · exact fun last member => leftEnds last (by simpa using member)
          · exact fun last member => rightEnds last (by simpa using member)

/-- A chain that cannot be extended on either side. -/
structure MaximalChain (related : Value → Value → Prop) (chain : List Value) : Prop where
  linked : chain.IsChain related
  first : ∀ head ∈ chain.head?, ∀ before, ¬related before head
  last : Ends related chain

/-- Read backwards, the part of a maximal chain up to a value is a chain of the converse
that cannot be extended at its end. -/
theorem MaximalChain.backwards {before after : List Value} {value : Value}
    (maximal : MaximalChain related (before ++ value :: after)) :
    (value :: before.reverse).IsChain (flip related) ∧
      Ends (flip related) (value :: before.reverse) := by
  have reversed : (before ++ [value]).reverse = value :: before.reverse := by simp
  rw [← reversed]
  refine ⟨List.isChain_reverse.mpr (List.isChain_split.mp maximal.linked).1, ?_⟩
  intro last member previous
  refine maximal.first last ?_ previous
  rw [List.getLast?_reverse] at member
  cases before with
  | nil => exact member
  | cons head rest => exact member

theorem MaximalChain.eq_of_mem (rightUnique : Relator.RightUnique related)
    (leftUnique : Relator.LeftUnique related) {left right : List Value}
    (leftMaximal : MaximalChain related left) (rightMaximal : MaximalChain related right)
    {value : Value} (leftMember : value ∈ left) (rightMember : value ∈ right) :
    left = right := by
  rcases List.append_of_mem leftMember with ⟨leftBefore, leftAfter, rfl⟩
  rcases List.append_of_mem rightMember with ⟨rightBefore, rightAfter, rfl⟩
  have onward : leftAfter = rightAfter := by
    refine eq_of_isChain rightUnique (List.isChain_split.mp leftMaximal.linked).2
      (List.isChain_split.mp rightMaximal.linked).2 ?_ ?_
    · exact fun last member => leftMaximal.last last (by simpa using member)
    · exact fun last member => rightMaximal.last last (by simpa using member)
  have back : leftBefore.reverse = rightBefore.reverse := by
    rcases leftMaximal.backwards with ⟨leftChain, leftEnds⟩
    rcases rightMaximal.backwards with ⟨rightChain, rightEnds⟩
    have converse : Relator.RightUnique (flip related) := fun _ _ _ first second =>
      leftUnique first second
    exact eq_of_isChain converse leftChain rightChain leftEnds rightEnds
  rw [onward, List.reverse_injective back]

end Chains

end EventPipeline
