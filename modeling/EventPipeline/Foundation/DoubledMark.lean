import Mathlib.Data.List.Infix

/-! # Splitting at a doubled mark

A list is split from the left at every two marks that follow each other. A third mark begins the
next part, so that only the last part of a list can end with a mark.
-/

namespace EventPipeline.DoubledMark

variable {Symbol : Type} [DecidableEq Symbol] (mark : Symbol)

/-- Put a symbol in front of the first part. -/
def extend (symbol : Symbol) : List (List Symbol) → List (List Symbol)
  | [] => [[symbol]]
  | part :: parts => (symbol :: part) :: parts

def split : List Symbol → List (List Symbol)
  | [] => [[]]
  | [symbol] => [[symbol]]
  | first :: second :: rest =>
      if first = mark ∧ second = mark then [] :: split rest
      else extend first (split (second :: rest))

def join (parts : List (List Symbol)) : List Symbol :=
  [mark, mark].intercalate parts

def endsOpen : List Symbol → Bool
  | [] => false
  | [symbol] => symbol = mark
  | first :: second :: rest =>
      if first = mark ∧ second = mark then endsOpen rest
      else endsOpen (second :: rest)

example : split '_' "a__b_c".toList = ["a".toList, "b_c".toList] := rfl

example : split '_' "a___b".toList = ["a".toList, "_b".toList] := rfl

variable {mark}

omit [DecidableEq Symbol] in
theorem extend_append (symbol : Symbol) {front : List (List Symbol)} (some : front ≠ [])
    (back : List (List Symbol)) :
    extend symbol (front ++ back) = extend symbol front ++ back := by
  cases front with
  | nil => exact absurd rfl some
  | cons part parts => rfl

theorem split_ne_nil (symbols : List Symbol) : split mark symbols ≠ [] := by
  fun_cases split mark symbols with
  | case1 => simp
  | case2 symbol => simp
  | case3 first second rest marks => simp
  | case4 first second rest symbols =>
      cases split mark (second :: rest) with
      | nil => simp [extend]
      | cons part parts => simp [extend]

omit [DecidableEq Symbol] in
theorem join_extend (symbol : Symbol) {parts : List (List Symbol)} (some : parts ≠ []) :
    join mark (extend symbol parts) = symbol :: join mark parts := by
  cases parts with
  | nil => exact absurd rfl some
  | cons part parts =>
      cases parts with
      | nil => simp [join, extend]
      | cons next parts => simp [join, extend, List.intercalate_cons_cons]

theorem join_split (symbols : List Symbol) : join mark (split mark symbols) = symbols := by
  fun_induction split mark symbols with
  | case1 => rfl
  | case2 symbol => simp [join]
  | case3 first second rest marks induction =>
      rw [marks.1, marks.2]
      cases parts : split mark rest with
      | nil => exact absurd parts (split_ne_nil rest)
      | cons part others =>
          rw [parts] at induction
          have step : join mark ([] :: part :: others) =
              mark :: mark :: join mark (part :: others) := by
            simp [join, List.intercalate_cons_cons]
          rw [step, induction]
  | case4 first second rest symbols induction =>
      rw [join_extend first (split_ne_nil (second :: rest)), induction]

theorem split_append {symbols : List Symbol} (closed : endsOpen mark symbols = false)
    (rest : List Symbol) :
    split mark (symbols ++ mark :: mark :: rest) = split mark symbols ++ split mark rest := by
  fun_induction split mark symbols with
  | case1 => simp [split]
  | case2 symbol =>
      have other : symbol ≠ mark := by simpa [endsOpen] using closed
      simp [split, other, extend]
  | case3 first second back marks induction =>
      rw [endsOpen, if_pos marks] at closed
      rw [List.cons_append, List.cons_append, split, if_pos marks, induction closed]
      rfl
  | case4 first second back symbols induction =>
      rw [endsOpen, if_neg symbols] at closed
      rw [List.cons_append, List.cons_append, split, if_neg symbols, ← List.cons_append,
        induction closed, extend_append first (split_ne_nil (second :: back))]

theorem split_append_open {symbols : List Symbol} (isOpen : endsOpen mark symbols = true)
    (rest : List Symbol) :
    split mark (symbols ++ mark :: mark :: rest) =
      split mark symbols.dropLast ++ split mark (mark :: rest) := by
  fun_induction split mark symbols with
  | case1 => cases isOpen
  | case2 symbol =>
      have same : symbol = mark := by simpa [endsOpen] using isOpen
      subst same
      simp [split]
  | case3 first second back marks induction =>
      rw [endsOpen, if_pos marks] at isOpen
      have some : back ≠ [] := by
        rintro rfl
        cases isOpen
      rw [List.cons_append, List.cons_append, split, if_pos marks, induction isOpen,
        List.dropLast_cons_of_ne_nil (by simp), List.dropLast_cons_of_ne_nil some, split,
        if_pos marks]
      rfl
  | case4 first second back symbols induction =>
      rw [endsOpen, if_neg symbols] at isOpen
      have shorter : split mark (first :: second :: back).dropLast =
          extend first (split mark (second :: back).dropLast) := by
        rw [List.dropLast_cons_cons]
        cases back with
        | nil => rfl
        | cons third back => rw [List.dropLast_cons_cons, split, if_neg symbols]
      rw [List.cons_append, List.cons_append, split, if_neg symbols, ← List.cons_append,
        induction isOpen, shorter, extend_append first (split_ne_nil _)]

/-- Without two marks that follow each other there is a single part. -/
theorem split_eq_singleton {symbols : List Symbol} (none : ¬[mark, mark] <:+: symbols) :
    split mark symbols = [symbols] := by
  fun_induction split mark symbols with
  | case1 => rfl
  | case2 symbol => rfl
  | case3 first second back marks induction =>
      rw [marks.1, marks.2] at none
      exact absurd ⟨[], back, rfl⟩ none
  | case4 first second back symbols induction =>
      have shorter : ¬[mark, mark] <:+: second :: back := by
        rintro ⟨before, after, whole⟩
        exact none ⟨first :: before, after, by simp [← whole]⟩
      rw [induction shorter]
      rfl

end EventPipeline.DoubledMark
