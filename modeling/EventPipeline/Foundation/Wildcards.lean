import Mathlib.Data.List.Infix

/-! # Patterns with wildcards

A pattern is a list of symbols and of wildcards, for one symbol or for any sequence of symbols.
Symbols are compared after folding, which may forget their case.
-/

namespace EventPipeline

inductive PatternItem (Symbol : Type)
  | sequence
  | single
  | symbol (symbol : Symbol)
deriving DecidableEq, Repr

namespace PatternItem

variable {Symbol Folded : Type} [DecidableEq Folded] (fold : Symbol → Folded)

def map {Other : Type} (change : Symbol → Other) : PatternItem Symbol → PatternItem Other
  | sequence => sequence
  | single => single
  | symbol given => symbol (change given)

def accepts : List (PatternItem Symbol) → List Symbol → Bool
  | [], text => text.isEmpty
  | sequence :: rest, text => text.tails.any (accepts rest)
  | single :: rest, text =>
      match text with
      | [] => false
      | _ :: text => accepts rest text
  | symbol given :: rest, text =>
      match text with
      | [] => false
      | first :: text => decide (fold given = fold first) && accepts rest text

variable {fold} {items rest more : List (PatternItem Symbol)} {text : List Symbol}

theorem accepts_sequence_iff :
    accepts fold (sequence :: rest) text = true ↔
      ∃ part, part <:+ text ∧ accepts fold rest part = true := by
  rw [accepts, List.any_eq_true]
  simp only [List.mem_tails]

theorem accepts_single_iff :
    accepts fold (single :: rest) text = true ↔
      ∃ first others, text = first :: others ∧ accepts fold rest others = true := by
  cases text with
  | nil => simp [accepts]
  | cons first others => simp [accepts]

theorem accepts_symbol_iff {given : Symbol} :
    accepts fold (symbol given :: rest) text = true ↔
      ∃ first others, text = first :: others ∧ fold given = fold first ∧
        accepts fold rest others = true := by
  cases text with
  | nil => simp [accepts]
  | cons first others => simp [accepts]

theorem accepts_append :
    accepts fold (items ++ more) text = true ↔
      ∃ before after, text = before ++ after ∧ accepts fold items before = true ∧
        accepts fold more after = true := by
  induction items generalizing text with
  | nil => simp [accepts]
  | cons item items induction =>
      rw [List.cons_append]
      cases item with
      | sequence =>
          rw [accepts_sequence_iff]
          constructor
          · rintro ⟨part, ⟨skipped, rfl⟩, accepted⟩
            rcases induction.mp accepted with ⟨before, after, rfl, first, second⟩
            exact ⟨skipped ++ before, after, (List.append_assoc _ _ _).symm,
              accepts_sequence_iff.mpr ⟨before, List.suffix_append _ _, first⟩, second⟩
          · rintro ⟨before, after, rfl, first, second⟩
            rcases accepts_sequence_iff.mp first with ⟨part, ⟨skipped, rfl⟩, accepted⟩
            exact ⟨part ++ after, ⟨skipped, (List.append_assoc _ _ _).symm⟩,
              induction.mpr ⟨part, after, rfl, accepted, second⟩⟩
      | single =>
          rw [accepts_single_iff]
          constructor
          · rintro ⟨head, others, rfl, accepted⟩
            rcases induction.mp accepted with ⟨before, after, rfl, first, second⟩
            exact ⟨head :: before, after, rfl,
              accepts_single_iff.mpr ⟨head, before, rfl, first⟩, second⟩
          · rintro ⟨before, after, rfl, first, second⟩
            rcases accepts_single_iff.mp first with ⟨head, others, rfl, first⟩
            exact ⟨head, others ++ after, rfl, induction.mpr ⟨others, after, rfl, first, second⟩⟩
      | symbol given =>
          rw [accepts_symbol_iff]
          constructor
          · rintro ⟨head, others, rfl, same, accepted⟩
            rcases induction.mp accepted with ⟨before, after, rfl, first, second⟩
            exact ⟨head :: before, after, rfl,
              accepts_symbol_iff.mpr ⟨head, before, rfl, same, first⟩, second⟩
          · rintro ⟨before, after, rfl, first, second⟩
            rcases accepts_symbol_iff.mp first with ⟨head, others, rfl, same, first⟩
            exact ⟨head, others ++ after, rfl, same,
              induction.mpr ⟨others, after, rfl, first, second⟩⟩

theorem accepts_sequence (text : List Symbol) : accepts fold [sequence] text = true :=
  accepts_sequence_iff.mpr ⟨[], List.nil_suffix, rfl⟩

/-! ## Where a pattern matches -/

theorem accepts_prefix_iff :
    accepts fold (items ++ [sequence]) text = true ↔
      ∃ part, part <+: text ∧ accepts fold items part = true := by
  rw [accepts_append]
  constructor
  · rintro ⟨before, after, rfl, accepted, -⟩
    exact ⟨before, List.prefix_append _ _, accepted⟩
  · rintro ⟨part, ⟨after, rfl⟩, accepted⟩
    exact ⟨part, after, rfl, accepted, accepts_sequence after⟩

theorem accepts_infix_iff :
    accepts fold (sequence :: (items ++ [sequence])) text = true ↔
      ∃ part, part <:+: text ∧ accepts fold items part = true := by
  rw [accepts_sequence_iff]
  constructor
  · rintro ⟨rear, ends, accepted⟩
    rcases accepts_prefix_iff.mp accepted with ⟨part, begins, accepted⟩
    exact ⟨part, begins.isInfix.trans ends.isInfix, accepted⟩
  · rintro ⟨part, ⟨before, after, rfl⟩, accepted⟩
    exact ⟨part ++ after, ⟨before, (List.append_assoc _ _ _).symm⟩,
      accepts_prefix_iff.mpr ⟨part, List.prefix_append _ _, accepted⟩⟩

/-! ## What a pattern matches -/

theorem accepts_symbols {literal : List Symbol} :
    accepts fold (literal.map symbol) text = true ↔ text.map fold = literal.map fold := by
  induction literal generalizing text with
  | nil => simp [accepts]
  | cons given literal induction =>
      rw [List.map_cons, accepts_symbol_iff]
      cases text with
      | nil => simp
      | cons first others =>
          rw [List.map_cons, List.map_cons, List.cons.injEq, ← induction]
          constructor
          · rintro ⟨_, _, split, same, accepted⟩
            obtain ⟨rfl, rfl⟩ := List.cons.inj split
            exact ⟨same.symm, accepted⟩
          · rintro ⟨same, accepted⟩
            exact ⟨first, others, rfl, same.symm, accepted⟩

theorem accepts_flatMap {source : List Symbol} {item : Symbol → PatternItem Symbol}
    {part : Symbol → List Symbol}
    (each : ∀ given ∈ source, accepts fold [item given] (part given) = true) :
    accepts fold (source.map item) (source.flatMap part) = true := by
  induction source with
  | nil => rfl
  | cons given source induction =>
      have others := induction fun next member => each next (List.mem_cons_of_mem _ member)
      have split := accepts_append.mpr
        ⟨_, _, rfl, each given List.mem_cons_self, others⟩
      simpa using split

theorem accepts_map {change : Symbol → Symbol}
    (kept : ∀ given, fold (change given) = fold given) :
    accepts fold (items.map (PatternItem.map change)) (text.map change) =
      accepts fold items text := by
  induction items generalizing text with
  | nil => cases text <;> rfl
  | cons item items induction =>
      cases item with
      | sequence =>
          simp only [List.map_cons, map, accepts, List.map_tails, List.any_map]
          congr 1
          funext part
          exact induction
      | single =>
          cases text with
          | nil => rfl
          | cons first others => exact induction
      | symbol given =>
          cases text with
          | nil => rfl
          | cons first others =>
              simp only [List.map_cons, map, accepts, kept, induction]

end PatternItem

end EventPipeline
