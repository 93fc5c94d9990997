import Mathlib.Data.List.Nodup
import Mathlib.Data.List.Dedup

/-! # Loops and lists without repetitions

A loop repeats a step that can fail, until the step says that it is done. A traversal
applies a function that can fail to every value of a list. Lists that are filled one by
one, with what they do not hold yet.
-/

namespace EventPipeline

section Loops

variable {State Error : Type} {step : State → Except Error (Option State)}

/-- Repeat a step until it is done. `none` stands for a loop that has not ended after
`fuel` steps. -/
def loop (step : State → Except Error (Option State)) :
    Nat → State → Option (Except Error State)
  | 0, _ => none
  | fuel + 1, state =>
      match step state with
      | .error error => some (.error error)
      | .ok none => some (.ok state)
      | .ok (some next) => loop step fuel next

theorem loop_next {state next : State} (stepped : step state = .ok (some next)) (fuel : Nat) :
    loop step (fuel + 1) state = loop step fuel next := by
  simp [loop, stepped]

theorem loop_done {state : State} (stepped : step state = .ok none) (fuel : Nat) :
    loop step (fuel + 1) state = some (.ok state) := by
  simp [loop, stepped]

theorem loop_mono {fuel : Nat} {state : State} {result : Except Error State}
    (ended : loop step fuel state = some result) (more : Nat) :
    loop step (fuel + more) state = some result := by
  induction fuel generalizing state with
  | zero => cases ended
  | succ fuel induction =>
      rw [Nat.add_right_comm]
      rcases stepped : step state with error | _ | next
      · simpa [loop, stepped] using ended
      · simpa [loop, stepped] using ended
      · rw [loop_next stepped] at ended ⊢
        exact induction ended

/-- The states from which the first `fuel` steps of a loop go on. -/
def statesOf (step : State → Except Error (Option State)) : Nat → State → List State
  | 0, _ => []
  | fuel + 1, state =>
      match step state with
      | .ok (some next) => state :: statesOf step fuel next
      | .ok none | .error _ => []

theorem statesOf_next {state next : State} (stepped : step state = .ok (some next))
    (fuel : Nat) : statesOf step (fuel + 1) state = state :: statesOf step fuel next := by
  simp [statesOf, stepped]

theorem statesOf_done {state : State} (stepped : step state = .ok none) (fuel : Nat) :
    statesOf step fuel state = [] := by
  cases fuel <;> simp [statesOf, stepped]

theorem statesOf_append_left (fuel more : Nat) (state : State) :
    statesOf step fuel state <+: statesOf step (fuel + more) state := by
  induction fuel generalizing state with
  | zero => exact List.nil_prefix
  | succ fuel induction =>
      rw [Nat.add_right_comm]
      rcases stepped : step state with error | _ | next
      · simp [statesOf, stepped]
      · simp [statesOf, stepped]
      · rw [statesOf_next stepped, statesOf_next stepped]
        exact List.cons_prefix_cons.mpr ⟨rfl, induction next⟩

end Loops

section Traversals

variable {Value Result Error : Type} {function : Value → Except Error Result}

theorem mapM_eq_ok {result : Value → Result} {values : List Value}
    (each : ∀ value ∈ values, function value = .ok (result value)) :
    values.mapM function = .ok (values.map result) := by
  induction values with
  | nil => rfl
  | cons value rest induction =>
      have first := each value List.mem_cons_self
      have others := induction fun value member => each value (List.mem_cons_of_mem _ member)
      simp [List.mapM_cons, first, others, bind, Except.bind, pure, Except.pure]

theorem mapM_ok_iff {values : List Value} :
    (∃ results, values.mapM function = .ok results) ↔
      ∀ value ∈ values, ∃ result, function value = .ok result := by
  induction values with
  | nil => exact ⟨fun _ _ member => (List.not_mem_nil member).elim, fun _ => ⟨[], rfl⟩⟩
  | cons value rest induction =>
      rw [List.forall_mem_cons, ← induction, List.mapM_cons]
      cases function value with
      | error error => simp [bind, Except.bind]
      | ok first =>
          cases rest.mapM function with
          | error error => simp [bind, Except.bind]
          | ok others => simp [bind, Except.bind, pure, Except.pure]

theorem mapM_cons_eq_ok {value : Value} {rest : List Value} {results : List Result}
    (traversed : (value :: rest).mapM function = .ok results) :
    ∃ first others, function value = .ok first ∧ rest.mapM function = .ok others ∧
      results = first :: others := by
  rw [List.mapM_cons] at traversed
  cases here : function value with
  | error error =>
      rw [here] at traversed
      cases traversed
  | ok first =>
      cases there : rest.mapM function with
      | error error =>
          rw [here, there] at traversed
          cases traversed
      | ok others =>
          rw [here, there] at traversed
          exact ⟨first, others, rfl, rfl, (Except.ok.inj traversed).symm⟩

theorem exists_of_mapM_eq_ok {values : List Value} {results : List Result}
    (traversed : values.mapM function = .ok results) {result : Result}
    (member : result ∈ results) : ∃ value ∈ values, function value = .ok result := by
  induction values generalizing results with
  | nil =>
      obtain rfl : [] = results := Except.ok.inj traversed
      cases member
  | cons value rest induction =>
      obtain ⟨first, others, here, there, rfl⟩ := mapM_cons_eq_ok traversed
      rcases List.mem_cons.mp member with rfl | member
      · exact ⟨value, List.mem_cons_self, here⟩
      · obtain ⟨other, listed, found⟩ := induction there member
        exact ⟨other, List.mem_cons_of_mem _ listed, found⟩

/-- What a computation raises. -/
def exceptionOf {Value Error : Type} : Except Error Value → Option Error
  | .ok _ => none
  | .error error => some error

theorem eq_error_iff_exceptionOf {result : Except Error Value} {error : Error} :
    result = .error error ↔ exceptionOf result = some error := by
  cases result <;> simp [exceptionOf]

/-- A traversal raises what the function raises on the first value where it raises. -/
theorem exceptionOf_mapM (function : Value → Except Error Result) (values : List Value) :
    exceptionOf (values.mapM function) =
      values.findSome? fun value => exceptionOf (function value) := by
  induction values with
  | nil => rfl
  | cons value rest induction =>
      rw [List.mapM_cons, List.findSome?_cons]
      cases function value with
      | error error => rfl
      | ok result =>
          cases traversed : rest.mapM function with
          | error error =>
              rw [traversed] at induction
              exact induction
          | ok results =>
              rw [traversed] at induction
              exact induction

theorem mapM_map_congr {Other : Type} {image : Value → Except Error Other}
    {change : Result → Other} {values : List Value}
    (same : ∀ value ∈ values, image value = (function value).map change) :
    values.mapM image = (values.mapM function).map (List.map change) := by
  induction values with
  | nil => rfl
  | cons value rest induction =>
      have others := induction fun next member => same next (List.mem_cons_of_mem _ member)
      rw [List.mapM_cons, List.mapM_cons, same value List.mem_cons_self, others]
      cases function value with
      | error error => rfl
      | ok result => cases rest.mapM function <;> rfl

theorem foldlM_eq_mapM {Collected : Type} {step : Collected → Value → Except Error Collected}
    {join : Collected → List Result → Collected} (none : ∀ collected, join collected [] = collected)
    (each : ∀ collected value,
      step collected value = (function value).map fun result => join collected [result])
    (more : ∀ collected result results,
      join (join collected [result]) results = join collected (result :: results))
    (values : List Value) (collected : Collected) :
    values.foldlM step collected = (values.mapM function).map (join collected) := by
  induction values generalizing collected with
  | nil => exact congrArg Except.ok (none collected).symm
  | cons value rest induction =>
      rw [List.foldlM_cons, List.mapM_cons, each]
      cases function value with
      | error error => rfl
      | ok result =>
          have rests := induction (join collected [result])
          cases traversed : rest.mapM function with
          | error error =>
              rw [traversed] at rests
              exact rests
          | ok results =>
              rw [traversed] at rests
              exact rests.trans (congrArg Except.ok (more collected result results))

end Traversals

section Distinct

variable {Value : Type} [DecidableEq Value]

/-- Append a value that the list does not hold yet. -/
def addNew (values : List Value) (value : Value) : List Value :=
  if value ∈ values then values else values ++ [value]

def addAll (values more : List Value) : List Value :=
  more.foldl addNew values

@[simp] theorem mem_addNew {values : List Value} {value other : Value} :
    other ∈ addNew values value ↔ other ∈ values ∨ other = value := by
  unfold addNew
  split
  · rename_i present
    constructor
    · exact .inl
    · rintro (member | rfl)
      · exact member
      · exact present
  · simp

@[simp] theorem mem_addAll {values more : List Value} {other : Value} :
    other ∈ addAll values more ↔ other ∈ values ∨ other ∈ more := by
  induction more generalizing values with
  | nil => simp [addAll]
  | cons value rest induction =>
      have split := @induction (addNew values value)
      rw [mem_addNew] at split
      rw [List.mem_cons, ← or_assoc]
      exact split

theorem filter_addNew (holds : Value → Bool) (values : List Value) (value : Value) :
    (addNew values value).filter holds =
      if holds value then addNew (values.filter holds) value else values.filter holds := by
  unfold addNew
  by_cases kept : holds value = true
  · by_cases present : value ∈ values
    · simp [present, kept]
    · simp [present, kept, List.filter_append]
  · by_cases present : value ∈ values
    · simp [present, kept]
    · simp [present, kept, List.filter_append]

theorem nodup_addNew {values : List Value} (nodup : values.Nodup) (value : Value) :
    (addNew values value).Nodup := by
  unfold addNew
  split
  · exact nodup
  · rename_i absent
    rw [List.nodup_append]
    refine ⟨nodup, List.nodup_singleton _, ?_⟩
    rintro left member right single rfl
    exact absent (List.mem_singleton.mp single ▸ member)

theorem nodup_addAll {values : List Value} (nodup : values.Nodup) (more : List Value) :
    (addAll values more).Nodup := by
  induction more generalizing values with
  | nil => exact nodup
  | cons value rest induction => exact induction (nodup_addNew nodup value)

theorem addAll_append (values first second : List Value) :
    addAll values (first ++ second) = addAll (addAll values first) second :=
  List.foldl_append

end Distinct

end EventPipeline
