import EventPipeline.Foundation.Arena

/-! # Objects that own cells

Objects refer to cells of another arena. When no two objects refer to the same cell, assigning to
the cell of one object changes what that object holds and nothing else.
-/

namespace EventPipeline.Arena

variable {Object Cell : Type}

def cell? (objects : Arena Object) (field : Object → Nat) (cells : Arena Cell) (address : Nat) :
    Option Cell :=
  (objects.get? address).bind fun object => cells.get? (field object)

/-- Every object has a cell, and no two objects share one. -/
structure Exclusive (objects : Arena Object) (field : Object → Nat) (cells : Arena Cell) :
    Prop where
  allocated : ∀ {address object}, objects.get? address = some object → field object < cells.size
  distinct : ∀ {first second one other}, objects.get? first = some one →
    objects.get? second = some other → field one = field other → first = second

variable {objects : Arena Object} {field : Object → Nat} {cells : Arena Cell}

theorem exclusive_empty : Exclusive (empty : Arena Object) field (empty : Arena Cell) where
  allocated := fun found => nomatch found
  distinct := fun found => nomatch found

theorem Exclusive.modify (exclusive : Exclusive objects field cells) (address : Nat)
    (update : Cell → Cell) : Exclusive objects field (cells.modify address update) where
  allocated := fun found => (size_modify cells address update).symm ▸ exclusive.allocated found
  distinct := exclusive.distinct

theorem Exclusive.alloc_cell (exclusive : Exclusive objects field cells) (cell : Cell) :
    Exclusive objects field (cells.alloc cell) where
  allocated := fun found => by
    rw [size_alloc]
    exact Nat.lt_succ_of_lt (exclusive.allocated found)
  distinct := exclusive.distinct

theorem Exclusive.alloc (exclusive : Exclusive objects field cells) (cell : Cell)
    {object : Object} (fresh : field object = cells.size) :
    Exclusive (objects.alloc object) field (cells.alloc cell) where
  allocated := by
    intro address found held
    rw [size_alloc]
    rw [get?_alloc] at held
    split at held
    · cases held
      omega
    · exact Nat.lt_succ_of_lt (exclusive.allocated held)
  distinct := by
    intro first second one other held also equal
    rw [get?_alloc] at held also
    split at held
    · cases held
      split at also
      · rename_i left right
        exact left.trans right.symm
      · exact absurd (exclusive.allocated also) (by omega)
    · split at also
      · cases also
        exact absurd (exclusive.allocated held) (by omega)
      · exact exclusive.distinct held also equal

theorem cell?_modify_self {address : Nat} {object : Object}
    (found : objects.get? address = some object) (update : Cell → Cell) :
    cell? objects field (cells.modify (field object) update) address =
      (cell? objects field cells address).map update := by
  rw [cell?, cell?, found, Option.bind_some, Option.bind_some, get?_modify_self]

theorem cell?_modify_other (exclusive : Exclusive objects field cells) {address other : Nat}
    {object : Object} (found : objects.get? address = some object) (different : other ≠ address)
    (update : Cell → Cell) :
    cell? objects field (cells.modify (field object) update) other =
      cell? objects field cells other := by
  unfold cell?
  cases held : objects.get? other with
  | none => rfl
  | some owner =>
      have apart : field owner ≠ field object := fun equal =>
        different (exclusive.distinct held found equal)
      rw [Option.bind_some, Option.bind_some, get?_modify_of_ne _ _ apart]

theorem cell?_alloc_cell (exclusive : Exclusive objects field cells) (cell : Cell)
    (address : Nat) :
    cell? objects field (cells.alloc cell) address = cell? objects field cells address := by
  unfold cell?
  cases held : objects.get? address with
  | none => rfl
  | some owner =>
      rw [Option.bind_some, Option.bind_some, get?_alloc_of_lt _ _ (exclusive.allocated held)]

theorem cell?_alloc (exclusive : Exclusive objects field cells) (cell : Cell) {object : Object}
    (fresh : field object = cells.size) (address : Nat) :
    cell? (objects.alloc object) field (cells.alloc cell) address =
      if address = objects.size then some cell else cell? objects field cells address := by
  rw [← cell?_alloc_cell exclusive cell address, cell?, get?_alloc]
  split
  · rw [Option.bind_some, fresh, get?_alloc_self]
  · rfl

theorem Exclusive.cell?_isSome (exclusive : Exclusive objects field cells) {address : Nat}
    (bound : address < objects.size) : ∃ cell, cell? objects field cells address = some cell := by
  obtain ⟨object, found⟩ := get?_isSome_of_lt bound
  obtain ⟨cell, held⟩ := get?_isSome_of_lt (exclusive.allocated found)
  exact ⟨cell, by rw [cell?, found, Option.bind_some, held]⟩

end EventPipeline.Arena
