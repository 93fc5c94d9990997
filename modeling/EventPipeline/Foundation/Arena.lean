import Mathlib.Data.List.Basic

/-! # Object arenas

Mutable objects are cells of a list. The position of a cell is the identity of
its object, new objects are appended, and fields are assigned by modifying one
cell. The lemmas say which cells an operation leaves alone.
-/

namespace EventPipeline

/-- Objects addressed by their order of allocation. -/
structure Arena (Cell : Type) where
  cells : List Cell
deriving DecidableEq, Repr

namespace Arena

variable {Cell : Type}

def empty : Arena Cell := ⟨[]⟩

def size (arena : Arena Cell) : Nat := arena.cells.length

def get? (arena : Arena Cell) (address : Nat) : Option Cell := arena.cells[address]?

/-- Allocate an object. Its identity is the size of the arena before. -/
def alloc (arena : Arena Cell) (cell : Cell) : Arena Cell := ⟨arena.cells ++ [cell]⟩

/-- Assign to fields of one object. -/
def modify (arena : Arena Cell) (address : Nat) (update : Cell → Cell) : Arena Cell :=
  ⟨arena.cells.modify address update⟩

@[simp] theorem size_alloc (arena : Arena Cell) (cell : Cell) :
    (arena.alloc cell).size = arena.size + 1 := by
  simp [alloc, size]

@[simp] theorem size_modify (arena : Arena Cell) (address : Nat) (update : Cell → Cell) :
    (arena.modify address update).size = arena.size := by
  simp [modify, size]

theorem lt_size_of_get? {arena : Arena Cell} {address : Nat} {cell : Cell}
    (found : arena.get? address = some cell) : address < arena.size :=
  (List.getElem?_eq_some_iff.mp found).choose

theorem get?_isSome_of_lt {arena : Arena Cell} {address : Nat}
    (bound : address < arena.size) : ∃ cell, arena.get? address = some cell :=
  ⟨arena.cells[address], List.getElem?_eq_getElem bound⟩

@[simp] theorem get?_alloc_self (arena : Arena Cell) (cell : Cell) :
    (arena.alloc cell).get? arena.size = some cell := by
  simp [alloc, get?, size]

theorem get?_alloc_of_lt (arena : Arena Cell) (cell : Cell) {address : Nat}
    (bound : address < arena.size) :
    (arena.alloc cell).get? address = arena.get? address := by
  simp only [alloc, get?]
  exact List.getElem?_append_left bound

theorem get?_alloc (arena : Arena Cell) (cell : Cell) (address : Nat) :
    (arena.alloc cell).get? address =
      if address = arena.size then some cell else arena.get? address := by
  by_cases fresh : address = arena.size
  · simp [fresh]
  · rw [if_neg fresh]
    by_cases bound : address < arena.size
    · exact get?_alloc_of_lt arena cell bound
    · have outside : arena.size + 1 ≤ address := by omega
      have inner : arena.get? address = none :=
        List.getElem?_eq_none (by simp only [size] at outside; omega)
      rw [inner]
      exact List.getElem?_eq_none (by simpa [alloc, size] using outside)

@[simp] theorem get?_modify_self (arena : Arena Cell) (address : Nat)
    (update : Cell → Cell) :
    (arena.modify address update).get? address = (arena.get? address).map update := by
  simp [modify, get?]

theorem get?_modify_of_ne (arena : Arena Cell) (update : Cell → Cell)
    {address other : Nat} (different : other ≠ address) :
    (arena.modify address update).get? other = arena.get? other := by
  simp [modify, get?, List.getElem?_modify_ne _ _ different.symm]

theorem modify_alloc_self (arena : Arena Cell) (cell : Cell) (update : Cell → Cell) :
    (arena.alloc cell).modify arena.size update = arena.alloc (update cell) := by
  rw [alloc, modify, alloc, size, Arena.mk.injEq]
  induction arena.cells with
  | nil => rfl
  | cons first rest induction =>
      rw [List.cons_append, List.length_cons, List.modify_succ_cons, induction,
        List.cons_append]

/-- What an assignment leaves alone can be read off the arena as before. -/
theorem map_cells_modify {Value : Type} (arena : Arena Cell) (address : Nat)
    {update : Cell → Cell} {project : Cell → Value}
    (kept : ∀ cell, project (update cell) = project cell) :
    (arena.modify address update).cells.map project = arena.cells.map project := by
  apply List.ext_getElem?
  intro place
  simp only [modify, List.getElem?_map]
  by_cases same : address = place
  · subst same
    cases found : arena.cells[address]? <;> simp [found, kept]
  · rw [List.getElem?_modify_ne _ _ same]

/-- `later` keeps every object of `earlier` as it is. -/
def Extends (earlier later : Arena Cell) : Prop :=
  earlier.size ≤ later.size ∧
    ∀ address, address < earlier.size → later.get? address = earlier.get? address

theorem Extends.refl (arena : Arena Cell) : Extends arena arena :=
  ⟨Nat.le_refl _, fun _ _ => rfl⟩

theorem Extends.trans {first second third : Arena Cell}
    (left : Extends first second) (right : Extends second third) :
    Extends first third := by
  refine ⟨Nat.le_trans left.1 right.1, ?_⟩
  intro address bound
  rw [right.2 address (Nat.lt_of_lt_of_le bound left.1), left.2 address bound]

theorem extends_alloc (arena : Arena Cell) (cell : Cell) :
    Extends arena (arena.alloc cell) :=
  ⟨by simp, fun _ bound => get?_alloc_of_lt arena cell bound⟩

/-- Assigning to an object allocated after `earlier` keeps `earlier`. -/
theorem Extends.modify {earlier later : Arena Cell} (extends_ : Extends earlier later)
    {address : Nat} (fresh : earlier.size ≤ address) (update : Cell → Cell) :
    Extends earlier (later.modify address update) := by
  refine ⟨by simpa using extends_.1, ?_⟩
  intro other bound
  rw [get?_modify_of_ne later update (by omega)]
  exact extends_.2 other bound

end Arena

end EventPipeline
