import EventPipeline.Foundation.Arena
import Mathlib.Data.List.Chain
import Mathlib.Data.List.Range
import Mathlib.Data.List.Perm.Subperm

/-! # Doubly linked lists in arenas

Cells that point to a next and to a previous cell. A new cell is linked behind
an old one by assigning to the old one; whatever the old one pointed to before is
then no longer on the list, and it never comes back.
-/

namespace EventPipeline.Arena

variable {Cell : Type}

def link? (arena : Arena Cell) (field : Cell → Option Nat) (address : Nat) : Option Nat :=
  (arena.get? address).bind field

theorem link?_eq_some_iff {arena : Arena Cell} {field : Cell → Option Nat}
    {here there : Nat} : arena.link? field here = some there ↔
      ∃ cell, arena.get? here = some cell ∧ field cell = some there := by
  simp [link?, Option.bind_eq_some_iff]

/-- Follow a field as long as it points somewhere. -/
def followLink (arena : Arena Cell) (field : Cell → Option Nat) : Nat → Nat → List Nat
  | 0, _ => []
  | fuel + 1, address =>
      address :: match arena.link? field address with
        | none => []
        | some next => followLink arena field fuel next

structure Links (Cell : Type) where
  next : Cell → Option Nat
  previous : Cell → Option Nat
  setNext : Nat → Cell → Cell
  next_setNext : ∀ address cell, next (setNext address cell) = some address
  previous_setNext : ∀ address cell, previous (setNext address cell) = previous cell

variable {links : Links Cell}

def linkBehind (links : Links Cell) (arena : Arena Cell) (old : Option Nat) (cell : Cell) :
    Arena Cell :=
  match old with
  | none => arena.alloc cell
  | some address => (arena.modify address (links.setNext arena.size)).alloc cell

@[simp] theorem size_linkBehind (arena : Arena Cell) (old : Option Nat) (cell : Cell) :
    (linkBehind links arena old cell).size = arena.size + 1 := by
  cases old <;> simp [linkBehind]

theorem get?_linkBehind_self (arena : Arena Cell) (old : Option Nat) (cell : Cell) :
    (linkBehind links arena old cell).get? arena.size = some cell := by
  cases old with
  | none => simp [linkBehind]
  | some address =>
      simpa [linkBehind] using
        get?_alloc_self (arena.modify address (links.setNext arena.size)) cell

theorem modify_linkBehind_self (arena : Arena Cell) (old : Option Nat) (cell : Cell)
    (update : Cell → Cell) :
    (linkBehind links arena old cell).modify arena.size update =
      linkBehind links arena old (update cell) := by
  cases old with
  | none => exact modify_alloc_self arena cell update
  | some address =>
      have modified := modify_alloc_self (arena.modify address (links.setNext arena.size)) cell
        update
      rw [size_modify] at modified
      exact modified

theorem get?_linkBehind_of_lt (arena : Arena Cell) (old : Option Nat) (cell : Cell)
    {address : Nat} (bound : address < arena.size) :
    (linkBehind links arena old cell).get? address =
      if old = some address then (arena.get? address).map (links.setNext arena.size)
      else arena.get? address := by
  cases old with
  | none => simpa [linkBehind] using get?_alloc_of_lt arena cell bound
  | some behind =>
      rw [linkBehind, get?_alloc_of_lt _ _ (by simpa using bound)]
      by_cases same : behind = address
      · subst same
        simp
      · rw [get?_modify_of_ne _ _ fun equal => same equal.symm, if_neg (by simpa using same)]

theorem next_linkBehind_of_lt (arena : Arena Cell) (old : Option Nat) (cell : Cell)
    {address : Nat} (bound : address < arena.size) :
    (linkBehind links arena old cell).link? links.next address =
      if old = some address then some arena.size else arena.link? links.next address := by
  rw [link?, get?_linkBehind_of_lt arena old cell bound]
  split
  · rcases get?_isSome_of_lt bound with ⟨found, same⟩
    simp [same, links.next_setNext]
  · rfl

theorem previous_linkBehind_of_lt (arena : Arena Cell) (old : Option Nat) (cell : Cell)
    {address : Nat} (bound : address < arena.size) :
    (linkBehind links arena old cell).link? links.previous address =
      arena.link? links.previous address := by
  rw [link?, get?_linkBehind_of_lt arena old cell bound, link?]
  split
  · cases arena.get? address <;> simp [links.previous_setNext]
  · rfl

theorem link?_linkBehind_self (arena : Arena Cell) (old : Option Nat) (cell : Cell)
    (field : Cell → Option Nat) :
    (linkBehind links arena old cell).link? field arena.size = field cell := by
  simp [link?, get?_linkBehind_self]

theorem link?_eq_none_of_size_le {arena : Arena Cell} {field : Cell → Option Nat}
    {address : Nat} (bound : arena.size ≤ address) : arena.link? field address = none := by
  have outside : arena.get? address = none := List.getElem?_eq_none bound
  simp [link?, outside]

/-! ## Lists -/

/-- Two cells point to each other, the later one was allocated later. -/
structure Edge (links : Links Cell) (arena : Arena Cell) (first second : Nat) : Prop where
  next : arena.link? links.next first = some second
  previous : arena.link? links.previous second = some first
  ordered : first < second

/-- The addresses are those of a complete doubly linked list. -/
structure Linked (links : Links Cell) (arena : Arena Cell) (head : Nat) (list : List Nat) :
    Prop where
  starts : list.head? = some head
  edges : list.IsChain (Edge links arena)
  inside : ∀ address ∈ list, address < arena.size
  first : arena.link? links.previous head = none
  last : ∀ address ∈ list.getLast?, arena.link? links.next address = none

theorem Linked.pairwise {arena : Arena Cell} {head : Nat} {list : List Nat}
    (linked : Linked links arena head list) : list.Pairwise (· < ·) :=
  List.isChain_iff_pairwise.mp (linked.edges.imp fun _ _ edge => edge.ordered)

theorem linked_alone {arena : Arena Cell} {cell : Cell} (first : links.previous cell = none)
    (last : links.next cell = none) :
    Linked links (linkBehind links arena none cell) arena.size [arena.size] := by
  refine ⟨rfl, List.isChain_singleton _, by simp, ?_, ?_⟩
  · rwa [link?_linkBehind_self]
  · intro address member
    obtain rfl : arena.size = address := by simpa using member
    rwa [link?_linkBehind_self]

theorem Linked.linkBehind {arena : Arena Cell} {head behind : Nat} {before after : List Nat}
    {cell : Cell} (linked : Linked links arena head (before ++ behind :: after))
    (previous : links.previous cell = some behind) (last : links.next cell = none) :
    Linked links (linkBehind links arena (some behind) cell) head
      (before ++ [behind, arena.size]) := by
  have inside : behind < arena.size := linked.inside behind (by simp)
  have pairwise := linked.pairwise
  have below : ∀ address ∈ before ++ [behind], address ≤ behind := by
    intro address member
    rcases List.mem_append.mp member with earlier | same
    · exact Nat.le_of_lt ((List.pairwise_append.mp pairwise).2.2 address earlier behind (by simp))
    · rw [List.mem_singleton.mp same]
  have kept : (before ++ [behind]).IsChain
      (Edge links (Arena.linkBehind links arena (some behind) cell)) := by
    apply (List.isChain_split.mp linked.edges).1.imp_of_mem_imp
    intro first second firstMember secondMember edge
    have secondBound := below second secondMember
    have firstBound : first < behind := Nat.lt_of_lt_of_le edge.ordered secondBound
    refine ⟨?_, ?_, edge.ordered⟩
    · rw [next_linkBehind_of_lt _ _ _ (firstBound.trans inside), if_neg, edge.next]
      simpa using Nat.ne_of_gt firstBound
    · rw [previous_linkBehind_of_lt _ _ _ (Nat.lt_of_le_of_lt secondBound inside), edge.previous]
  have headMember : head ∈ before ++ behind :: after := List.mem_of_head? linked.starts
  refine ⟨?_, ?_, ?_, ?_, ?_⟩
  · cases before with
    | nil => simpa using linked.starts
    | cons start rest => simpa using linked.starts
  · refine List.isChain_append_cons_cons.mpr ⟨kept, ⟨?_, ?_, inside⟩, List.isChain_singleton _⟩
    · rw [next_linkBehind_of_lt _ _ _ inside, if_pos rfl]
    · rw [link?_linkBehind_self, previous]
  · intro address member
    rw [size_linkBehind]
    rcases List.mem_append.mp member with earlier | later
    · exact Nat.lt_succ_of_lt (linked.inside address (List.mem_append_left _ earlier))
    · simp only [List.mem_cons, List.not_mem_nil, or_false] at later
      rcases later with rfl | rfl
      · exact Nat.lt_succ_of_lt inside
      · exact Nat.lt_succ_self _
  · rw [previous_linkBehind_of_lt _ _ _ (linked.inside head headMember), linked.first]
  · intro address member
    obtain rfl : arena.size = address := by simpa using member
    rwa [link?_linkBehind_self]

theorem followLink_eq {arena : Arena Cell} {field : Cell → Option Nat} {first : Nat}
    {rest : List Nat} {fuel : Nat}
    (chain : (first :: rest).IsChain fun here there => arena.link? field here = some there)
    (last : ∀ address ∈ (first :: rest).getLast?, arena.link? field address = none)
    (enough : (first :: rest).length ≤ fuel) :
    arena.followLink field fuel first = first :: rest := by
  induction rest generalizing first fuel with
  | nil =>
      cases fuel with
      | zero => simp at enough
      | succ fuel => simp [followLink, last first (by simp)]
  | cons second rest induction =>
      cases fuel with
      | zero => simp at enough
      | succ fuel =>
          rcases List.isChain_cons_cons.mp chain with ⟨edge, chain⟩
          have inner := induction chain (fun address member => last address (by simpa using member))
            (Nat.le_of_succ_le_succ enough)
          simp [followLink, edge, inner]

theorem Linked.length_le {arena : Arena Cell} {head : Nat} {list : List Nat}
    (linked : Linked links arena head list) : list.length ≤ arena.size := by
  have nodup : list.Nodup := linked.pairwise.imp Nat.ne_of_lt
  have inside : list ⊆ List.range arena.size := fun address member =>
    List.mem_range.mpr (linked.inside address member)
  simpa using (nodup.subperm inside).length_le

theorem Linked.followLink_next {arena : Arena Cell} {head : Nat} {list : List Nat}
    (linked : Linked links arena head list) :
    arena.followLink links.next (arena.size + 1) head = list := by
  have starts := linked.starts
  have bound := linked.length_le
  cases list with
  | nil => cases starts
  | cons first rest =>
      obtain rfl : first = head := by simpa using starts
      exact followLink_eq (linked.edges.imp fun _ _ edge => edge.next) linked.last
        (Nat.le_succ_of_le bound)

theorem Linked.followLink_previous {arena : Arena Cell} {head : Nat} {list : List Nat}
    (linked : Linked links arena head list) :
    arena.followLink links.previous (arena.size + 1) head = [head] := by
  simp [followLink, linked.first]

/-! ## Cells that are no longer on the list -/

/-- The next pointers lead from one cell to another. -/
def Reached (links : Links Cell) (arena : Arena Cell) : Nat → Nat → Prop :=
  Relation.ReflTransGen fun here there => arena.link? links.next here = some there

/-- The list from `head` does not contain an allocated cell. -/
def Dropped (links : Links Cell) (arena : Arena Cell) (head : Option Nat) (address : Nat) :
    Prop :=
  address < arena.size ∧ ∀ start ∈ head, ¬Reached links arena start address

/-- Every next pointer is answered by a previous pointer. -/
def Backed (links : Links Cell) (arena : Arena Cell) : Prop :=
  ∀ here there, arena.link? links.next here = some there →
    arena.link? links.previous there = some here ∧ there < arena.size

theorem reached_of_mem_followLink {arena : Arena Cell} {fuel start address : Nat}
    (member : address ∈ arena.followLink links.next fuel start) :
    Reached links arena start address := by
  induction fuel generalizing start with
  | zero => cases member
  | succ fuel induction =>
      simp only [followLink] at member
      rcases List.mem_cons.mp member with rfl | member
      · exact .refl
      · rcases pointed : arena.link? links.next start with _ | next
        · simp [pointed] at member
        · rw [pointed] at member
          exact .head pointed (induction member)

theorem reached_of_end {arena : Arena Cell} {start address : Nat}
    (last : arena.link? links.next start = none) (reached : Reached links arena start address) :
    address = start := by
  rcases reached.cases_head with same | ⟨next, edge, _⟩
  · exact same.symm
  · rw [last] at edge
    cases edge

theorem next_linkBehind_cases {arena : Arena Cell} {old : Option Nat} {cell : Cell}
    {here there : Nat} (last : links.next cell = none)
    (edge : (linkBehind links arena old cell).link? links.next here = some there) :
    here < arena.size ∧ ((old = some here ∧ there = arena.size) ∨
      (old ≠ some here ∧ arena.link? links.next here = some there)) := by
  rcases Nat.lt_trichotomy here arena.size with bound | rfl | beyond
  · rw [next_linkBehind_of_lt _ _ _ bound] at edge
    split at edge
    · exact ⟨bound, .inl ⟨‹_›, (Option.some_inj.mp edge).symm⟩⟩
    · exact ⟨bound, .inr ⟨‹_›, edge⟩⟩
  · rw [link?_linkBehind_self, last] at edge
    cases edge
  · rw [link?_eq_none_of_size_le (by rw [size_linkBehind]; omega)] at edge
    cases edge

theorem Backed.linkBehind {arena : Arena Cell} {old : Option Nat} {cell : Cell}
    (backed : Backed links arena) (previous : links.previous cell = old)
    (last : links.next cell = none) : Backed links (linkBehind links arena old cell) := by
  intro here there edge
  rcases (next_linkBehind_cases last edge).2 with ⟨behind, rfl⟩ | ⟨_, kept⟩
  · rw [link?_linkBehind_self, previous, size_linkBehind]
    exact ⟨behind, Nat.lt_succ_self _⟩
  · rcases backed here there kept with ⟨answer, bound⟩
    rw [previous_linkBehind_of_lt _ _ _ bound, size_linkBehind]
    exact ⟨answer, Nat.lt_succ_of_lt bound⟩

/-- A walk along a field that ends somewhere meets no cell twice. -/
theorem nodup_of_isChain {arena : Arena Cell} {field : Cell → Option Nat} {list : List Nat}
    (chain : list.IsChain fun here there => arena.link? field here = some there)
    (last : ∀ address ∈ list.getLast?, arena.link? field address = none) : list.Nodup := by
  induction list with
  | nil => exact List.nodup_nil
  | cons first rest induction =>
      have restLast : ∀ address ∈ rest.getLast?, arena.link? field address = none := by
        intro address member
        cases rest with
        | nil => cases member
        | cons second others => exact last address (by simpa using member)
      refine List.nodup_cons.mpr ⟨?_, induction chain.tail restLast⟩
      intro again
      rcases List.append_of_mem again with ⟨before, after, rfl⟩
      -- The walk from the second time on is the walk from the first time on, and shorter.
      have whole := followLink_eq chain last (Nat.le_refl _)
      have suffix := @followLink_eq _ arena field first after
        (first :: (before ++ first :: after)).length
        (List.isChain_cons_split.mp chain).2 (by simpa using restLast)
        (by simp only [List.length_cons, List.length_append]; omega)
      have same := congrArg List.length (whole.symm.trans suffix)
      simp only [List.length_cons, List.length_append] at same
      omega

theorem exists_walk_back {arena : Arena Cell} {head address : Nat}
    (backed : Backed links arena) (inside : head < arena.size)
    (reached : Reached links arena head address) :
    ∃ list, (address :: list).IsChain
        (fun here there => arena.link? links.previous here = some there) ∧
      (address :: list).getLast? = some head ∧ ∀ other ∈ address :: list, other < arena.size := by
  induction reached with
  | refl => exact ⟨[], List.isChain_singleton _, rfl, by simpa using inside⟩
  | @tail here there reached edge induction =>
      rcases induction with ⟨list, chain, ends, bounds⟩
      rcases backed here there edge with ⟨answer, bound⟩
      refine ⟨here :: list, List.isChain_cons_cons.mpr ⟨answer, chain⟩, ?_, ?_⟩
      · rw [List.getLast?_cons_cons, ends]
      · exact List.forall_mem_cons.mpr ⟨bound, bounds⟩

theorem getLastD_followLink_previous {arena : Arena Cell} {head address : Nat}
    (backed : Backed links arena) (first : arena.link? links.previous head = none)
    (inside : head < arena.size) (reached : Reached links arena head address) :
    (arena.followLink links.previous (arena.size + 1) address).getLastD address = head := by
  rcases exists_walk_back backed inside reached with ⟨list, chain, ends, bounds⟩
  have last : ∀ other ∈ (address :: list).getLast?,
      arena.link? links.previous other = none := by
    intro other member
    rw [ends] at member
    obtain rfl : head = other := Option.some.inj member
    exact first
  have short : (address :: list).length ≤ arena.size := by
    have nodup := nodup_of_isChain chain last
    have range : address :: list ⊆ List.range arena.size := fun other member =>
      List.mem_range.mpr (bounds other member)
    simpa using (nodup.subperm range).length_le
  rw [followLink_eq chain last (Nat.le_succ_of_le short), List.getLastD_eq_getLast?, ends]
  rfl

theorem Dropped.linkBehind {arena : Arena Cell} {head old : Option Nat} {address : Nat}
    {cell : Cell} (dropped : Dropped links arena head address)
    (last : links.next cell = none) :
    Dropped links (linkBehind links arena old cell) head address := by
  refine ⟨by rw [size_linkBehind]; exact Nat.lt_succ_of_lt dropped.1, ?_⟩
  intro start member reached
  apply dropped.2 start member
  clear member
  induction reached using Relation.ReflTransGen.head_induction_on with
  | refl => exact .refl
  | head edge _ induction =>
      rcases (next_linkBehind_cases last edge).2 with ⟨_, rfl⟩ | ⟨_, kept⟩
      · have ends := reached_of_end (link?_eq_none_of_size_le (Nat.le_refl _)) induction
        exact absurd dropped.1 (by omega)
      · exact .head kept induction

theorem dropped_of_alone {arena : Arena Cell} {address : Nat} {cell : Cell}
    (bound : address < arena.size) (last : links.next cell = none) :
    Dropped links (Arena.linkBehind links arena none cell) (some arena.size) address := by
  refine ⟨by rw [size_linkBehind]; exact Nat.lt_succ_of_lt bound, ?_⟩
  rintro start ⟨⟩ reached
  have ends := reached_of_end (by rw [link?_linkBehind_self, last]) reached
  omega

theorem dropped_of_relinked {arena : Arena Cell} {head : Option Nat} {behind address : Nat}
    {cell : Cell} (backed : Backed links arena)
    (first : ∀ start ∈ head, arena.link? links.previous start = none)
    (followed : arena.link? links.next behind = some address)
    (last : links.next cell = none) :
    Dropped links (Arena.linkBehind links arena (some behind) cell) head address := by
  rcases backed behind address followed with ⟨answer, bound⟩
  refine ⟨by rw [size_linkBehind]; exact Nat.lt_succ_of_lt bound, ?_⟩
  intro start member reached
  rcases reached.cases_tail with rfl | ⟨here, _, edge⟩
  · rw [first _ member] at answer
    cases answer
  · rcases (next_linkBehind_cases last edge).2 with ⟨_, fresh⟩ | ⟨other, kept⟩
    · omega
    · have same := (backed here address kept).1
      rw [answer, Option.some_inj] at same
      exact other (congrArg some same)

end EventPipeline.Arena
