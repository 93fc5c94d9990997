import EventPipeline.Foundation.Loop
import Mathlib.Data.List.Nodup

/-! # Insertion-ordered dictionaries

A dictionary is the list of its entries in order of first insertion. Storing
under a present key replaces the value and keeps the position of the key.
-/

namespace EventPipeline.OrderedDict

variable {Key Value Other : Type} [DecidableEq Key]

def get (key : Key) : List (Key × Value) → Option Value
  | [] => none
  | (other, value) :: rest => if other = key then some value else get key rest

/-- Store a value: in place when the key is present, at the end otherwise. -/
def insert (key : Key) (value : Value) : List (Key × Value) → List (Key × Value)
  | [] => [(key, value)]
  | (other, old) :: rest =>
      if other = key then (key, value) :: rest
      else (other, old) :: insert key value rest

def keys (dict : List (Key × Value)) : List Key :=
  dict.map Prod.fst

example : insert 0 "c" [(0, "a"), (1, "b")] = [(0, "c"), (1, "b")] := rfl

@[simp] theorem get_nil (key : Key) : get key ([] : List (Key × Value)) = none := rfl

omit [DecidableEq Key] in
@[simp] theorem keys_nil : keys ([] : List (Key × Value)) = [] := rfl

theorem get_insert (key probe : Key) (value : Value) (dict : List (Key × Value)) :
    get probe (insert key value dict) =
      if key = probe then some value else get probe dict := by
  induction dict with
  | nil => rfl
  | cons entry rest induction =>
      rcases entry with ⟨other, old⟩
      by_cases same : other = key
      · subst same
        by_cases probed : other = probe <;> simp [insert, get, probed]
      · by_cases probed : other = probe
        · subst probed
          have different : key ≠ other := fun equal => same equal.symm
          simp [insert, get, same, different]
        · simp [insert, get, same, probed, induction]

/-- The keys after an insertion: unchanged, or the new key at the end. -/
theorem keys_insert (key : Key) (value : Value) (dict : List (Key × Value)) :
    keys (insert key value dict) =
      if key ∈ keys dict then keys dict else keys dict ++ [key] := by
  induction dict with
  | nil => simp [insert, keys]
  | cons entry rest induction =>
      rcases entry with ⟨other, old⟩
      by_cases same : other = key
      · subst same
        simp [insert, keys]
      · have different : key ≠ other := fun equal => same equal.symm
        simp only [keys] at induction ⊢
        by_cases present : key ∈ rest.map Prod.fst <;>
          simp [insert, same, different, induction, present]

theorem nodup_keys_insert (key : Key) (value : Value) {dict : List (Key × Value)}
    (nodup : (keys dict).Nodup) : (keys (insert key value dict)).Nodup := by
  rw [keys_insert]
  by_cases present : key ∈ keys dict
  · simpa [present] using nodup
  · rw [if_neg present]
    exact List.nodup_append.mpr ⟨nodup, by simp, by
      intro left leftMem right rightMem equal
      simp only [List.mem_singleton] at rightMem
      exact present (rightMem ▸ equal ▸ leftMem)⟩

theorem get_eq_none_iff (key : Key) (dict : List (Key × Value)) :
    get key dict = none ↔ key ∉ keys dict := by
  induction dict with
  | nil => simp
  | cons entry rest induction =>
      rcases entry with ⟨other, old⟩
      by_cases same : other = key
      · simp [get, keys, same]
      · have different : key ≠ other := fun equal => same equal.symm
        simp only [keys] at induction
        simp [get, keys, same, different, induction]

theorem mem_of_get {key : Key} {value : Value} {dict : List (Key × Value)}
    (found : get key dict = some value) : (key, value) ∈ dict := by
  induction dict with
  | nil => cases found
  | cons entry rest induction =>
      rcases entry with ⟨other, old⟩
      by_cases same : other = key
      · simp only [get, same, if_true, Option.some.injEq] at found
        simp [same, found]
      · simp only [get, same, if_false] at found
        exact List.mem_cons_of_mem _ (induction found)

theorem mem_keys_of_get {key : Key} {value : Value} {dict : List (Key × Value)}
    (found : get key dict = some value) : key ∈ keys dict :=
  List.mem_map_of_mem (mem_of_get found)

theorem get_of_mem {key : Key} {value : Value} {dict : List (Key × Value)}
    (nodup : (keys dict).Nodup) (member : (key, value) ∈ dict) :
    get key dict = some value := by
  induction dict with
  | nil => cases member
  | cons entry rest induction =>
      rcases entry with ⟨other, old⟩
      have parts := List.nodup_cons.mp nodup
      rcases List.mem_cons.mp member with equal | member
      · cases equal
        simp [get]
      · have different : other ≠ key := by
          intro equal
          exact parts.1 (equal ▸ List.mem_map.mpr ⟨_, member, rfl⟩)
        simp [get, different, induction parts.2 member]

theorem get_map (transform : Value → Other) (key : Key) (dict : List (Key × Value)) :
    get key (dict.map fun entry => (entry.1, transform entry.2)) =
      (get key dict).map transform := by
  induction dict with
  | nil => rfl
  | cons entry rest induction =>
      rcases entry with ⟨other, old⟩
      by_cases same : other = key <;> simp [get, same, induction]

theorem insert_map (transform : Value → Other) (key : Key) (value : Value)
    (dict : List (Key × Value)) :
    (insert key value dict).map (fun entry => (entry.1, transform entry.2)) =
      insert key (transform value)
        (dict.map fun entry => (entry.1, transform entry.2)) := by
  induction dict with
  | nil => rfl
  | cons entry rest induction =>
      rcases entry with ⟨other, old⟩
      by_cases same : other = key <;> simp [insert, same, induction]

theorem insert_of_not_mem {key : Key} (value : Value) {dict : List (Key × Value)}
    (absent : key ∉ keys dict) : insert key value dict = dict ++ [(key, value)] := by
  induction dict with
  | nil => rfl
  | cons entry rest induction =>
      rcases entry with ⟨other, old⟩
      simp only [keys, List.map_cons, List.mem_cons, not_or] at absent
      have different : other ≠ key := fun equal => absent.1 equal.symm
      simp [insert, different, induction absent.2]

theorem get_filter_ne (key probe : Key) (dict : List (Key × Value)) :
    get probe (dict.filter fun entry => entry.1 ≠ key) =
      if probe = key then none else get probe dict := by
  induction dict with
  | nil => simp
  | cons entry rest induction =>
      rcases entry with ⟨other, value⟩
      by_cases removed : other = key
      · subst removed
        rw [List.filter_cons_of_neg (by simp), induction]
        by_cases probed : probe = other
        · simp [probed]
        · have different : other ≠ probe := fun equal => probed equal.symm
          simp [get, probed, different]
      · rw [List.filter_cons_of_pos (by simpa using removed)]
        by_cases found : other = probe
        · subst found
          simp [get, removed]
        · simp only [get, found, if_false]
          exact induction

/-! ## Updates -/

/-- Store all entries of another dictionary. -/
def update (dict entries : List (Key × Value)) : List (Key × Value) :=
  entries.foldl (fun dict entry => insert entry.1 entry.2 dict) dict

theorem update_cons (dict : List (Key × Value)) (key : Key) (value : Value)
    (entries : List (Key × Value)) :
    update dict ((key, value) :: entries) = update (insert key value dict) entries := rfl

theorem insert_of_get {key : Key} {value : Value} {dict : List (Key × Value)}
    (found : get key dict = some value) : insert key value dict = dict := by
  induction dict with
  | nil => cases found
  | cons entry rest induction =>
      rcases entry with ⟨other, old⟩
      rw [get] at found
      rw [insert]
      split at found
      · rename_i same
        cases found
        rw [if_pos same, same]
      · rename_i different
        rw [if_neg different, induction found]

theorem insert_append {key : Key} {front : List (Key × Value)} (absent : key ∉ keys front)
    (old value : Value) (back : List (Key × Value)) :
    insert key value (front ++ (key, old) :: back) = front ++ (key, value) :: back := by
  induction front with
  | nil => simp [insert]
  | cons entry front induction =>
      rcases entry with ⟨other, kept⟩
      simp only [keys, List.map_cons, List.mem_cons, not_or] at absent
      have different : other ≠ key := fun equal => absent.1 equal.symm
      simp only [List.cons_append, insert, different, if_false]
      rw [induction absent.2]

theorem update_of_disjoint {dict entries : List (Key × Value)}
    (nodup : (keys (dict ++ entries)).Nodup) : update dict entries = dict ++ entries := by
  induction entries generalizing dict with
  | nil => simp [update]
  | cons entry entries induction =>
      rcases entry with ⟨key, value⟩
      have longer : dict ++ (key, value) :: entries = dict ++ [(key, value)] ++ entries := by
        simp
      have absent : key ∉ keys dict := by
        simp only [keys, List.map_append, List.map_cons, List.nodup_append] at nodup
        intro present
        exact nodup.2.2 key present key List.mem_cons_self rfl
      rw [longer] at nodup ⊢
      rw [update_cons, insert_of_not_mem value absent, induction nodup]

theorem update_of_keys_eq {front entries middle back : List (Key × Value)}
    (same : keys entries = keys middle) (nodup : (keys (front ++ middle)).Nodup) :
    update (front ++ middle ++ back) entries = front ++ entries ++ back := by
  induction entries generalizing front middle with
  | nil =>
      rw [keys_nil, keys, eq_comm, List.map_eq_nil_iff] at same
      rw [same]
      rfl
  | cons entry entries induction =>
      rcases entry with ⟨key, value⟩
      cases middle with
      | nil => cases same
      | cons other middle =>
          rcases other with ⟨otherKey, old⟩
          simp only [keys, List.map_cons, List.cons.injEq] at same
          rcases same with ⟨rfl, same⟩
          have absent : key ∉ keys front := by
            simp only [keys, List.map_append, List.map_cons, List.nodup_append] at nodup
            intro present
            exact nodup.2.2 key present key List.mem_cons_self rfl
          have moved : (keys (front ++ [(key, value)] ++ middle)).Nodup := by
            simpa [keys] using nodup
          have stored := insert_append absent old value (middle ++ back)
          have rest := @induction (front ++ [(key, value)]) middle same moved
          rw [update_cons]
          simp only [List.append_assoc, List.cons_append, List.nil_append] at stored rest ⊢
          rw [stored, rest]

theorem mem_insert {key : Key} {value : Value} {dict : List (Key × Value)}
    {entry : Key × Value} (member : entry ∈ insert key value dict) :
    entry = (key, value) ∨ entry ∈ dict := by
  induction dict with
  | nil => exact .inl (List.mem_singleton.mp member)
  | cons head tail induction =>
      rcases head with ⟨other, old⟩
      rw [insert] at member
      split at member
      · rcases List.mem_cons.mp member with rfl | member
        · exact .inl rfl
        · exact .inr (List.mem_cons_of_mem _ member)
      · rcases List.mem_cons.mp member with rfl | member
        · exact .inr List.mem_cons_self
        · exact (induction member).imp id (List.mem_cons_of_mem _)

theorem mem_keys_update {key : Key} {dict entries : List (Key × Value)} :
    key ∈ keys (update dict entries) ↔ key ∈ keys dict ∨ key ∈ keys entries := by
  induction entries generalizing dict with
  | nil => simp [update]
  | cons entry entries induction =>
      rcases entry with ⟨other, value⟩
      have inserted : key ∈ keys (insert other value dict) ↔ key ∈ keys dict ∨ key = other := by
        rw [keys_insert]
        split
        · rename_i present
          constructor
          · exact .inl
          · rintro (member | rfl)
            · exact member
            · exact present
        · simp
      rw [update_cons, induction, inserted, or_assoc]
      simp [keys]

/-- What an update stores under a key, if anything, comes before what was there. -/
theorem get_update (key : Key) {dict entries : List (Key × Value)}
    (nodup : (keys entries).Nodup) :
    get key (update dict entries) = (get key entries).or (get key dict) := by
  induction entries generalizing dict with
  | nil => rfl
  | cons entry entries induction =>
      rcases entry with ⟨other, value⟩
      have parts := List.nodup_cons.mp nodup
      rw [update_cons, induction parts.2, get_insert]
      by_cases same : other = key
      · subst same
        have absent : get other entries = none := (get_eq_none_iff other entries).mpr parts.1
        simp [get, absent]
      · simp [get, same]

/-! ## Entries in any order -/

def last (key : Key) (entries : List (Key × Value)) : Option Value :=
  (entries.filter fun entry => entry.1 = key).getLast?.map Prod.snd

theorem last_cons (key other : Key) (value : Value) (entries : List (Key × Value)) :
    last key ((other, value) :: entries) =
      (last key entries).or (if other = key then some value else none) := by
  by_cases same : other = key
  · cases found : (entries.filter fun entry => entry.1 = key).getLast? with
    | none => simp [last, same, List.getLast?_cons, found]
    | some entry => simp [last, same, List.getLast?_cons, found]
  · simp [last, same]

theorem get_update_last (key : Key) (dict entries : List (Key × Value)) :
    get key (update dict entries) = (last key entries).or (get key dict) := by
  induction entries generalizing dict with
  | nil => rfl
  | cons entry entries induction =>
      rcases entry with ⟨other, value⟩
      rw [update_cons, induction, get_insert, last_cons, Option.or_assoc]
      split_ifs <;> rfl

theorem keys_update (dict entries : List (Key × Value)) :
    keys (update dict entries) = addAll (keys dict) (keys entries) := by
  induction entries generalizing dict with
  | nil => rfl
  | cons entry entries induction =>
      rcases entry with ⟨key, value⟩
      rw [update_cons, induction, keys_insert]
      rfl

end EventPipeline.OrderedDict
