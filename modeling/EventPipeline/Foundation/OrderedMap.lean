import EventPipeline.Foundation.OrderedDict

/-! # Ordered finite maps

A finite map together with the order in which its keys came in. Putting a value under a present
key replaces the value and keeps the place of the key. Dictionaries represent such maps.
-/

namespace EventPipeline

structure OrderedMap (Key Value : Type) where
  order : List Key
  lookup : Key → Option Value
  nodup : order.Nodup
  listed : ∀ key, key ∈ order ↔ (lookup key).isSome

namespace OrderedMap

variable {Key Value : Type}

def empty : OrderedMap Key Value where
  order := []
  lookup := fun _ => none
  nodup := List.nodup_nil
  listed := by simp

def entry (map : OrderedMap Key Value) (key : Key) : Option (Key × Value) :=
  (map.lookup key).map (Prod.mk key)

def values (map : OrderedMap Key Value) : List Value :=
  map.order.filterMap map.lookup

variable [DecidableEq Key]

def put (map : OrderedMap Key Value) (key : Key) (value : Value) : OrderedMap Key Value where
  order := if key ∈ map.order then map.order else map.order ++ [key]
  lookup := Function.update map.lookup key (some value)
  nodup := by
    split
    · exact map.nodup
    · rename_i absent
      rw [List.nodup_append]
      refine ⟨map.nodup, List.nodup_singleton key, ?_⟩
      rintro other member _ (_ | _) rfl
      · exact absent member
      · contradiction
  listed := by
    intro other
    by_cases same : other = key
    · subst same
      by_cases present : other ∈ map.order <;> simp [present]
    · rw [Function.update_of_ne same, ← map.listed other]
      by_cases present : key ∈ map.order <;> simp [present, same]

def remove (map : OrderedMap Key Value) (key : Key) : OrderedMap Key Value where
  order := map.order.filter (· ≠ key)
  lookup := Function.update map.lookup key none
  nodup := map.nodup.filter _
  listed := by
    intro other
    by_cases same : other = key
    · subst same
      simp
    · rw [Function.update_of_ne same, ← map.listed other]
      simp [same]

theorem lookup_put (map : OrderedMap Key Value) (key probe : Key) (value : Value) :
    (map.put key value).lookup probe = if key = probe then some value else map.lookup probe := by
  by_cases same : key = probe
  · subst same
    rw [if_pos rfl]
    exact Function.update_self ..
  · rw [if_neg same]
    exact Function.update_of_ne (Ne.symm same) ..

theorem lookup_remove (map : OrderedMap Key Value) (key probe : Key) :
    (map.remove key).lookup probe = if probe = key then none else map.lookup probe := by
  by_cases same : probe = key
  · subst same
    rw [if_pos rfl]
    exact Function.update_self ..
  · rw [if_neg same]
    exact Function.update_of_ne same ..

def putAll (key : Value → Key) (map : OrderedMap Key Value) (values : List Value) :
    OrderedMap Key Value :=
  values.foldl (fun map value => map.put (key value) value) map

def removeAll (map : OrderedMap Key Value) (keys : List Key) : OrderedMap Key Value :=
  keys.foldl remove map

end OrderedMap

namespace OrderedDict

variable {Key Value : Type} [DecidableEq Key]

/-- The entries of a dictionary are those of a map, in its order. -/
structure Represents (dict : List (Key × Value)) (map : OrderedMap Key Value) : Prop where
  keys_eq : keys dict = map.order
  get_eq : ∀ key, get key dict = map.lookup key

namespace Represents

variable {dict : List (Key × Value)} {map : OrderedMap Key Value}

theorem nodup_keys (represents : Represents dict map) : (keys dict).Nodup :=
  represents.keys_eq ▸ map.nodup

theorem empty : Represents ([] : List (Key × Value)) OrderedMap.empty :=
  ⟨rfl, fun _ => rfl⟩

theorem insert (represents : Represents dict map) (key : Key) (value : Value) :
    Represents (OrderedDict.insert key value dict) (map.put key value) where
  keys_eq := by
    rw [keys_insert, represents.keys_eq]
    rfl
  get_eq := by
    intro probe
    rw [get_insert, represents.get_eq, OrderedMap.lookup_put]

theorem filter_ne (represents : Represents dict map) (key : Key) :
    Represents (dict.filter fun entry => entry.1 ≠ key) (map.remove key) where
  keys_eq := by
    change _ = map.order.filter _
    rw [← represents.keys_eq, keys, keys, List.filter_map]
    rfl
  get_eq := by
    intro probe
    rw [get_filter_ne, represents.get_eq, OrderedMap.lookup_remove]

theorem update (represents : Represents dict map) {key : Value → Key}
    {entries : List (Key × Value)} (keyed : ∀ entry ∈ entries, entry.1 = key entry.2) :
    Represents (OrderedDict.update dict entries)
      (map.putAll key (entries.map Prod.snd)) := by
  induction entries generalizing dict map with
  | nil => exact represents
  | cons entry entries induction =>
      rcases entry with ⟨own, value⟩
      obtain rfl : own = key value := keyed (own, value) List.mem_cons_self
      rw [update_cons]
      exact induction (represents.insert (key value) value)
        fun entry member => keyed entry (List.mem_cons_of_mem _ member)

theorem dict_eq (represents : Represents dict map) :
    dict = map.order.filterMap map.entry := by
  have looked : ∀ entries : List (Key × Value), (∀ entry ∈ entries, entry ∈ dict) →
      entries = (keys entries).filterMap map.entry := by
    intro entries
    induction entries with
    | nil => exact fun _ => rfl
    | cons entry entries induction =>
        intro members
        rcases entry with ⟨key, value⟩
        have found : map.lookup key = some value := by
          rw [← represents.get_eq]
          exact get_of_mem represents.nodup_keys (members (key, value) List.mem_cons_self)
        have entered : map.entry key = some (key, value) := by
          rw [OrderedMap.entry, found, Option.map_some]
        have rest := induction fun entry member => members entry (List.mem_cons_of_mem _ member)
        exact (congrArg _ rest).trans (List.filterMap_cons_some entered).symm
  exact represents.keys_eq ▸ looked dict fun _ member => member

theorem values_eq (represents : Represents dict map) : dict.map Prod.snd = map.values := by
  rw [represents.dict_eq, List.map_filterMap, OrderedMap.values]
  congr 1
  funext key
  rw [OrderedMap.entry, Option.map_map]
  exact Option.map_id'

end Represents

end OrderedDict

end EventPipeline
