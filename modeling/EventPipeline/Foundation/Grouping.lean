import EventPipeline.Foundation.OrderedDict
import Mathlib.Data.List.Induction

/-! # Grouping by a key

The items of a list are put one after the other into groups, which stand in the order in which
their keys come up first. No item is lost and none is put into two groups.
-/

namespace EventPipeline.Grouping

variable {Key Item : Type} [DecidableEq Key]

def addTo (key : Key) (item : Item) (groups : List (Key × List Item)) :
    List (Key × List Item) :=
  OrderedDict.insert key ((OrderedDict.get key groups).getD [] ++ [item]) groups

def groupBy (key : Item → Key) (items : List Item) : List (Key × List Item) :=
  items.foldl (fun groups item => addTo (key item) item groups) []

example : groupBy (· % 2) [1, 4, 3, 1] = [(1, [1, 3, 1]), (0, [4])] := rfl

variable (key : Item → Key)

@[simp] theorem groupBy_nil : groupBy key ([] : List Item) = [] := rfl

theorem groupBy_concat (items : List Item) (item : Item) :
    groupBy key (items ++ [item]) = addTo (key item) item (groupBy key items) := by
  simp [groupBy]

theorem nodup_keys_groupBy (items : List Item) :
    (OrderedDict.keys (groupBy key items)).Nodup := by
  induction items using List.reverseRecOn with
  | nil => simp
  | append_singleton items item induction =>
      rw [groupBy_concat]
      exact OrderedDict.nodup_keys_insert _ _ induction

theorem get_groupBy (items : List Item) (probe : Key) :
    OrderedDict.get probe (groupBy key items) =
      if items.filter (key · = probe) = [] then none
      else some (items.filter (key · = probe)) := by
  induction items using List.reverseRecOn with
  | nil => simp
  | append_singleton items item induction =>
      rw [groupBy_concat, addTo, OrderedDict.get_insert, List.filter_append]
      by_cases same : key item = probe
      · subst same
        rw [induction]
        by_cases fresh : items.filter (key · = key item) = [] <;> simp [fresh]
      · simp [same, induction]

theorem mem_keys_groupBy {items : List Item} {probe : Key} :
    probe ∈ OrderedDict.keys (groupBy key items) ↔ ∃ item ∈ items, key item = probe := by
  have absent : OrderedDict.get probe (groupBy key items) = none ↔
      items.filter (key · = probe) = [] := by
    rw [get_groupBy]
    by_cases empty : items.filter (key · = probe) = [] <;> simp only [empty, if_true, if_false,
      reduceCtorEq]
  rw [← not_iff_not, ← OrderedDict.get_eq_none_iff, absent, List.filter_eq_nil_iff]
  simp

theorem eq_filter_of_mem_groupBy {items members : List Item} {probe : Key}
    (member : (probe, members) ∈ groupBy key items) :
    members ≠ [] ∧ members = items.filter (key · = probe) := by
  have found := OrderedDict.get_of_mem (nodup_keys_groupBy key items) member
  rw [get_groupBy] at found
  split at found
  · cases found
  · rename_i nonempty
    rw [Option.some.injEq] at found
    exact ⟨found ▸ nonempty, found.symm⟩

theorem flatMap_addTo_perm (probe : Key) (item : Item) (groups : List (Key × List Item)) :
    ((addTo probe item groups).flatMap Prod.snd).Perm (groups.flatMap Prod.snd ++ [item]) := by
  induction groups with
  | nil => simp [addTo, OrderedDict.insert]
  | cons group groups induction =>
      rcases group with ⟨other, members⟩
      by_cases same : other = probe
      · simp only [addTo, OrderedDict.get, OrderedDict.insert, if_pos same, Option.getD_some,
          List.flatMap_cons, List.append_assoc]
        exact List.perm_append_comm.append_left members
      · simp only [addTo, OrderedDict.get, OrderedDict.insert, if_neg same, List.flatMap_cons,
          List.append_assoc]
        exact induction.append_left members

theorem flatMap_groupBy_perm (items : List Item) :
    ((groupBy key items).flatMap Prod.snd).Perm items := by
  induction items using List.reverseRecOn with
  | nil => simp
  | append_singleton items item induction =>
      rw [groupBy_concat]
      exact (flatMap_addTo_perm _ _ _).trans (induction.append_right [item])

theorem groupBy_eq_singleton {items : List Item} {probe : Key} (nonempty : items ≠ [])
    (shared : ∀ item ∈ items, key item = probe) : groupBy key items = [(probe, items)] := by
  have all : items.filter (key · = probe) = items :=
    List.filter_eq_self.mpr fun item member => decide_eq_true (shared item member)
  have found := get_groupBy key items probe
  rw [all, if_neg nonempty] at found
  have nodup := nodup_keys_groupBy key items
  have only : ∀ group ∈ groupBy key items, group.1 = probe := by
    intro group member
    rcases (mem_keys_groupBy key).mp (List.mem_map_of_mem member) with ⟨item, among, same⟩
    rw [← same, shared item among]
  have first := OrderedDict.mem_of_get found
  rcases groups : groupBy key items with _ | ⟨group, _ | ⟨other, rest⟩⟩
  · rw [groups] at found
    cases found
  · rw [groups, List.mem_singleton] at first
    rw [first]
  · rw [groups] at nodup only
    have same : group.1 = other.1 := by
      rw [only group (by simp), only other (by simp)]
    simp [OrderedDict.keys, same] at nodup

end EventPipeline.Grouping
