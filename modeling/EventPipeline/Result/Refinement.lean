import EventPipeline.Result.Mutation

/-! # Result sets as ordered maps

Any number of result sets are made, filled, emptied, merged and copied. Each of them holds the
results of an ordered map by identity, with the content types of these results, and what is done to
one of them does not touch the others.
-/

namespace EventPipeline

/-- A call on result sets, which are counted in the order in which they are made. -/
inductive ResultSetAction (Entity : Type)
  | construct (results : List Entity)
  | add (target : Nat) (result : Entity)
  | addSet (target other : Nat)
  | discard (target : Nat) (result : Entity)
  | discardSet (target other : Nat)
  | clear (target : Nat)
  | copy (original : Nat)
deriving DecidableEq, Repr

namespace ResultSetAction

variable {Entity : Type}

def target : ResultSetAction Entity → Option Nat
  | .construct _ | .copy _ => none
  | .add target _ | .addSet target _ | .discard target _ | .discardSet target _ | .clear target =>
      some target

/-- How many result sets there are afterwards. -/
def count (before : Nat) : ResultSetAction Entity → Nat
  | .construct _ | .copy _ => before + 1
  | _ => before

def Proper (before : Nat) : ResultSetAction Entity → Prop
  | .construct _ => True
  | .add target _ | .discard target _ | .clear target | .copy target => target < before
  | .addSet target other => target < before ∧ other < before
  | .discardSet target other => target < before ∧ other < before ∧ other ≠ target

def ProperRun (before : Nat) : List (ResultSetAction Entity) → Prop
  | [] => True
  | action :: rest => action.Proper before ∧ ProperRun (action.count before) rest

end ResultSetAction

/-! ## The calls on the code's objects and on ordered maps -/

section Calls

variable {Entity : Type} [ObjectIdentity Entity]

def ResultHeap.step (heap : ResultHeap Entity) :
    ResultSetAction Entity → ResultHeap Entity × Except ResultSetError Unit
  | .construct results => (heap.construct results, .ok ())
  | .add target result => heap.add target (.result result)
  | .addSet target other => heap.add target (.resultSet other)
  | .discard target result => heap.discard target (.result result)
  | .discardSet target other => heap.discard target (.resultSet other)
  | .clear target => (heap.clear target, .ok ())
  | .copy original => (heap.copy original, .ok ())

/-- The heap after some calls, or the first exception. -/
def ResultHeap.run (heap : ResultHeap Entity) :
    List (ResultSetAction Entity) → Except ResultSetError (ResultHeap Entity)
  | [] => .ok heap
  | action :: rest =>
      match heap.step action with
      | (next, .ok ()) => next.run rest
      | (_, .error error) => .error error

/-- One ordered map for each result set. -/
abbrev ResultMaps (Entity : Type) := List (OrderedMap String Entity)

def ResultMaps.step (maps : ResultMaps Entity) : ResultSetAction Entity → ResultMaps Entity
  | .construct results => maps ++ [OrderedMap.empty.putAll ObjectIdentity.id results]
  | .add target result => maps.modify target (·.put (ObjectIdentity.id result) result)
  | .addSet target other =>
      maps.modify target (·.putAll ObjectIdentity.id (maps[other]?.getD .empty).values)
  | .discard target result => maps.modify target (·.remove (ObjectIdentity.id result))
  | .discardSet target other =>
      maps.modify target (·.removeAll (maps[other]?.getD .empty).order)
  | .clear target => maps.modify target fun _ => .empty
  | .copy original => maps ++ [maps[original]?.getD .empty]

def ResultMaps.run (maps : ResultMaps Entity) (actions : List (ResultSetAction Entity)) :
    ResultMaps Entity :=
  actions.foldl ResultMaps.step maps

end Calls

/-! ## One result set and its map -/

section Holding

variable {Entity : Type} [ObjectIdentity Entity]

/-- The containers of a result set hold what a map says. -/
structure Holding (content : ResultContent Entity) (contextTypes : List EntityContentType)
    (map : OrderedMap String Entity) : Prop where
  represents : OrderedDict.Represents content map
  keyed : ∀ entry ∈ content, entry.1 = ObjectIdentity.id entry.2
  typed : ∀ entry ∈ content, ∀ contentType,
    EntityContentType.addEntityContentType entry.2 = some contentType →
      contentType ∈ contextTypes

namespace Holding

variable {content : ResultContent Entity} {contextTypes : List EntityContentType}
  {map : OrderedMap String Entity}

theorem empty : Holding ([] : ResultContent Entity) [] OrderedMap.empty where
  represents := .empty
  keyed := fun _ member => nomatch member
  typed := fun _ member => nomatch member

theorem mem_store {entity : Entity} {entry : String × Entity}
    (member : entry ∈ content.store entity) :
    entry ∈ content ∨ entry = (ObjectIdentity.id entity, entity) := by
  unfold ResultContent.store at member
  induction content with
  | nil => exact .inr (List.mem_singleton.mp member)
  | cons first content induction =>
      rcases first with ⟨key, value⟩
      rw [OrderedDict.insert] at member
      split at member
      · rcases List.mem_cons.mp member with rfl | member
        · exact .inr rfl
        · exact .inl (List.mem_cons_of_mem _ member)
      · rcases List.mem_cons.mp member with rfl | member
        · exact .inl List.mem_cons_self
        · rcases induction member with member | same
          · exact .inl (List.mem_cons_of_mem _ member)
          · exact .inr same

theorem store (holding : Holding content contextTypes map) (entity : Entity) :
    Holding (content.store entity) (ResultHeap.trackedTypes contextTypes entity)
      (map.put (ObjectIdentity.id entity) entity) where
  represents := holding.represents.insert _ entity
  keyed := by
    intro entry member
    rcases mem_store member with member | rfl
    · exact holding.keyed entry member
    · rfl
  typed := by
    intro entry member contentType typed
    unfold ResultHeap.trackedTypes
    rcases mem_store member with member | rfl
    · have present := holding.typed entry member contentType typed
      cases EntityContentType.addEntityContentType entity with
      | none => exact present
      | some added => exact mem_addNew.mpr (.inl present)
    · rw [typed]
      exact mem_addNew.mpr (.inr rfl)

theorem storeEach (holding : Holding content contextTypes map) (results : List Entity) :
    Holding (results.foldl ResultContent.store content)
      (results.foldl ResultHeap.trackedTypes contextTypes)
      (map.putAll ObjectIdentity.id results) := by
  induction results generalizing content contextTypes map with
  | nil => exact holding
  | cons result results induction => exact induction (holding.store result)

theorem pop (holding : Holding content contextTypes map) (key : String) :
    Holding (content.pop key) contextTypes (map.remove key) where
  represents := holding.represents.filter_ne key
  keyed := fun entry member => holding.keyed entry (List.mem_filter.mp member).1
  typed := fun entry member => holding.typed entry (List.mem_filter.mp member).1

theorem popEach (holding : Holding content contextTypes map) (keys : List String) :
    Holding (keys.foldl ResultContent.pop content) contextTypes (map.removeAll keys) := by
  induction keys generalizing content map with
  | nil => exact holding
  | cons key keys induction => exact induction (holding.pop key)

theorem ids_eq (holding : Holding content contextTypes map) :
    content.iter.map ObjectIdentity.id = map.order := by
  rw [← holding.represents.keys_eq, ResultContent.iter, OrderedDict.keys, List.map_map]
  apply List.map_congr_left
  intro entry member
  exact (holding.keyed entry member).symm

theorem iter_eq (holding : Holding content contextTypes map) : content.iter = map.values :=
  holding.represents.values_eq

theorem mem_update {dict entries : ResultContent Entity} {entry : String × Entity}
    (keyed : ∀ entry ∈ entries, entry.1 = ObjectIdentity.id entry.2)
    (member : entry ∈ OrderedDict.update dict entries) : entry ∈ dict ∨ entry ∈ entries := by
  induction entries generalizing dict with
  | nil => exact .inl member
  | cons first entries induction =>
      rcases first with ⟨key, value⟩
      obtain rfl : key = ObjectIdentity.id value := keyed (key, value) List.mem_cons_self
      rw [OrderedDict.update_cons] at member
      have apart := induction (fun entry member => keyed entry (List.mem_cons_of_mem _ member))
        member
      rcases apart with member | member
      · rcases mem_store member with member | rfl
        · exact .inl member
        · exact .inr List.mem_cons_self
      · exact .inr (List.mem_cons_of_mem _ member)

theorem update (holding : Holding content contextTypes map) {other : ResultContent Entity}
    {otherTypes : List EntityContentType} {otherMap : OrderedMap String Entity}
    (also : Holding other otherTypes otherMap) :
    Holding (OrderedDict.update content other) (addAll contextTypes otherTypes)
      (map.putAll ObjectIdentity.id otherMap.values) where
  represents := by
    rw [← also.iter_eq]
    exact holding.represents.update also.keyed
  keyed := by
    intro entry member
    rcases mem_update also.keyed member with member | member
    · exact holding.keyed entry member
    · exact also.keyed entry member
  typed := by
    intro entry member contentType typed
    rw [mem_addAll]
    rcases mem_update also.keyed member with member | member
    · exact .inl (holding.typed entry member contentType typed)
    · exact .inr (also.typed entry member contentType typed)

end Holding

end Holding

/-! ## Runs -/

section Runs

variable {Entity : Type} [ObjectIdentity Entity]

structure Refines (heap : ResultHeap Entity) (maps : ResultMaps Entity) : Prop where
  owned : heap.Owned
  size : heap.resultSets.size = maps.length
  holding : ∀ {address map}, maps[address]? = some map →
    Holding (heap.contentOf address) (heap.contextTypesOf address) map

namespace Refines

variable {heap next : ResultHeap Entity} {maps : ResultMaps Entity}
  {content : ResultContent Entity} {contextTypes : List EntityContentType}

theorem empty : Refines (.empty : ResultHeap Entity) [] where
  owned := ResultHeap.owned_empty
  size := rfl
  holding := fun found => nomatch found

theorem mutate (refines : Refines heap maps) {target : Nat}
    (mutated : ResultHeap.Mutated heap next target content contextTypes)
    {update : OrderedMap String Entity → OrderedMap String Entity}
    (holding : ∀ map, maps[target]? = some map → Holding content contextTypes (update map)) :
    Refines next (maps.modify target update) where
  owned := mutated.owned
  size := by rw [mutated.resultSets, refines.size, List.length_modify]
  holding := by
    intro address map found
    by_cases same : address = target
    · subst same
      rw [List.getElem?_modify_eq, Option.map_eq_map, Option.map_eq_some_iff] at found
      obtain ⟨before, found, rfl⟩ := found
      rw [mutated.content, mutated.contextTypes]
      exact holding before found
    · rw [List.getElem?_modify_ne _ _ (Ne.symm same)] at found
      rw [(mutated.others address same).1, (mutated.others address same).2]
      exact refines.holding found

theorem allocate (refines : Refines heap maps)
    (allocated : ResultHeap.Allocated heap next content contextTypes)
    {map : OrderedMap String Entity} (holding : Holding content contextTypes map) :
    Refines next (maps ++ [map]) where
  owned := allocated.owned
  size := by rw [allocated.size, refines.size, List.length_append, List.length_singleton]
  holding := by
    intro address found held
    rcases Nat.lt_trichotomy address maps.length with bound | rfl | outside
    · rw [List.getElem?_append_left bound] at held
      have others := allocated.others address (refines.size.symm ▸ bound)
      rw [others.1, others.2]
      exact refines.holding held
    · rw [List.getElem?_concat_length, Option.some.injEq] at held
      subst held
      rw [← refines.size, allocated.content, allocated.contextTypes]
      exact holding
    · have none : (maps ++ [map])[address]? = none :=
        List.getElem?_eq_none (by rw [List.length_append, List.length_singleton]; omega)
      rw [none] at held
      cases held

theorem holding_getD (refines : Refines heap maps) {address : Nat}
    (bound : address < maps.length) :
    Holding (heap.contentOf address) (heap.contextTypesOf address)
      (maps[address]?.getD .empty) := by
  have found : maps[address]? = some maps[address] := List.getElem?_eq_getElem bound
  rw [found]
  exact refines.holding found

theorem step (refines : Refines heap maps) {action : ResultSetAction Entity}
    (proper : action.Proper maps.length) :
    (heap.step action).2 = .ok () ∧ Refines (heap.step action).1 (maps.step action) := by
  have allocated : ∀ {address}, address < maps.length → address < heap.resultSets.size :=
    fun bound => refines.size.symm ▸ bound
  cases action with
  | construct results =>
      refine ⟨rfl, refines.allocate (ResultHeap.allocated_construct refines.owned results) ?_⟩
      exact Holding.empty.storeEach results
  | add target result =>
      refine ⟨rfl, refines.mutate
        (ResultHeap.mutated_addResult refines.owned (allocated proper) result) ?_⟩
      exact fun map found => (refines.holding found).store result
  | addSet target other =>
      refine ⟨rfl, refines.mutate
        (ResultHeap.mutated_addSet refines.owned (allocated proper.1) other) ?_⟩
      exact fun map found => (refines.holding found).update (refines.holding_getD proper.2)
  | discard target result =>
      refine ⟨rfl, refines.mutate
        (ResultHeap.mutated_modifyContent refines.owned (allocated proper) _) ?_⟩
      exact fun map found => (refines.holding found).pop _
  | discardSet target other =>
      have discarded := ResultHeap.discardEach_eq refines.owned (allocated proper.1) proper.2.2
        (heap.contentOf other).iter
      refine ⟨discarded.1, refines.mutate discarded.2 ?_⟩
      intro map found
      rw [(refines.holding_getD proper.2.1).ids_eq]
      exact (refines.holding found).popEach _
  | clear target =>
      refine ⟨rfl, refines.mutate (ResultHeap.mutated_clear refines.owned (allocated proper)) ?_⟩
      exact fun map found => Holding.empty
  | copy original =>
      refine ⟨rfl, refines.allocate (ResultHeap.allocated_copy refines.owned original) ?_⟩
      exact refines.holding_getD proper

theorem step_others (refines : Refines heap maps) {action : ResultSetAction Entity}
    (proper : action.Proper maps.length) {address : Nat} (bound : address < maps.length)
    (untouched : action.target ≠ some address) :
    (heap.step action).1.contentOf address = heap.contentOf address ∧
      (heap.step action).1.contextTypesOf address = heap.contextTypesOf address := by
  have allocated : ∀ {address}, address < maps.length → address < heap.resultSets.size :=
    fun bound => refines.size.symm ▸ bound
  have different : ∀ {target}, action.target = some target → address ≠ target :=
    fun targeted same => untouched (same ▸ targeted)
  cases action with
  | construct results =>
      exact (ResultHeap.allocated_construct refines.owned results).others address
        (allocated bound)
  | add target result =>
      exact (ResultHeap.mutated_addResult refines.owned (allocated proper) result).others address
        (different rfl)
  | addSet target other =>
      exact (ResultHeap.mutated_addSet refines.owned (allocated proper.1) other).others address
        (different rfl)
  | discard target result =>
      exact (ResultHeap.mutated_modifyContent refines.owned (allocated proper) _).others address
        (different rfl)
  | discardSet target other =>
      exact (ResultHeap.discardEach_eq refines.owned (allocated proper.1) proper.2.2 _).2.others
        address (different rfl)
  | clear target =>
      exact (ResultHeap.mutated_clear refines.owned (allocated proper)).others address
        (different rfl)
  | copy original =>
      exact (ResultHeap.allocated_copy refines.owned original).others address (allocated bound)

end Refines

theorem ResultMaps.length_step (maps : ResultMaps Entity) (action : ResultSetAction Entity) :
    (maps.step action).length = action.count maps.length := by
  cases action <;> simp [ResultMaps.step, ResultSetAction.count]

omit [ObjectIdentity Entity] in
theorem ResultSetAction.le_count (before : Nat) (action : ResultSetAction Entity) :
    before ≤ action.count before := by
  cases action <;> simp [ResultSetAction.count]

theorem ResultHeap.run_cons_of_ok {heap : ResultHeap Entity} {action : ResultSetAction Entity}
    (quiet : (heap.step action).2 = .ok ()) (rest : List (ResultSetAction Entity)) :
    heap.run (action :: rest) = (heap.step action).1.run rest := by
  rw [ResultHeap.run]
  rcases stepped : heap.step action with ⟨next, _ | _⟩
  · rw [stepped] at quiet
    cases quiet
  · rfl

theorem Refines.run {heap : ResultHeap Entity} {maps : ResultMaps Entity}
    (refines : Refines heap maps) {actions : List (ResultSetAction Entity)}
    (proper : ResultSetAction.ProperRun maps.length actions) :
    ∃ next, heap.run actions = .ok next ∧ Refines next (maps.run actions) := by
  induction actions generalizing heap maps with
  | nil => exact ⟨heap, rfl, refines⟩
  | cons action actions induction =>
      obtain ⟨quiet, stepped⟩ := refines.step proper.1
      obtain ⟨next, rest, refined⟩ := induction stepped
        (by rw [ResultMaps.length_step]; exact proper.2)
      exact ⟨next, by rw [ResultHeap.run_cons_of_ok quiet, rest], refined⟩

theorem Refines.run_others {heap next : ResultHeap Entity} {maps : ResultMaps Entity}
    (refines : Refines heap maps) {actions : List (ResultSetAction Entity)}
    (proper : ResultSetAction.ProperRun maps.length actions)
    (done : heap.run actions = .ok next) {address : Nat} (bound : address < maps.length)
    (untouched : ∀ action ∈ actions, action.target ≠ some address) :
    next.contentOf address = heap.contentOf address ∧
      next.contextTypesOf address = heap.contextTypesOf address := by
  induction actions generalizing heap maps with
  | nil =>
      obtain rfl : heap = next := Except.ok.inj done
      exact ⟨rfl, rfl⟩
  | cons action actions induction =>
      obtain ⟨quiet, stepped⟩ := refines.step proper.1
      have here := refines.step_others proper.1 bound (untouched action List.mem_cons_self)
      have longer : address < (maps.step action).length := by
        rw [ResultMaps.length_step]
        exact Nat.lt_of_lt_of_le bound (action.le_count maps.length)
      rw [ResultHeap.run_cons_of_ok quiet] at done
      have rest := induction stepped (by rw [ResultMaps.length_step]; exact proper.2) done longer
        fun action member => untouched action (List.mem_cons_of_mem _ member)
      exact ⟨rest.1.trans here.1, rest.2.trans here.2⟩

theorem ResultHeap.run_append (heap : ResultHeap Entity)
    (front back : List (ResultSetAction Entity)) :
    heap.run (front ++ back) = (heap.run front).bind (·.run back) := by
  induction front generalizing heap with
  | nil => rfl
  | cons action front induction =>
      rw [List.cons_append, ResultHeap.run, ResultHeap.run]
      rcases heap.step action with ⟨next, _ | _⟩
      · rfl
      · exact induction next

theorem ResultSetAction.properRun_append {maps : ResultMaps Entity}
    {front back : List (ResultSetAction Entity)}
    (proper : ResultSetAction.ProperRun maps.length (front ++ back)) :
    ResultSetAction.ProperRun maps.length front ∧
      ResultSetAction.ProperRun (maps.run front).length back := by
  induction front generalizing maps with
  | nil => exact ⟨trivial, proper⟩
  | cons action front induction =>
      have rest := proper.2
      rw [← ResultMaps.length_step] at rest
      obtain ⟨first, second⟩ := induction rest
      rw [ResultMaps.length_step] at first
      exact ⟨⟨proper.1, first⟩, second⟩

/-! ## What can be observed -/

/-- The result set reads like an ordered map by identity. -/
structure ReadsAs (content : ResultContent Entity) (contextTypes : List EntityContentType)
    (map : OrderedMap String Entity) : Prop where
  entries : OrderedDict.Represents content map
  len : content.length = map.order.length
  iter : content.iter = map.values
  getItem : ∀ index : Nat, content.getItem index = map.values[index]?
  getItemFromEnd : ∀ index : Nat, content.getItem (-(index + 1)) = map.values.reverse[index]?
  contains : ∀ item, content.contains item = true ↔
    ObjectIdentity.id item ≠ "" ∧ ObjectIdentity.id item ∈ map.order
  keys : OrderedDict.keys content = content.iter.map ObjectIdentity.id
  typed : ∀ entity ∈ content.iter, ObjectIdentity.truthy entity = true →
    ObjectIdentity.id entity ≠ "" → EntityContentType.ofEntity entity ∈ contextTypes

omit [ObjectIdentity Entity] in
theorem ResultContent.getItem_neg (content : ResultContent Entity) (index : Nat) :
    content.getItem (-(index + 1)) = content.iter.reverse[index]? := by
  rw [ResultContent.getItem, if_neg (by omega)]
  split
  · rename_i inside
    have place : ((content.iter.length : Int) + -(index + 1)).toNat =
        content.iter.length - 1 - index := by omega
    rw [place, List.getElem?_reverse (by omega)]
  · rw [List.getElem?_eq_none]
    rw [List.length_reverse]
    omega

theorem Holding.readsAs {content : ResultContent Entity} {contextTypes : List EntityContentType}
    {map : OrderedMap String Entity} (holding : Holding content contextTypes map) :
    ReadsAs content contextTypes map where
  entries := holding.represents
  len := by rw [← holding.represents.keys_eq, OrderedDict.keys, List.length_map]
  iter := holding.iter_eq
  getItem := by
    intro index
    rw [ResultContent.getItem, if_pos (by omega), holding.iter_eq]
    rfl
  getItemFromEnd := by
    intro index
    rw [ResultContent.getItem_neg, holding.iter_eq]
  contains := by
    intro item
    rw [ResultContent.contains, holding.represents.keys_eq]
    split
    · rename_i absent
      simp [absent]
    · rename_i present
      simp [present]
  keys := by rw [holding.ids_eq, holding.represents.keys_eq]
  typed := by
    intro entity member truthy identified
    obtain ⟨entry, stored, rfl⟩ := List.mem_map.mp member
    apply holding.typed entry stored
    rw [EntityContentType.addEntityContentType, if_neg]
    simp [truthy, identified]

/-- Whatever is done with any number of result sets, nothing is raised, each of them reads like
its ordered map, and it stays as it was while only others, like its copies, are mutated. -/
theorem resultSets_refine (actions : List (ResultSetAction Entity))
    (proper : ResultSetAction.ProperRun 0 actions) :
    ∃ heap, (ResultHeap.empty : ResultHeap Entity).run actions = .ok heap ∧
      heap.resultSets.size = (ResultMaps.run [] actions).length ∧
      (∀ address map, (ResultMaps.run [] actions)[address]? = some map →
        ReadsAs (heap.contentOf address) (heap.contextTypesOf address) map) ∧
      ∀ front back earlier, actions = front ++ back →
        (ResultHeap.empty : ResultHeap Entity).run front = .ok earlier →
          ∀ address < earlier.resultSets.size,
            (∀ action ∈ back, action.target ≠ some address) →
              heap.contentOf address = earlier.contentOf address ∧
                heap.contextTypesOf address = earlier.contextTypesOf address := by
  obtain ⟨heap, done, refines⟩ := Refines.empty.run proper
  refine ⟨heap, done, refines.size, fun address map found => (refines.holding found).readsAs, ?_⟩
  rintro front back earlier rfl before address bound untouched
  have whole : ResultSetAction.ProperRun ([] : ResultMaps Entity).length (front ++ back) := proper
  obtain ⟨firstProper, restProper⟩ := ResultSetAction.properRun_append whole
  obtain ⟨reached, sameRun, earlierRefines⟩ := Refines.empty.run firstProper
  obtain rfl : earlier = reached := Except.ok.inj (before.symm.trans sameRun)
  rw [ResultHeap.run_append, before] at done
  exact earlierRefines.run_others restProper done (earlierRefines.size ▸ bound) untouched

end Runs

/-- A result that is a list of rows, with the truth value of the list. -/
structure RowsResult where
  id : String
  rows : List String
deriving DecidableEq, Repr

instance : ObjectIdentity RowsResult where
  id := RowsResult.id
  truthy := fun result => !result.rows.isEmpty
  connector := fun _ => none
  objectImportStr := fun _ => "app.results.RowsResult"

def copyEmptied : List (ResultSetAction RowsResult) :=
  [.construct [⟨"first", ["a"]⟩, ⟨"second", []⟩, ⟨"first", ["b"]⟩], .copy 0, .discardSet 1 0]

theorem resultSets_refine_copyEmptied :
    ∃ heap, ResultHeap.empty.run copyEmptied = .ok heap ∧
      (heap.contentOf 0).iter = [⟨"first", ["b"]⟩, ⟨"second", []⟩] ∧
      (heap.contentOf 1).iter = [] := by
  have proper : ResultSetAction.ProperRun 0 copyEmptied :=
    ⟨trivial, Nat.zero_lt_one, ⟨Nat.one_lt_two, Nat.zero_lt_two, Nat.zero_ne_one⟩, trivial⟩
  obtain ⟨heap, done, -, reads, -⟩ := resultSets_refine copyEmptied proper
  exact ⟨heap, done, (reads 0 _ rfl).iter, (reads 1 _ rfl).iter⟩

/-- A result with the truth value false is contained without its content type. -/
theorem not_typed_emptyRows :
    ∃ heap : ResultHeap RowsResult,
      ResultHeap.empty.run [.construct [⟨"empty", []⟩]] = .ok heap ∧
      (⟨"empty", []⟩ : RowsResult) ∈ (heap.contentOf 0).iter ∧
      EntityContentType.ofEntity (⟨"empty", []⟩ : RowsResult) ∉ heap.contextTypesOf 0 :=
  ⟨_, rfl, by decide, by decide⟩

end EventPipeline
