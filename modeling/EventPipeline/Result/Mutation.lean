import EventPipeline.Result.ResultSet

/-! # Mutating one result set

Every result set has its containers to itself. So an operation gives new contents to one result set,
or makes one more, and all others keep theirs.
-/

namespace EventPipeline

namespace ResultHeap

section Objects

variable {Entity : Type}

/-- No two result sets share a container. -/
structure Owned (heap : ResultHeap Entity) : Prop where
  contents : Arena.Exclusive heap.resultSets ResultSetObject.content heap.contents
  contextTypes :
    Arena.Exclusive heap.resultSets ResultSetObject.contextTypes heap.contextTypes

/-- One result set has got new contents, and all others have kept theirs. -/
structure Mutated (heap next : ResultHeap Entity) (target : Nat)
    (content : ResultContent Entity) (contextTypes : List EntityContentType) : Prop where
  owned : next.Owned
  resultSets : next.resultSets = heap.resultSets
  content : next.contentOf target = content
  contextTypes : next.contextTypesOf target = contextTypes
  others : ∀ other, other ≠ target → next.contentOf other = heap.contentOf other ∧
    next.contextTypesOf other = heap.contextTypesOf other

structure Allocated (heap next : ResultHeap Entity) (content : ResultContent Entity)
    (contextTypes : List EntityContentType) : Prop where
  owned : next.Owned
  size : next.resultSets.size = heap.resultSets.size + 1
  content : next.contentOf heap.resultSets.size = content
  contextTypes : next.contextTypesOf heap.resultSets.size = contextTypes
  others : ∀ other, other < heap.resultSets.size →
    next.contentOf other = heap.contentOf other ∧
      next.contextTypesOf other = heap.contextTypesOf other

theorem owned_empty : (empty : ResultHeap Entity).Owned :=
  ⟨Arena.exclusive_empty, Arena.exclusive_empty⟩

variable {heap next last : ResultHeap Entity} {target : Nat}

theorem Mutated.refl (owned : heap.Owned) (target : Nat) :
    Mutated heap heap target (heap.contentOf target) (heap.contextTypesOf target) :=
  ⟨owned, rfl, rfl, rfl, fun _ _ => ⟨rfl, rfl⟩⟩

theorem Mutated.trans {content later : ResultContent Entity}
    {contextTypes laterTypes : List EntityContentType}
    (first : Mutated heap next target content contextTypes)
    (second : Mutated next last target later laterTypes) :
    Mutated heap last target later laterTypes where
  owned := second.owned
  resultSets := second.resultSets.trans first.resultSets
  content := second.content
  contextTypes := second.contextTypes
  others := fun other different =>
    ⟨(second.others other different).1.trans (first.others other different).1,
      (second.others other different).2.trans (first.others other different).2⟩

theorem Allocated.mutate {content later : ResultContent Entity}
    {contextTypes laterTypes : List EntityContentType}
    (first : Allocated heap next content contextTypes)
    (second : Mutated next last heap.resultSets.size later laterTypes) :
    Allocated heap last later laterTypes where
  owned := second.owned
  size := by rw [second.resultSets, first.size]
  content := second.content
  contextTypes := second.contextTypes
  others := fun other bound =>
    ⟨(second.others other (Nat.ne_of_lt bound)).1.trans (first.others other bound).1,
      (second.others other (Nat.ne_of_lt bound)).2.trans (first.others other bound).2⟩

theorem mutated_modifyContent (owned : heap.Owned) (bound : target < heap.resultSets.size)
    (update : ResultContent Entity → ResultContent Entity) :
    Mutated heap (heap.modifyContent target update) target (update (heap.contentOf target))
      (heap.contextTypesOf target) := by
  obtain ⟨object, found⟩ := Arena.get?_isSome_of_lt bound
  obtain ⟨content, held⟩ := owned.contents.cell?_isSome bound
  have modified : heap.modifyContent target update =
      { heap with contents := heap.contents.modify object.content update } := by
    rw [modifyContent, found]
  rw [modified]
  refine ⟨⟨owned.contents.modify _ update, owned.contextTypes⟩, rfl, ?_, rfl, ?_⟩
  · rw [contentOf, Arena.cell?_modify_self found, held, contentOf, held]
    rfl
  · intro other different
    constructor
    · rw [contentOf, Arena.cell?_modify_other owned.contents found different, contentOf]
    · rfl

theorem mutated_modifyContextTypes (owned : heap.Owned) (bound : target < heap.resultSets.size)
    (update : List EntityContentType → List EntityContentType) :
    Mutated heap (heap.modifyContextTypes target update) target (heap.contentOf target)
      (update (heap.contextTypesOf target)) := by
  obtain ⟨object, found⟩ := Arena.get?_isSome_of_lt bound
  obtain ⟨contextTypes, held⟩ := owned.contextTypes.cell?_isSome bound
  have modified : heap.modifyContextTypes target update =
      { heap with
        contextTypes := heap.contextTypes.modify object.contextTypes update } := by
    rw [modifyContextTypes, found]
  rw [modified]
  refine ⟨⟨owned.contents, owned.contextTypes.modify _ update⟩, rfl, rfl, ?_, ?_⟩
  · rw [contextTypesOf, Arena.cell?_modify_self found, held, contextTypesOf, held]
    rfl
  · intro other different
    constructor
    · rfl
    · rw [contextTypesOf, Arena.cell?_modify_other owned.contextTypes found different,
        contextTypesOf]

theorem allocated_allocate (owned : heap.Owned) (content : ResultContent Entity)
    (contextTypes : List EntityContentType) :
    Allocated heap (heap.allocate content contextTypes) content contextTypes where
  owned := ⟨owned.contents.alloc content rfl, owned.contextTypes.alloc contextTypes rfl⟩
  size := Arena.size_alloc ..
  content := by
    rw [contentOf, allocate, Arena.cell?_alloc owned.contents content rfl, if_pos rfl]
    rfl
  contextTypes := by
    rw [contextTypesOf, allocate, Arena.cell?_alloc owned.contextTypes contextTypes rfl,
      if_pos rfl]
    rfl
  others := by
    intro other bound
    constructor
    · rw [contentOf, allocate, Arena.cell?_alloc owned.contents content rfl,
        if_neg (Nat.ne_of_lt bound), contentOf]
    · rw [contextTypesOf, allocate, Arena.cell?_alloc owned.contextTypes contextTypes rfl,
        if_neg (Nat.ne_of_lt bound), contextTypesOf]

theorem allocated_copy (owned : heap.Owned) (original : Nat) :
    Allocated heap (heap.copy original) (heap.contentOf original)
      (heap.contextTypesOf original) := by
  -- the containers of `ResultSet([])` belong to no result set
  let discarded : ResultHeap Entity :=
    { heap with contents := heap.contents.alloc [], contextTypes := heap.contextTypes.alloc [] }
  have kept : discarded.Owned :=
    ⟨owned.contents.alloc_cell [], owned.contextTypes.alloc_cell []⟩
  have allocated := allocated_allocate kept (heap.contentOf original)
    (heap.contextTypesOf original)
  refine ⟨allocated.owned, allocated.size, allocated.content, allocated.contextTypes, ?_⟩
  intro other bound
  constructor
  · exact (allocated.others other bound).1.trans
      (congrArg (·.getD []) (Arena.cell?_alloc_cell owned.contents [] other))
  · exact (allocated.others other bound).2.trans
      (congrArg (·.getD []) (Arena.cell?_alloc_cell owned.contextTypes [] other))

theorem mutated_clear (owned : heap.Owned) (bound : target < heap.resultSets.size) :
    Mutated heap (heap.clear target) target [] [] := by
  have emptied := mutated_modifyContent owned bound fun _ => []
  have cleared := mutated_modifyContextTypes emptied.owned
    (by rw [emptied.resultSets]; exact bound) fun _ => []
  rw [emptied.content] at cleared
  exact emptied.trans cleared

end Objects

section Entities

variable {Entity : Type} [ObjectIdentity Entity] {heap next : ResultHeap Entity} {target : Nat}

/-- The content types after a result has been inserted. -/
def trackedTypes (contextTypes : List EntityContentType) (entity : Entity) :
    List EntityContentType :=
  match EntityContentType.addEntityContentType entity with
  | none => contextTypes
  | some contentType => addNew contextTypes contentType

theorem store_store (content : ResultContent Entity) (entity : Entity) :
    (content.store entity).store entity = content.store entity := by
  unfold ResultContent.store
  induction content with
  | nil => simp [OrderedDict.insert]
  | cons entry content induction =>
      rcases entry with ⟨key, value⟩
      by_cases same : key = ObjectIdentity.id entity
      · simp [OrderedDict.insert, same]
      · simp [OrderedDict.insert, same, induction]

theorem mutated_insertEntity (owned : heap.Owned) (bound : target < heap.resultSets.size)
    (entity : Entity) :
    Mutated heap (heap.insertEntity target entity) target
      ((heap.contentOf target).store entity)
      (trackedTypes (heap.contextTypesOf target) entity) := by
  have stored := mutated_modifyContent owned bound (·.store entity)
  unfold insertEntity trackedTypes
  cases EntityContentType.addEntityContentType entity with
  | none => exact stored
  | some contentType =>
      simp only [stored.contextTypes]
      split
      · rename_i present
        rw [addNew, if_pos present]
        exact stored
      · have tracked := mutated_modifyContextTypes stored.owned
          (by rw [stored.resultSets]; exact bound) (addNew · contentType)
        rw [stored.content, stored.contextTypes] at tracked
        exact stored.trans tracked

theorem mutated_addResult (owned : heap.Owned) (bound : target < heap.resultSets.size)
    (entity : Entity) :
    Mutated heap (heap.addResult target entity) target ((heap.contentOf target).store entity)
      (trackedTypes (heap.contextTypesOf target) entity) := by
  have stored := mutated_modifyContent owned bound (·.store entity)
  have inserted := mutated_insertEntity stored.owned
    (by rw [stored.resultSets]; exact bound) entity
  rw [stored.content, stored.contextTypes, store_store] at inserted
  exact stored.trans inserted

theorem mutated_addEach (owned : heap.Owned) (bound : target < heap.resultSets.size)
    (results : List Entity) :
    Mutated heap (results.foldl (addResult target) heap) target
      (results.foldl ResultContent.store (heap.contentOf target))
      (results.foldl trackedTypes (heap.contextTypesOf target)) := by
  induction results generalizing heap with
  | nil => exact .refl owned target
  | cons result results induction =>
      have added := mutated_addResult owned bound result
      have rest := induction added.owned (by rw [added.resultSets]; exact bound)
      rw [added.content, added.contextTypes] at rest
      exact added.trans rest

theorem allocated_construct (owned : heap.Owned) (results : List Entity) :
    Allocated heap (heap.construct results) (results.foldl ResultContent.store [])
      (results.foldl trackedTypes []) := by
  have allocated := allocated_allocate owned [] []
  have filled := mutated_addEach allocated.owned
    (by rw [allocated.size]; exact Nat.lt_succ_self _) results
  rw [allocated.content, allocated.contextTypes] at filled
  exact allocated.mutate filled

/-- Merging reads the content types of the other result set after its own contents have changed. -/
theorem mutated_addSet (owned : heap.Owned) (bound : target < heap.resultSets.size)
    (other : Nat) :
    Mutated heap (heap.add target (.resultSet other)).1 target
      (OrderedDict.update (heap.contentOf target) (heap.contentOf other))
      (addAll (heap.contextTypesOf target) (heap.contextTypesOf other)) := by
  have merged := mutated_modifyContent owned bound
    (OrderedDict.update · (heap.contentOf other))
  have read : (heap.modifyContent target
      (OrderedDict.update · (heap.contentOf other))).contextTypesOf other =
        heap.contextTypesOf other := by
    by_cases same : other = target
    · subst same
      exact merged.contextTypes
    · exact (merged.others other same).2
  have tracked := mutated_modifyContextTypes merged.owned
    (by rw [merged.resultSets]; exact bound) (addAll · (heap.contextTypesOf other))
  rw [merged.content, merged.contextTypes] at tracked
  rw [← read] at tracked
  rw [add, ← read]
  exact merged.trans tracked

theorem discardEach_eq (owned : heap.Owned) (bound : target < heap.resultSets.size) {other : Nat}
    (different : other ≠ target) (values : List Entity) :
    (heap.discardEach target other (heap.contentOf other).length values).2 = .ok () ∧
      Mutated heap (heap.discardEach target other (heap.contentOf other).length values).1 target
        ((values.map ObjectIdentity.id).foldl ResultContent.pop (heap.contentOf target))
        (heap.contextTypesOf target) := by
  induction values generalizing heap with
  | nil =>
      rw [discardEach, if_pos rfl]
      exact ⟨rfl, .refl owned target⟩
  | cons entity values induction =>
      have popped := mutated_modifyContent owned bound (·.pop (ObjectIdentity.id entity))
      have rest := induction popped.owned (by rw [popped.resultSets]; exact bound)
      rw [(popped.others other different).1, popped.content, popped.contextTypes] at rest
      rw [discardEach, if_pos rfl]
      exact ⟨rest.1, popped.trans rest.2⟩

end Entities

end ResultHeap

end EventPipeline
