import EventPipeline.Batch.Fields
import Mathlib.Data.List.Induction

/-! # The field cache

Next to the tasks, the state of a pipeline class keeps the values that have been assigned to the
fields of its instances, in a dictionary of dictionaries: first by the cache key of the instance,
then by the name of the field.
-/

namespace EventPipeline

/-- `__dict__["pipeline_cache"]`, which is missing at first. The other entry of `__dict__`,
`start`, is no dictionary. -/
structure PipelineState (Object : Type) where
  pipelineCache : Option (List (String × Kwargs Object)) := none
deriving DecidableEq, Repr

namespace PipelineState

variable {Object : Type}

def getCacheKey (className id : String) : String :=
  "pipeline_" ++ className ++ "_" ++ id

/-- The entry of an instance, in the only dictionary that `check_cache_exists` can find. -/
def checkCacheExists (state : PipelineState Object) (instanceKey : String) :
    Option (Kwargs Object) :=
  state.pipelineCache.bind (OrderedDict.get instanceKey)

/-- `cache`: a `ChainMap` of the entries of an instance. -/
def cache (state : PipelineState Object) (instanceKey : String) : Kwargs Object :=
  (state.checkCacheExists instanceKey).getD []

def clear (state : PipelineState Object) (instanceKey : String) : PipelineState Object :=
  match state.pipelineCache with
  | none => state
  | some cache => ⟨some (cache.filter fun entry => entry.1 ≠ instanceKey)⟩

/-- `set_cache_for_pipeline_field`. What is looked up in the collection of an instance, whose keys
are names of fields, is the key of the instance. -/
def setCacheForPipelineField (state : PipelineState Object) (instanceKey fieldName : String)
    (value : PyValue Object) : PipelineState Object :=
  if value.isNone then state
  else
    let cache :=
      match state.pipelineCache with
      | none => [(instanceKey, [])]
      | some cache =>
          match OrderedDict.get instanceKey cache with
          | none => [(instanceKey, [])]
          | some collection =>
              if instanceKey ∈ OrderedDict.keys collection then cache
              else OrderedDict.insert instanceKey [] cache
    let collection := (OrderedDict.get instanceKey cache).getD []
    ⟨some (OrderedDict.insert instanceKey (OrderedDict.insert fieldName value collection) cache)⟩

end PipelineState

/-- A value other than `None` is assigned to a field of an instance. -/
structure FieldAssignment (Object : Type) where
  id : String
  field : InputDataField Object
  value : PyValue Object
  given : value.isNone = false

inductive FieldAction (Object : Type)
  | assign (assignment : FieldAssignment Object)
  | clear (id : String)

section Runs

variable {Object : Type} (interpreter : Interpreter Object) (className : String)

/-- What `__set__` does to the cache. A value that the field refuses is not stored. -/
def PipelineState.step (state : PipelineState Object) :
    FieldAction Object → PipelineState Object
  | .assign assignment =>
      match assignment.field.set interpreter assignment.value with
      | .error _ => state
      | .ok value =>
          state.setCacheForPipelineField (getCacheKey className assignment.id)
            assignment.field.name value
  | .clear id => state.clear (getCacheKey className id)

def PipelineState.after (actions : List (FieldAction Object)) : PipelineState Object :=
  actions.foldl (step interpreter className) {}

/-- The value that a field of an instance has got last, unless the instance has been cleared
since. -/
def lastAssigned (actions : List (FieldAction Object)) (id name : String) :
    Option (PyValue Object) :=
  actions.foldl (fun last action =>
    match action with
    | .assign assignment =>
        if assignment.id = id ∧ assignment.field.name = name ∧
            assignment.field.accepts interpreter assignment.value then some assignment.value
        else last
    | .clear cleared => if cleared = id then none else last) none

/-- In all states of a run, the cache of an instance maps its fields to the values they have got
last, and clearing an instance removes what is cached for it and nothing else. -/
structure CachesPerInstance (actions : List (FieldAction Object)) : Prop where
  maps : ∀ front rest, front ++ rest = actions → ∀ id name,
    OrderedDict.get name
        ((PipelineState.after interpreter className front).cache
          (PipelineState.getCacheKey className id)) =
      lastAssigned interpreter front id name
  clears : ∀ front rest, front ++ rest = actions → ∀ id other,
    ((PipelineState.after interpreter className front).clear
        (PipelineState.getCacheKey className id)).cache
          (PipelineState.getCacheKey className other) =
      if other = id then []
      else (PipelineState.after interpreter className front).cache
        (PipelineState.getCacheKey className other)

/-- Nothing is cached at the time of an assignment, except for the same field, or for the same
instance if it has a field under its own cache key and that has got a value. -/
def Unshadowed (front : List (FieldAction Object)) (assignment : FieldAssignment Object) :
    Prop :=
  assignment.field.accepts interpreter assignment.value = true → ∀ id name,
    (lastAssigned interpreter front id name).isSome →
    id = assignment.id ∧ (name = assignment.field.name ∨
      (lastAssigned interpreter front assignment.id
        (PipelineState.getCacheKey className assignment.id)).isSome)

end Runs

namespace PipelineState

section Lookup

variable {Object : Type} {state : PipelineState Object} {key other name : String}

theorem getCacheKey_inj (className id other : String) :
    getCacheKey className id = getCacheKey className other ↔ id = other :=
  String.append_right_inj _

theorem checkCacheExists_clear (state : PipelineState Object) (key other : String) :
    (state.clear key).checkCacheExists other =
      if other = key then none else state.checkCacheExists other := by
  rcases state with ⟨none | cache⟩
  · by_cases same : other = key
    · rw [if_pos same]
      rfl
    · rw [if_neg same]
      rfl
  · exact OrderedDict.get_filter_ne key other cache

theorem cache_clear (state : PipelineState Object) (key other : String) :
    (state.clear key).cache other = if other = key then [] else state.cache other := by
  rw [cache, checkCacheExists_clear]
  split
  · rfl
  · rfl

/-- A collection is kept only if it has a field under the key of the instance, and the entries of
other instances only if the instance has an entry. -/
theorem checkCacheExists_setCacheForPipelineField {value : PyValue Object}
    (given : value.isNone = false) :
    (state.setCacheForPipelineField key name value).checkCacheExists other =
      if other = key then
        some (OrderedDict.insert name value
          (if key ∈ OrderedDict.keys (state.cache key) then state.cache key else []))
      else (state.checkCacheExists key).bind fun _ => state.checkCacheExists other := by
  unfold setCacheForPipelineField
  rw [if_neg (by simp [given])]
  rcases state with ⟨none | cache⟩
  · simp [checkCacheExists, PipelineState.cache, OrderedDict.get, OrderedDict.insert, eq_comm]
  · cases found : OrderedDict.get key cache with
    | none =>
        simp [checkCacheExists, PipelineState.cache, found, OrderedDict.get, OrderedDict.insert,
          eq_comm]
    | some collection =>
        simp only [checkCacheExists, PipelineState.cache, found, Option.bind_some,
          Option.getD_some, OrderedDict.get_insert]
        by_cases same : other = key
        · subst same
          by_cases kept : other ∈ OrderedDict.keys collection
          · simp [kept, found]
          · simp [kept, OrderedDict.get_insert]
        · have different : ¬key = other := fun equal => same equal.symm
          by_cases kept : key ∈ OrderedDict.keys collection
          · simp [kept, same, different]
          · simp [kept, same, different, OrderedDict.get_insert]

end Lookup

def Single {Object : Type} (state : PipelineState Object) : Prop :=
  ∀ key other, (state.checkCacheExists key).isSome → (state.checkCacheExists other).isSome →
    key = other

section Steps

variable {Object : Type} {state : PipelineState Object} {key name : String}

theorem Single.clear (single : state.Single) (key : String) : (state.clear key).Single := by
  intro first second hasFirst hasSecond
  rw [checkCacheExists_clear] at hasFirst hasSecond
  split at hasFirst
  · cases hasFirst
  · split at hasSecond
    · cases hasSecond
    · exact single first second hasFirst hasSecond

theorem Single.checkCacheExists_set (single : state.Single) {value : PyValue Object}
    (given : value.isNone = false) {other : String} (different : other ≠ key) :
    (state.setCacheForPipelineField key name value).checkCacheExists other = none := by
  rw [checkCacheExists_setCacheForPipelineField given, if_neg different]
  cases here : state.checkCacheExists key with
  | none => rfl
  | some collection =>
      cases there : state.checkCacheExists other with
      | none => rfl
      | some elsewhere =>
          have same := single other key (by rw [there]; rfl) (by rw [here]; rfl)
          exact absurd same different

theorem Single.set (single : state.Single) {value : PyValue Object}
    (given : value.isNone = false) :
    (state.setCacheForPipelineField key name value).Single := by
  have only : ∀ other,
      ((state.setCacheForPipelineField key name value).checkCacheExists other).isSome →
        other = key := by
    intro other present
    by_contra different
    rw [single.checkCacheExists_set given different] at present
    cases present
  intro first second hasFirst hasSecond
  rw [only first hasFirst, only second hasSecond]

theorem Single.cache_set (single : state.Single) {value : PyValue Object}
    (given : value.isNone = false) (other : String) :
    (state.setCacheForPipelineField key name value).cache other =
      if other = key then
        OrderedDict.insert name value
          (if key ∈ OrderedDict.keys (state.cache key) then state.cache key else [])
      else [] := by
  by_cases same : other = key
  · rw [cache, checkCacheExists_setCacheForPipelineField given, if_pos same, if_pos same]
    rfl
  · rw [cache, single.checkCacheExists_set given same, if_neg same]
    rfl

end Steps

end PipelineState

theorem InputDataField.set_given {Object : Type} {interpreter : Interpreter Object}
    {field : InputDataField Object} {value stored : PyValue Object}
    (given : value.isNone = false) (accepted : field.set interpreter value = .ok stored) :
    stored = value := by
  unfold InputDataField.set at accepted
  split at accepted
  · cases accepted
  · split at accepted
    · cases accepted
    · cases value with
      | none => cases given
      | list items | tuple items | object value =>
          cases accepted
          rfl

section Agreement

variable {Object : Type} {interpreter : Interpreter Object} {className : String}

theorem PipelineState.step_assign (state : PipelineState Object)
    (assignment : FieldAssignment Object) :
    state.step interpreter className (.assign assignment) =
      if assignment.field.accepts interpreter assignment.value then
        state.setCacheForPipelineField (getCacheKey className assignment.id)
          assignment.field.name assignment.value
      else state := by
  unfold PipelineState.step InputDataField.accepts
  cases stored : assignment.field.set interpreter assignment.value with
  | error error => simp only [stored, Bool.false_eq_true, if_false]
  | ok value =>
      have same := InputDataField.set_given assignment.given stored
      simp only [stored, same, if_true]

theorem PipelineState.after_concat (front : List (FieldAction Object))
    (action : FieldAction Object) :
    after interpreter className (front ++ [action]) =
      (after interpreter className front).step interpreter className action := by
  rw [after, List.foldl_append]
  rfl

theorem PipelineState.single_after (actions : List (FieldAction Object)) :
    (after interpreter className actions).Single := by
  induction actions using List.reverseRecOn with
  | nil => exact fun key other present => by cases present
  | append_singleton front action induction =>
      rw [after_concat]
      cases action with
      | clear id => exact induction.clear _
      | assign assignment =>
          rw [step_assign]
          split
          · exact induction.set assignment.given
          · exact induction

theorem lastAssigned_clear (front : List (FieldAction Object)) (cleared id name : String) :
    lastAssigned interpreter (front ++ [.clear cleared]) id name =
      if cleared = id then none else lastAssigned interpreter front id name := by
  rw [lastAssigned, List.foldl_append]
  rfl

theorem lastAssigned_assign (front : List (FieldAction Object))
    (assignment : FieldAssignment Object) (id name : String) :
    lastAssigned interpreter (front ++ [.assign assignment]) id name =
      if assignment.id = id ∧ assignment.field.name = name ∧
          assignment.field.accepts interpreter assignment.value then some assignment.value
      else lastAssigned interpreter front id name := by
  rw [lastAssigned, List.foldl_append]
  rfl

theorem lastAssigned_assign_other (front : List (FieldAction Object))
    {assignment : FieldAssignment Object} {id name : String}
    (other : ¬(assignment.id = id ∧ assignment.field.name = name)) :
    lastAssigned interpreter (front ++ [.assign assignment]) id name =
      lastAssigned interpreter front id name := by
  rw [lastAssigned_assign, if_neg]
  intro all
  exact other ⟨all.1, all.2.1⟩

/-- The cache holds what has been assigned last. -/
def CacheAgrees (interpreter : Interpreter Object) (className : String)
    (front : List (FieldAction Object)) : Prop :=
  ∀ id name, OrderedDict.get name
      ((PipelineState.after interpreter className front).cache
        (PipelineState.getCacheKey className id)) =
    lastAssigned interpreter front id name

theorem CacheAgrees.clear {front : List (FieldAction Object)}
    (agrees : CacheAgrees interpreter className front) (cleared : String) :
    CacheAgrees interpreter className (front ++ [.clear cleared]) := by
  intro id name
  rw [PipelineState.after_concat, lastAssigned_clear, PipelineState.step,
    PipelineState.cache_clear]
  simp only [PipelineState.getCacheKey_inj]
  by_cases same : id = cleared
  · rw [if_pos same, if_pos same.symm]
    rfl
  · rw [if_neg same, if_neg fun equal => same equal.symm]
    exact agrees id name

theorem CacheAgrees.refused {front : List (FieldAction Object)}
    (agrees : CacheAgrees interpreter className front) {assignment : FieldAssignment Object}
    (refused : assignment.field.accepts interpreter assignment.value = false) :
    CacheAgrees interpreter className (front ++ [.assign assignment]) := by
  intro id name
  rw [PipelineState.after_concat, PipelineState.step_assign, if_neg (by simp [refused]),
    lastAssigned_assign, if_neg (by simp [refused])]
  exact agrees id name

theorem CacheAgrees.get_assign {front : List (FieldAction Object)}
    (agrees : CacheAgrees interpreter className front) {assignment : FieldAssignment Object}
    (accepted : assignment.field.accepts interpreter assignment.value = true)
    {id name : String} (other : ¬(assignment.id = id ∧ assignment.field.name = name)) :
    OrderedDict.get name
        ((PipelineState.after interpreter className (front ++ [.assign assignment])).cache
          (PipelineState.getCacheKey className id)) =
      if id = assignment.id ∧ (lastAssigned interpreter front assignment.id
          (PipelineState.getCacheKey className assignment.id)).isSome
      then lastAssigned interpreter front id name else none := by
  have single := @PipelineState.single_after _ interpreter className front
  rw [PipelineState.after_concat, PipelineState.step_assign, if_pos accepted,
    single.cache_set assignment.given]
  simp only [PipelineState.getCacheKey_inj]
  by_cases same : id = assignment.id
  · subst same
    have different : assignment.field.name ≠ name := fun equal => other ⟨rfl, equal⟩
    rw [if_pos rfl, OrderedDict.get_insert, if_neg different]
    have own := agrees assignment.id (PipelineState.getCacheKey className assignment.id)
    cases kept : lastAssigned interpreter front assignment.id
        (PipelineState.getCacheKey className assignment.id) with
    | none =>
        rw [kept, OrderedDict.get_eq_none_iff] at own
        rw [if_neg own]
        simp
    | some value =>
        rw [kept] at own
        rw [if_pos (OrderedDict.mem_keys_of_get own), agrees assignment.id name]
        simp
  · rw [if_neg same, if_neg fun both => same both.1]
    rfl

theorem CacheAgrees.assign_iff {front : List (FieldAction Object)}
    (agrees : CacheAgrees interpreter className front) (assignment : FieldAssignment Object) :
    CacheAgrees interpreter className (front ++ [.assign assignment]) ↔
      Unshadowed interpreter className front assignment := by
  cases accepted : assignment.field.accepts interpreter assignment.value with
  | false =>
      have unshadowed : Unshadowed interpreter className front assignment := by
        intro taken
        rw [accepted] at taken
        cases taken
      exact iff_of_true (agrees.refused accepted) unshadowed
  | true =>
      constructor
      · intro after _ id name present
        by_cases here : assignment.id = id ∧ assignment.field.name = name
        · exact ⟨here.1.symm, .inl here.2.symm⟩
        · have stays := after id name
          rw [agrees.get_assign accepted here, lastAssigned_assign_other front here] at stays
          split at stays
          · rename_i kept
            exact ⟨kept.1, .inr kept.2⟩
          · rw [← stays] at present
            cases present
      · intro unshadowed id name
        by_cases here : assignment.id = id ∧ assignment.field.name = name
        · have single := @PipelineState.single_after _ interpreter className front
          rcases here with ⟨rfl, rfl⟩
          rw [lastAssigned_assign, if_pos ⟨rfl, rfl, accepted⟩, PipelineState.after_concat,
            PipelineState.step_assign, if_pos accepted, single.cache_set assignment.given,
            if_pos rfl, OrderedDict.get_insert, if_pos rfl]
        · rw [agrees.get_assign accepted here, lastAssigned_assign_other front here]
          split
          · rfl
          · rename_i lost
            cases present : lastAssigned interpreter front id name with
            | none => rfl
            | some value =>
                rcases unshadowed accepted id name (by rw [present]; rfl) with ⟨same, named | own⟩
                · exact absurd ⟨same.symm, named.symm⟩ here
                · exact absurd ⟨same, own⟩ lost

theorem cacheAgrees_nil : CacheAgrees interpreter className ([] : List (FieldAction Object)) :=
  fun _ _ => rfl

theorem cachesPerInstance_iff (actions : List (FieldAction Object)) :
    CachesPerInstance interpreter className actions ↔
      ∀ front assignment rest, front ++ .assign assignment :: rest = actions →
        Unshadowed interpreter className front assignment := by
  constructor
  · intro perInstance front assignment rest split
    have agrees : CacheAgrees interpreter className front := perInstance.maps front _ split
    apply (agrees.assign_iff assignment).mp
    exact perInstance.maps _ rest (by rw [List.append_assoc]; exact split)
  · intro unshadowed
    constructor
    · intro front rest split
      induction front using List.reverseRecOn generalizing rest with
      | nil => exact cacheAgrees_nil
      | append_singleton front action induction =>
          rw [List.append_assoc] at split
          have agrees : CacheAgrees interpreter className front := induction _ split
          cases action with
          | clear id => exact agrees.clear id
          | assign assignment =>
              exact (agrees.assign_iff assignment).mpr (unshadowed front assignment rest split)
    · intro front rest _ id other
      rw [PipelineState.cache_clear]
      simp only [PipelineState.getCacheKey_inj]

end Agreement

def twoFields : List (FieldAction String) :=
  [.assign ⟨"P-1", { name := "name" }, .object "Ada", rfl⟩,
    .assign ⟨"P-1", { name := "town" }, .object "London", rfl⟩]

/-- The value of the first field is no longer cached. -/
theorem not_cachesPerInstance_twoFields :
    ¬CachesPerInstance stringInterpreter "P" twoFields := by
  intro perInstance
  have kept := perInstance.maps twoFields [] (List.append_nil _) "P-1" "name"
  revert kept
  decide

end EventPipeline
