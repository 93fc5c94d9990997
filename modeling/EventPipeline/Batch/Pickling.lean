import EventPipeline.Batch.FieldCache

/-! # Pickling a pipeline

A pipeline is pickled with a copy of the state of its class, into which only its own entry of the
field cache should go. An instance that has been restored keeps that copy as a state of its own,
and uses it in place of the one of the class.
-/

namespace EventPipeline

namespace PipelineState

variable {Object : Type}

/-- `__set__` of the descriptor. It does not use what is assigned. -/
def assignPipelineCache (state : PipelineState Object)
    (_ : List (String × Kwargs Object)) : PipelineState Object :=
  match state.pipelineCache with
  | none => ⟨some []⟩
  | some _ => state

/-- `__get__` of the descriptor, which creates what is missing. -/
def readPipelineCache (state : PipelineState Object) :
    List (String × Kwargs Object) × PipelineState Object :=
  match state.pipelineCache with
  | none => ([], state.assignPipelineCache [])
  | some cache => (cache, state)

end PipelineState

/-- An instance of a pipeline class. It has an entry `_state` in its `__dict__` only after
`__setstate__`, and then that can be any. -/
structure LivePipeline (Object : Type) where
  id : String
  attributes : Kwargs Object
  ownState : Option (PipelineState Object) := none

/-- What `__getstate__` returns. -/
structure PickledPipeline (Object : Type) where
  attributes : Kwargs Object
  state : PipelineState Object

namespace LivePipeline

variable {Object : Type} (className : String)

def getCacheKey (pipeline : LivePipeline Object) : String :=
  PipelineState.getCacheKey className pipeline.id

def cached (pipeline : LivePipeline Object) (classState : PipelineState Object) :
    Kwargs Object :=
  (pipeline.ownState.getD classState).cache (pipeline.getCacheKey className)

/-- `__getstate__`, with the state of the class afterwards: the copy has a `__dict__` of its own,
and nothing is stored in the dictionary that they share. -/
def getstate (pipeline : LivePipeline Object) (classState : PipelineState Object) :
    PickledPipeline Object × PipelineState Object :=
  let instanceKey := pipeline.getCacheKey className
  let (cache, copied) := classState.readPipelineCache
  let entry := (OrderedDict.get instanceKey cache).getD []
  (⟨pipeline.attributes, copied.assignPipelineCache [(instanceKey, entry)]⟩, classState)

/-- The pickled pipeline has its own entry of the cache and no other. -/
structure CarriesOwnData (pipeline : LivePipeline Object)
    (classState : PipelineState Object) : Prop where
  attributes : (pipeline.getstate className classState).1.attributes = pipeline.attributes
  entry : (pipeline.getstate className classState).1.state.pipelineCache =
    some [(pipeline.getCacheKey className, pipeline.cached className classState)]
  others : ∀ id, id ≠ pipeline.id →
    (pipeline.getstate className classState).1.state.checkCacheExists
      (PipelineState.getCacheKey className id) = none
  unchanged : (pipeline.getstate className classState).2 = classState

end LivePipeline

/-- What happens to the state of a class: any value is assigned to a field of one of its
instances, or the entry of an instance is cleared. -/
inductive CacheAction (Object : Type)
  | assign (id : String) (field : InputDataField Object) (value : PyValue Object)
  | clear (id : String)

section Runs

variable {Object : Type} (interpreter : Interpreter Object) (className : String)

def PipelineState.act (state : PipelineState Object) :
    CacheAction Object → PipelineState Object
  | .assign id field value =>
      match field.set interpreter value with
      | .error _ => state
      | .ok stored =>
          state.setCacheForPipelineField (getCacheKey className id) field.name stored
  | .clear id => state.clear (getCacheKey className id)

def PipelineState.run (actions : List (CacheAction Object)) : PipelineState Object :=
  actions.foldl (act interpreter className) {}

/-- The value is accepted, and what is stored for it is not `None`. -/
def InputDataField.caches (field : InputDataField Object) (value : PyValue Object) : Bool :=
  match field.set interpreter value with
  | .error _ => false
  | .ok stored => !stored.isNone

def CacheAction.holderAfter (held : Option String) : CacheAction Object → Option String
  | .assign id field value => if field.caches interpreter value then some id else held
  | .clear id => if held = some id then none else held

/-- The instance that has got a cached value last, unless it has been cleared since. -/
def cacheHolder (actions : List (CacheAction Object)) : Option String :=
  actions.foldl (CacheAction.holderAfter interpreter) none

end Runs

namespace PipelineState

variable {Object : Type} {interpreter : Interpreter Object} {className : String}

def HeldBy (className : String) (state : PipelineState Object) : Option String → Prop
  | none => state.pipelineCache.getD [] = []
  | some id =>
      ∃ collection, state.pipelineCache = some [(getCacheKey className id, collection)]

theorem HeldBy.set {state : PipelineState Object} {held : Option String}
    (holds : state.HeldBy className held) (id name : String) {value : PyValue Object}
    (given : value.isNone = false) :
    (state.setCacheForPipelineField (getCacheKey className id) name value).HeldBy className
      (some id) := by
  unfold setCacheForPipelineField
  rw [if_neg (by simp [given])]
  rcases state with ⟨none | cache⟩
  · exact ⟨[(name, value)], by simp [OrderedDict.insert, OrderedDict.get]⟩
  · cases held with
    | none =>
        have empty : cache = [] := holds
        subst empty
        exact ⟨[(name, value)], by simp [OrderedDict.insert, OrderedDict.get]⟩
    | some holder =>
        rcases holds with ⟨collection, single⟩
        cases single
        by_cases same : getCacheKey className holder = getCacheKey className id
        · by_cases kept : getCacheKey className id ∈ OrderedDict.keys collection
          · exact ⟨OrderedDict.insert name value collection, by
              simp [OrderedDict.insert, OrderedDict.get, same, kept]⟩
          · exact ⟨[(name, value)], by
              simp [OrderedDict.insert, OrderedDict.get, same, kept]⟩
        · exact ⟨[(name, value)], by simp [OrderedDict.insert, OrderedDict.get, same]⟩

theorem HeldBy.clear {state : PipelineState Object} {held : Option String}
    (holds : state.HeldBy className held) (id : String) :
    (state.clear (getCacheKey className id)).HeldBy className
      (if held = some id then none else held) := by
  rcases state with ⟨none | cache⟩
  · cases held with
    | none => exact rfl
    | some holder =>
        rcases holds with ⟨collection, ⟨⟩⟩
  · cases held with
    | none =>
        have empty : cache = [] := holds
        subst empty
        exact rfl
    | some holder =>
        rcases holds with ⟨collection, single⟩
        cases single
        by_cases same : holder = id
        · subst same
          rw [if_pos rfl]
          simp [HeldBy, PipelineState.clear]
        · rw [if_neg (by simpa using same)]
          have different : getCacheKey className holder ≠ getCacheKey className id :=
            fun equal => same ((getCacheKey_inj className holder id).mp equal)
          exact ⟨collection, by simp [PipelineState.clear, different]⟩

theorem HeldBy.act {state : PipelineState Object} {held : Option String}
    (holds : state.HeldBy className held) (action : CacheAction Object) :
    (state.act interpreter className action).HeldBy className
      (action.holderAfter interpreter held) := by
  cases action with
  | clear id => exact holds.clear id
  | assign id field value =>
      simp only [PipelineState.act, CacheAction.holderAfter]
      cases result : field.set interpreter value with
      | error error =>
          have refused : field.caches interpreter value = false := by
            rw [InputDataField.caches, result]
          simpa [refused] using holds
      | ok stored =>
          have caches : field.caches interpreter value = !stored.isNone := by
            rw [InputDataField.caches, result]
          cases given : stored.isNone with
          | true =>
              have ignored : state.setCacheForPipelineField (getCacheKey className id)
                  field.name stored = state := by
                rw [setCacheForPipelineField, if_pos given]
              simpa [caches, given, ignored] using holds
          | false => simpa [caches, given] using holds.set id field.name given

theorem heldBy_run (actions : List (CacheAction Object)) :
    (run interpreter className actions).HeldBy className (cacheHolder interpreter actions) := by
  suffices general : ∀ (state : PipelineState Object) (held : Option String),
      state.HeldBy className held →
      (actions.foldl (PipelineState.act interpreter className) state).HeldBy className
        (actions.foldl (CacheAction.holderAfter interpreter) held) by
    exact general {} none rfl
  induction actions with
  | nil => exact fun state held holds => holds
  | cons action actions induction =>
      intro state held holds
      exact induction _ _ (holds.act action)

theorem HeldBy.singleton_iff {state : PipelineState Object} {held : Option String}
    (holds : state.HeldBy className held) (id : String) (collection : Kwargs Object) :
    state.pipelineCache.getD [] = [(getCacheKey className id, collection)] ↔
      held = some id ∧ collection = state.cache (getCacheKey className id) := by
  cases held with
  | none =>
      have empty : state.pipelineCache.getD [] = [] := holds
      simp [empty]
  | some holder =>
      rcases holds with ⟨found, single⟩
      rw [single]
      constructor
      · intro equal
        simp only [Option.getD_some, List.cons.injEq, Prod.mk.injEq, and_true] at equal
        have same := (getCacheKey_inj className holder id).mp equal.1
        subst same
        exact ⟨rfl, by simp [cache, checkCacheExists, single, OrderedDict.get, equal.2]⟩
      · rintro ⟨same, rfl⟩
        cases same
        simp [cache, checkCacheExists, single, OrderedDict.get]

end PipelineState

namespace LivePipeline

variable {Object : Type} {interpreter : Interpreter Object} {className : String}

theorem pipelineCache_getstate (pipeline : LivePipeline Object)
    (classState : PipelineState Object) :
    (pipeline.getstate className classState).1.state.pipelineCache =
      some (classState.pipelineCache.getD []) := by
  rcases classState with ⟨none | cache⟩
  · rfl
  · rfl

theorem CarriesOwnData.of_entry {pipeline : LivePipeline Object}
    {classState : PipelineState Object}
    (entry : (pipeline.getstate className classState).1.state.pipelineCache =
      some [(pipeline.getCacheKey className, pipeline.cached className classState)]) :
    pipeline.CarriesOwnData className classState := by
  refine ⟨rfl, entry, fun id other => ?_, rfl⟩
  have different : pipeline.getCacheKey className ≠ PipelineState.getCacheKey className id :=
    fun equal => other ((PipelineState.getCacheKey_inj className pipeline.id id).mp equal).symm
  simp [PipelineState.checkCacheExists, entry, OrderedDict.get, different]

theorem carriesOwnData_iff (actions : List (CacheAction Object))
    (pipeline : LivePipeline Object) :
    pipeline.CarriesOwnData className (PipelineState.run interpreter className actions) ↔
      cacheHolder interpreter actions = some pipeline.id ∧
      ∀ own, pipeline.ownState = some own →
        own.cache (pipeline.getCacheKey className) =
          (PipelineState.run interpreter className actions).cache
            (pipeline.getCacheKey className) := by
  have holder : (PipelineState.run interpreter className actions).HeldBy className
      (cacheHolder interpreter actions) := PipelineState.heldBy_run actions
  have single := holder.singleton_iff pipeline.id
    (pipeline.cached className (PipelineState.run interpreter className actions))
  constructor
  · intro carries
    have entry := carries.entry
    rw [pipelineCache_getstate, Option.some.injEq] at entry
    have held := single.mp entry
    refine ⟨held.1, fun own restored => ?_⟩
    have same := held.2
    rw [cached, restored] at same
    exact same
  · rintro ⟨held, agrees⟩
    apply CarriesOwnData.of_entry
    rw [pipelineCache_getstate, Option.some.injEq]
    refine single.mpr ⟨held, ?_⟩
    unfold cached
    cases restored : pipeline.ownState with
    | none => rfl
    | some own => exact agrees own restored

end LivePipeline

def twoInstances : List (CacheAction String) :=
  [.assign "P-1" { name := "name" } (.object "Ada"),
    .assign "P-2" { name := "name" } (.object "Grace")]

theorem not_carriesOwnData_firstInstance :
    ¬(LivePipeline.mk "P-1" [("name", .object "Ada")] none).CarriesOwnData "P"
      (PipelineState.run stringInterpreter "P" twoInstances) := by
  intro carries
  have leaked := carries.others "P-2" (by decide)
  revert leaked
  decide

end EventPipeline
