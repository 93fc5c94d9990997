import EventPipeline.Foundation.DoubledMark
import EventPipeline.Result.Refinement

/-! # Filtering results

A filter is a dictionary of values by keys. A key is the name of an attribute, or a path of names
with two underscores between them, whose last part may be an operator. What the objects along the
paths do is left to an object model.
-/

namespace EventPipeline

inductive PyException
  | typeError
  | valueError
  | keyError
  | attributeError
  | other (name : String)
deriving DecidableEq, Repr

/-- What the interpreter tells about results and the values that they lead to. A result is an
object with an identity, and no dictionary. `hash` is `none` for a value that cannot be hashed,
and the comparisons include the truth test of what they return. -/
structure ObjectModel (Entity Value : Type) [ObjectIdentity Entity] where
  object : Entity → Value
  none : Value
  ofBool : Bool → Value
  ofString : String → Value
  isNone : Value → Bool
  isNone_iff : ∀ value, isNone value = true ↔ value = none
  isNone_ofString : ∀ text, isNone (ofString text) = false
  asString : Value → Option String
  isDict : Value → Bool
  isDict_object : ∀ result, isDict (object result) = false
  getItem : Value → String → Except PyException Value
  getAttr : Value → String → Except PyException Value
  getAttr_id : ∀ result, getAttr (object result) "id" = .ok (ofString (ObjectIdentity.id result))
  hash : Value → Option Int
  eq : Value → Value → Except PyException Bool
  ne : Value → Value → Except PyException Bool
  gt : Value → Value → Except PyException Bool
  ge : Value → Value → Except PyException Bool
  lt : Value → Value → Except PyException Bool
  le : Value → Value → Except PyException Bool
  hasContains : Value → Bool
  contains : Value → Value → Except PyException Bool
  startsWith : String → Value → Except PyException Bool
  endsWith : String → Value → Except PyException Bool
  lower : String → String

/-- `_FILTER_OPERATORS` -/
inductive FilterOperator
  | contains
  | startswith
  | endswith
  | icontains
  | gt
  | gte
  | lt
  | lte
  | within
  | exact
  | isnull
deriving DecidableEq, Repr

namespace FilterOperator

def name : FilterOperator → String
  | contains => "contains"
  | startswith => "startswith"
  | endswith => "endswith"
  | icontains => "icontains"
  | gt => "gt"
  | gte => "gte"
  | lt => "lt"
  | lte => "lte"
  | within => "in"
  | exact => "exact"
  | isnull => "isnull"

def all : List FilterOperator :=
  [contains, startswith, endswith, icontains, gt, gte, lt, lte, within, exact, isnull]

def ofName (text : String) : Option FilterOperator :=
  all.find? fun operator => operator.name = text

end FilterOperator

/-- The keyword arguments of `filter`. -/
abbrev FilterParams (Value : Type) := List (String × Value)

namespace FilterKey

/-- `key.split("__")` -/
def split (key : String) : List String :=
  (DoubledMark.split '_' key.toList).map String.ofList

/-- `"__".join(parts)` -/
def join (parts : List String) : String :=
  String.ofList (DoubledMark.join '_' (parts.map String.toList))

/-- `"__" in key` -/
def nested (key : String) : Bool :=
  ['_', '_'] <:+: key.toList

end FilterKey

namespace ObjectModel

variable {Entity Value : Type} [ObjectIdentity Entity] (model : ObjectModel Entity Value)

/-- `current[field]` of a dictionary, unless that raises one of two exceptions. -/
def item (current : Value) (field : String) : Except PyException (Option Value) :=
  if model.isDict current then
    match model.getItem current field with
    | .ok value => .ok (some value)
    | .error .keyError | .error .typeError => .ok .none
    | .error exception => .error exception
  else .ok .none

/-- `getattr`, if there is such an attribute. -/
def getattr (current : Value) (field : String) : Except PyException (Option Value) :=
  match model.getAttr current field with
  | .ok value => .ok (some value)
  | .error .attributeError => .ok .none
  | .error exception => .error exception

def getFieldValue (current : Value) : List String → Except PyException Value
  | [] => .ok current
  | field :: fieldPath => do
      match ← model.item current field with
      | some value => getFieldValue value fieldPath
      | .none =>
          match ← model.getattr current field with
          | some value => getFieldValue value fieldPath
          | .none => return model.none

def checkNestedField (obj : Value) (fieldPath : List String) (expectedValue : Value) :
    Except PyException Bool := do
  model.eq (← model.getFieldValue obj fieldPath) expectedValue

/-- What an operator says about the value at the end of a path. -/
def applyOperator (actualValue filterValue : Value) :
    FilterOperator → Except PyException Bool
  | .contains =>
      if model.hasContains actualValue then model.contains actualValue filterValue
      else .ok false
  | .startswith =>
      match model.asString actualValue with
      | some text => model.startsWith text filterValue
      | .none => .ok false
  | .endswith =>
      match model.asString actualValue with
      | some text => model.endsWith text filterValue
      | .none => .ok false
  | .icontains =>
      match model.asString actualValue, model.asString filterValue with
      | some text, some part =>
          .ok (decide ((model.lower part).toList <:+: (model.lower text).toList))
      | _, _ => .ok false
  | .gt => model.gt actualValue filterValue
  | .gte => model.ge actualValue filterValue
  | .lt => model.lt actualValue filterValue
  | .lte => model.le actualValue filterValue
  | .within => model.contains filterValue actualValue
  | .exact => model.eq actualValue filterValue
  | .isnull => model.eq (model.ofBool (model.isNone actualValue)) filterValue

def checkOperator (obj : Value) (fieldPath : String) (operator : FilterOperator)
    (filterValue : Value) : Except PyException Bool := do
  let actualValue ← model.getFieldValue obj (FilterKey.split fieldPath)
  if operator ∈ [FilterOperator.startswith, .endswith, .icontains] ∧
      (model.asString actualValue).isNone then return false
  else if model.isNone actualValue ∧ operator ≠ .isnull then return false
  else model.applyOperator actualValue filterValue operator

/-- `getattr(result, key, None) != value` is taken for true if it raises one of two
exceptions. -/
def comparePlain (obj : Value) (key : String) (value : Value) : Except PyException Bool :=
  let differs : Except PyException Bool := do
    model.ne ((← model.getattr obj key).getD model.none) value
  match differs with
  | .ok differs => .ok (!differs)
  | .error .typeError | .error .valueError => .ok false
  | .error exception => .error exception

/-- One turn of the loop of `_matches_filters`. -/
def matchesFilter (obj : Value) (key : String) (value : Value) : Except PyException Bool :=
  if FilterKey.nested key then
    let parts := FilterKey.split key
    match parts.getLast?.bind FilterOperator.ofName with
    | some operator => model.checkOperator obj (FilterKey.join parts.dropLast) operator value
    | .none => model.checkNestedField obj (FilterKey.split key) value
  else model.comparePlain obj key value

def matchesFilters (obj : Value) : FilterParams Value → Except PyException Bool
  | [] => .ok true
  | (key, value) :: filters => do
      if ← model.matchesFilter obj key value then matchesFilters obj filters
      else return false

def select (filters : FilterParams Value) : List Entity → Except PyException (List Entity)
  | [] => .ok []
  | result :: results => do
      let matched ← model.matchesFilters (model.object result) filters
      let selected ← select filters results
      return if matched then result :: selected else selected

/-- The search of a dictionary: keys are compared only if they have the same hash. -/
def probe (hash : Int) (pk : Value) : ResultContent Entity → Except PyException (Option Entity)
  | [] => .ok .none
  | (key, result) :: entries =>
      if model.hash (model.ofString key) = some hash then do
        if ← model.eq (model.ofString key) pk then return some result
        else probe hash pk entries
      else probe hash pk entries

/-- `self._content[pk]`, with `none` for `KeyError`. -/
def lookup (content : ResultContent Entity) (pk : Value) : Except PyException (Option Entity) :=
  match model.hash pk with
  | .none => .error .typeError
  | some hash => model.probe hash pk content

end ObjectModel

namespace ResultContent

variable {Entity Value : Type} [ObjectIdentity Entity] (model : ObjectModel Entity Value)

/-- The results that `filter` makes a new set of. -/
def filterResults (content : ResultContent Entity) (filterParams : FilterParams Value) :
    Except PyException (List Entity) :=
  match OrderedDict.get "id" filterParams with
  | some pk =>
      if filterParams.length = 1 then do return (← model.lookup content pk).toList
      else model.select filterParams content.iter
  | none => model.select filterParams content.iter

/-- The results of `ResultSet(results)`. -/
def ofResults (results : List Entity) : ResultContent Entity :=
  results.foldl store []

/-- Every result is stored under its identity. -/
structure KeyedById (content : ResultContent Entity) : Prop where
  nodup : (OrderedDict.keys content).Nodup
  key : ∀ entry ∈ content, entry.1 = ObjectIdentity.id entry.2

end ResultContent

def ObjectModel.filter {Entity Value : Type} [ObjectIdentity Entity]
    (model : ObjectModel Entity Value) (content : ResultContent Entity)
    (filterParams : FilterParams Value) : Except PyException (ResultContent Entity) := do
  return ResultContent.ofResults (← content.filterResults model filterParams)

def ResultHeap.filter {Entity Value : Type} [ObjectIdentity Entity]
    (model : ObjectModel Entity Value) (heap : ResultHeap Entity) (address : Nat)
    (filterParams : FilterParams Value) : ResultHeap Entity × Except PyException Unit :=
  match (heap.contentOf address).filterResults model filterParams with
  | .error exception => (heap, .error exception)
  | .ok results => (heap.construct results, .ok ())

namespace ResultContent

variable {Entity Value : Type} [ObjectIdentity Entity] {model : ObjectModel Entity Value}
  {content : ResultContent Entity}

theorem allocated_filter {heap : ResultHeap Entity} (owned : heap.Owned) {address : Nat}
    {filterParams : FilterParams Value} {filtered : ResultContent Entity}
    (returned : model.filter (heap.contentOf address) filterParams = .ok filtered) :
    (heap.filter model address filterParams).2 = .ok () ∧
      ∃ contextTypes, ResultHeap.Allocated heap (heap.filter model address filterParams).1
        filtered contextTypes := by
  unfold ObjectModel.filter at returned
  unfold ResultHeap.filter
  cases found : (heap.contentOf address).filterResults model filterParams with
  | error exception =>
      rw [found] at returned
      cases returned
  | ok results =>
      rw [found] at returned
      cases returned
      exact ⟨rfl, _, ResultHeap.allocated_construct owned results⟩

theorem keyedById_nil : KeyedById ([] : ResultContent Entity) where
  nodup := List.nodup_nil
  key entry member := by cases member

theorem KeyedById.store (keyed : content.KeyedById) (entity : Entity) :
    (content.store entity).KeyedById where
  nodup := OrderedDict.nodup_keys_insert _ _ keyed.nodup
  key entry member := by
    rcases Holding.mem_store member with kept | rfl
    · exact keyed.key entry kept
    · rfl

/-- The results of a set that has just been made are stored under their identities. -/
theorem keyedById_ofResults (results : List Entity) :
    (ofResults results : ResultContent Entity).KeyedById := by
  suffices general : ∀ content : ResultContent Entity, content.KeyedById →
      (results.foldl ResultContent.store content).KeyedById by
    exact general [] keyedById_nil
  induction results with
  | nil => exact fun content keyed => keyed
  | cons result results induction =>
      exact fun content keyed => induction _ (keyed.store result)

theorem KeyedById.filter (keyed : content.KeyedById) (keeps : String × Entity → Bool) :
    KeyedById (List.filter keeps content) where
  nodup := (List.filter_sublist.map Prod.fst).nodup keyed.nodup
  key entry member := keyed.key entry (List.mem_filter.mp member).1

theorem KeyedById.storeEach {front entries : ResultContent Entity}
    (keyed : KeyedById (front ++ entries)) :
    entries.iter.foldl ResultContent.store front = front ++ entries := by
  induction entries generalizing front with
  | nil => simp [iter]
  | cons entry entries induction =>
      rcases entry with ⟨key, result⟩
      have named : key = ObjectIdentity.id result := keyed.key (key, result) (by simp)
      have absent : ObjectIdentity.id result ∉ OrderedDict.keys front := by
        have nodup := keyed.nodup
        rw [OrderedDict.keys, List.map_append, List.map_cons, List.nodup_append] at nodup
        intro member
        exact nodup.2.2 _ member key (by simp) named.symm
      have stored : ResultContent.store front result = front ++ [(key, result)] := by
        rw [ResultContent.store, OrderedDict.insert_of_not_mem result absent, named]
      have rest : KeyedById ((front ++ [(key, result)]) ++ entries) := by
        rw [List.append_assoc]
        exact keyed
      calc (iter ((key, result) :: entries)).foldl ResultContent.store front
          = (iter entries).foldl ResultContent.store (ResultContent.store front result) := rfl
        _ = (front ++ [(key, result)]) ++ entries := by rw [stored, induction rest]
        _ = front ++ (key, result) :: entries := by rw [List.append_assoc]; rfl

/-- A set that is made of all results of a set has the same results in the same order. -/
theorem KeyedById.ofResults_iter (keyed : content.KeyedById) :
    ofResults content.iter = content := by
  have whole : KeyedById (([] : ResultContent Entity) ++ content) := keyed
  exact whole.storeEach

end ResultContent

end EventPipeline
