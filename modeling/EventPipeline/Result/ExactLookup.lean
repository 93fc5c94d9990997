import EventPipeline.Result.FilterLaws

/-! # The default lookup and `exact`

A key without an operator should look up what the operator `exact` does. The two ways of looking
up differ in what they do with `None`, with values that cannot be hashed or compared, and with
paths that end with an underscore.
-/

namespace EventPipeline

namespace FilterKey

def exact (path : String) : String :=
  path ++ "__exact"

/-- The last part of the path ends with an underscore. -/
def endsOpen (path : String) : Bool :=
  DoubledMark.endsOpen '_' path.toList

theorem toList_exact (path : String) :
    (exact path).toList = path.toList ++ '_' :: '_' :: "exact".toList :=
  String.toList_append

theorem nested_exact (path : String) : nested (exact path) = true := by
  rw [nested, toList_exact, decide_eq_true_iff]
  exact ⟨path.toList, "exact".toList, by simp⟩

theorem exact_ne_id (path : String) : exact path ≠ "id" := by
  intro same
  have nested := nested_exact path
  rw [same] at nested
  revert nested
  decide

theorem join_split (path : String) : join (split path) = path := by
  have parts : (split path).map String.toList = DoubledMark.split '_' path.toList := by
    rw [split, List.map_map]
    simp [Function.comp_def]
  rw [join, parts, DoubledMark.join_split, String.ofList_toList]

theorem split_plain {path : String} (plain : nested path = false) : split path = [path] := by
  rw [nested, decide_eq_false_iff_not] at plain
  rw [split, DoubledMark.split_eq_singleton plain, List.map_singleton, String.ofList_toList]

theorem split_exact {path : String} (closed : endsOpen path = false) :
    split (exact path) = split path ++ ["exact"] := by
  rw [split, toList_exact, DoubledMark.split_append closed, List.map_append]
  rfl

/-- The path without its last character. -/
def stem (path : String) : String :=
  String.ofList path.toList.dropLast

/-- The underscore at the end of the path becomes a part of the last name. -/
theorem split_exact_open {path : String} (isOpen : endsOpen path = true) :
    split (exact path) = split (stem path) ++ ["_exact"] := by
  have kept : (stem path).toList = path.toList.dropLast := String.toList_ofList
  rw [split, toList_exact, DoubledMark.split_append_open isOpen, List.map_append, ← kept]
  rfl

end FilterKey

namespace ObjectModel

variable {Entity Value : Type} [ObjectIdentity Entity] (model : ObjectModel Entity Value)

/-- The value at the end of a path is not `None` and equals the given one. -/
def compareExact (obj : Value) (fieldPath : List String) (value : Value) :
    Except PyException Bool := do
  let actualValue ← model.getFieldValue obj fieldPath
  if model.isNone actualValue then return false
  else model.eq actualValue value

/-- Two kinds of exceptions are taken for a difference. -/
def tolerate : Except PyException Bool → Except PyException Bool
  | .error .typeError | .error .valueError => .ok false
  | verdict => verdict

/-- The documented rules of comparisons: `!=` is the negation of `==`, and what can be hashed can
be looked up in a dictionary. -/
structure LawfulComparison (model : ObjectModel Entity Value) : Prop where
  ne_eq : ∀ left right, model.ne left right = (model.eq left right).map not
  identity : ∀ value, (model.hash value).isSome → model.IdentityValue value

end ObjectModel

namespace ResultContent

section Statement

variable {Entity Value : Type} [ObjectIdentity Entity] (model : ObjectModel Entity Value)

/-- The two calls return the same results, or none of them returns. -/
def ExactByDefault (content : ResultContent Entity) (path : String) (value : Value) : Prop :=
  ∀ filtered, model.filter content [(path, value)] = .ok filtered ↔
    model.filter content [(FilterKey.exact path, value)] = .ok filtered

/-- Two checks agree on all results, or both of them fail. -/
def SameVerdicts (results : List Entity) (check other : Entity → Except PyException Bool) :
    Prop :=
  (∀ result ∈ results, ∃ matched, check result = .ok matched ∧ other result = .ok matched) ∨
    ((∃ result ∈ results, ∃ exception, check result = .error exception) ∧
      ∃ result ∈ results, ∃ exception, other result = .error exception)

/-- The check of a key without an operator, other than `id` alone. -/
def defaultCheck (path : String) (value : Value) (result : Entity) : Except PyException Bool :=
  if FilterKey.nested path then
    model.checkNestedField (model.object result) (FilterKey.split path) value
  else model.comparePlain (model.object result) path value

def ExactRaises (content : ResultContent Entity) (path : String) (value : Value) : Prop :=
  ∃ result ∈ content.iter, ∃ exception,
    model.compareExact (model.object result) (FilterKey.split path) value = .error exception

/-- For `id`: the value can be hashed and compared with all identities, or neither the dictionary
nor the comparisons take it. -/
def IdLookupIsExact (content : ResultContent Entity) (value : Value) : Prop :=
  ((model.hash value).isSome ∧ ∀ result ∈ content.iter, ∃ equal,
      model.eq (model.ofString (ObjectIdentity.id result)) value = .ok equal) ∨
    ((∃ exception, model.lookup content value = .error exception) ∧
      ∃ result ∈ content.iter, ∃ exception,
        model.eq (model.ofString (ObjectIdentity.id result)) value = .error exception)

/-- For a nested path: the value does not equal a `None` that the path leads to, unless the exact
comparison fails anyway. -/
def NestedLookupIsExact (content : ResultContent Entity) (path : String) (value : Value) : Prop :=
  ExactRaises model content path value ∨
    ∀ result ∈ content.iter, ∀ actual,
      model.getFieldValue (model.object result) (FilterKey.split path) = .ok actual →
      model.isNone actual → model.eq actual value = .ok false

/-- For the name of an attribute: it can be read, the value does not equal an attribute that is
missing or `None`, and can be compared with the others, unless both comparisons fail. -/
def PlainLookupIsExact (content : ResultContent Entity) (path : String) (value : Value) : Prop :=
  (∀ result ∈ content.iter, ∃ actual,
      model.getFieldValue (model.object result) [path] = .ok actual ∧
      if model.isNone actual then ObjectModel.tolerate (model.eq actual value) = .ok false
      else ∃ equal, model.eq actual value = .ok equal) ∨
    ((∃ result ∈ content.iter, ∃ exception, ObjectModel.tolerate
        (model.checkNestedField (model.object result) [path] value) = .error exception) ∧
      ExactRaises model content path value)

/-- The default lookup finds that the value at the end of the path equals the given one, or that it
does not. A single attribute is also taken to differ when two kinds of exceptions are raised. -/
def Finds (path : String) (value : Value) (result : Entity) (equal : Bool) : Prop :=
  (∃ actual, model.getFieldValue (model.object result) (FilterKey.split path) = .ok actual ∧
      model.eq actual value = .ok equal) ∨
    (FilterKey.nested path = false ∧ equal = false ∧
      ∃ exception, (exception = .typeError ∨ exception = .valueError) ∧
        model.checkNestedField (model.object result) (FilterKey.split path) value =
          .error exception)

/-- For a path that ends with an underscore, which the operator makes the beginning of its own name:
what `path` leads to equals the value where an attribute or item `_exact`, one underscore earlier,
does; or each of the two lookups fails with some result. -/
def OpenLookupIsExact (content : ResultContent Entity) (path : String) (value : Value) : Prop :=
  (∀ result ∈ content.iter, ∃ equal, Finds model path value result equal ∧
      ∃ other, model.getFieldValue (model.object result)
          (FilterKey.split (FilterKey.stem path) ++ ["_exact"]) = .ok other ∧
        model.eq other value = .ok equal) ∨
    ((∃ result ∈ content.iter, ∀ equal, ¬Finds model path value result equal) ∧
      ∃ result ∈ content.iter, ∃ exception, model.checkNestedField (model.object result)
        (FilterKey.split (FilterKey.stem path) ++ ["_exact"]) value = .error exception)

/-- The condition by the kind of the path. -/
def DefaultIsExact (content : ResultContent Entity) (path : String) (value : Value) : Prop :=
  if FilterKey.endsOpen path then OpenLookupIsExact model content path value
  else if path = "id" then IdLookupIsExact model content value
  else if FilterKey.nested path then NestedLookupIsExact model content path value
  else PlainLookupIsExact model content path value

end Statement

variable {Entity Value : Type} [ObjectIdentity Entity] {model : ObjectModel Entity Value}
  {content : ResultContent Entity} {path : String} {value : Value}

/-! ## What the two keys check -/

theorem matchesFilter_exact (closed : FilterKey.endsOpen path = false) (obj : Value) :
    model.matchesFilter obj (FilterKey.exact path) value =
      model.compareExact obj (FilterKey.split path) value := by
  have operator : FilterOperator.ofName "exact" = some .exact := by decide
  have last : ((FilterKey.split (FilterKey.exact path)).getLast?.bind FilterOperator.ofName) =
      some .exact := by
    rw [FilterKey.split_exact closed, List.getLast?_concat, Option.bind_some, operator]
  rw [ObjectModel.matchesFilter, if_pos (FilterKey.nested_exact path)]
  simp only [last]
  rw [FilterKey.split_exact closed, List.dropLast_concat, FilterKey.join_split,
    ObjectModel.checkOperator, ObjectModel.compareExact]
  congr 1
  funext actual
  simp [ObjectModel.applyOperator]

theorem matchesFilter_exact_open (isOpen : FilterKey.endsOpen path = true) (obj : Value) :
    model.matchesFilter obj (FilterKey.exact path) value =
      model.checkNestedField obj (FilterKey.split (FilterKey.stem path) ++ ["_exact"]) value := by
  have operator : FilterOperator.ofName "_exact" = none := by decide
  have last : ((FilterKey.split (FilterKey.exact path)).getLast?.bind FilterOperator.ofName) =
      none := by
    rw [FilterKey.split_exact_open isOpen, List.getLast?_concat, Option.bind_some, operator]
  rw [ObjectModel.matchesFilter, if_pos (FilterKey.nested_exact path)]
  simp only [last]
  rw [FilterKey.split_exact_open isOpen]

theorem matchesFilter_default
    (noOperator : ∀ part ∈ FilterKey.split path, FilterOperator.ofName part = none)
    (result : Entity) :
    model.matchesFilter (model.object result) path value =
      defaultCheck model path value result := by
  have last : ((FilterKey.split path).getLast?.bind FilterOperator.ofName) = none := by
    cases found : (FilterKey.split path).getLast? with
    | none => rfl
    | some part => exact noOperator part (List.mem_of_getLast? found)
  unfold ObjectModel.matchesFilter defaultCheck
  simp only [last]

theorem comparePlain_eq (lawful : model.LawfulComparison) (result : Entity) :
    model.comparePlain (model.object result) path value =
      ObjectModel.tolerate (model.checkNestedField (model.object result) [path] value) := by
  have noItem : model.item (model.object result) path = .ok none := by
    rw [ObjectModel.item, model.isDict_object, if_neg Bool.false_ne_true]
  have read : model.getFieldValue (model.object result) [path] =
      (model.getattr (model.object result) path).map fun found => found.getD model.none := by
    rw [ObjectModel.getFieldValue, noItem]
    cases found : model.getattr (model.object result) path with
    | error exception => rfl
    | ok attributeValue =>
        cases attributeValue with
        | none => rfl
        | some actual =>
            simp [bind, Except.bind, Except.map, ObjectModel.getFieldValue]
  rw [ObjectModel.comparePlain, ObjectModel.checkNestedField, read]
  cases found : model.getattr (model.object result) path with
  | error exception => cases exception <;> rfl
  | ok attributeValue =>
      simp only [bind, Except.bind, Except.map, lawful.ne_eq]
      cases model.eq (attributeValue.getD model.none) value with
      | error exception => cases exception <;> rfl
      | ok equal => simp [ObjectModel.tolerate]

/-! ## Calls that return the same -/

theorem matchesFilters_singleton (obj : Value) (key : String) :
    model.matchesFilters obj [(key, value)] = model.matchesFilter obj key value := by
  rw [ObjectModel.matchesFilters]
  cases model.matchesFilter obj key value with
  | error exception => rfl
  | ok matched =>
      cases matched with
      | true => rfl
      | false => rfl

theorem filter_singleton {key : String} (other : key ≠ "id") :
    model.filter content [(key, value)] =
      (model.select [(key, value)] content.iter).map ofResults := by
  have absent : OrderedDict.get "id" [(key, value)] = none := by
    simp [OrderedDict.get, other]
  rw [ObjectModel.filter, filterResults, absent]
  rfl

theorem returns_of_select {key : String} {results selected : List Entity}
    (returned : model.select [(key, value)] results = .ok selected) :
    ∀ result ∈ results, ∃ matched,
      model.matchesFilter (model.object result) key value = .ok matched := by
  induction results generalizing selected with
  | nil =>
      intro result member
      cases member
  | cons first results induction =>
      rw [ObjectModel.select, matchesFilters_singleton] at returned
      cases verdict : model.matchesFilter (model.object first) key value with
      | error exception =>
          rw [verdict] at returned
          cases returned
      | ok matched =>
          rw [verdict] at returned
          cases rest : model.select [(key, value)] results with
          | error exception =>
              rw [rest] at returned
              cases returned
          | ok others =>
              intro result member
              rcases List.mem_cons.mp member with rfl | member
              · exact ⟨matched, verdict⟩
              · exact induction rest result member

/-- The call returns if no check raises an exception, and then it returns what is accepted. -/
theorem KeyedById.filter_eq_ok_iff (keyed : content.KeyedById) {key : String}
    (other : key ≠ "id") {filtered : ResultContent Entity} :
    model.filter content [(key, value)] = .ok filtered ↔
      (∀ result ∈ content.iter, ∃ matched,
        model.matchesFilter (model.object result) key value = .ok matched) ∧
      filtered = content.selected model [(key, value)] := by
  rw [filter_singleton other]
  have selects : (∀ result ∈ content.iter, ∃ matched,
      model.matchesFilter (model.object result) key value = .ok matched) →
      (model.select [(key, value)] content.iter).map ofResults =
        .ok (content.selected model [(key, value)]) := by
    intro returns
    apply keyed.select_eq_selected
    constructor
    · intro entry member filter given
      rw [List.mem_singleton.mp given]
      exact returns entry.2 (List.mem_map_of_mem member)
    · intro entry member value given
      exact absurd (congrArg Prod.fst (List.mem_singleton.mp given)).symm other
  constructor
  · intro returned
    have returns : ∀ result ∈ content.iter, ∃ matched,
        model.matchesFilter (model.object result) key value = .ok matched := by
      cases selection : model.select [(key, value)] content.iter with
      | error exception =>
          rw [selection] at returned
          cases returned
      | ok results => exact returns_of_select selection
    refine ⟨returns, ?_⟩
    rw [selects returns] at returned
    cases returned
    rfl
  · rintro ⟨returns, rfl⟩
    exact selects returns

omit [ObjectIdentity Entity] in
theorem fails_iff {results : List Entity} {check : Entity → Except PyException Bool} :
    (¬∀ result ∈ results, ∃ matched, check result = .ok matched) ↔
      ∃ result ∈ results, ∃ exception, check result = .error exception := by
  constructor
  · intro fails
    by_contra none
    apply fails
    intro result member
    cases verdict : check result with
    | ok matched => exact ⟨matched, rfl⟩
    | error exception => exact absurd ⟨result, member, exception, verdict⟩ none
  · rintro ⟨result, member, exception, raised⟩ returns
    rcases returns result member with ⟨matched, verdict⟩
    rw [raised] at verdict
    cases verdict

theorem accepts_eq {result : Entity} {key : String} {matched : Bool}
    (verdict : model.matchesFilter (model.object result) key value = .ok matched) :
    model.accepts result (key, value) = matched := by
  rw [ObjectModel.accepts, verdict]

theorem mem_selected {key : String} {entry : String × Entity} (member : entry ∈ content) :
    entry ∈ content.selected model [(key, value)] ↔
      model.accepts entry.2 (key, value) = true := by
  simp [selected, member]

theorem KeyedById.sameResults_iff (keyed : content.KeyedById) {key otherKey : String}
    (other : key ≠ "id") (otherOther : otherKey ≠ "id") :
    (∀ filtered, model.filter content [(key, value)] = .ok filtered ↔
        model.filter content [(otherKey, value)] = .ok filtered) ↔
      SameVerdicts content.iter
        (fun result => model.matchesFilter (model.object result) key value)
        fun result => model.matchesFilter (model.object result) otherKey value := by
  simp only [keyed.filter_eq_ok_iff other, keyed.filter_eq_ok_iff otherOther]
  constructor
  · intro same
    by_cases returns : ∀ result ∈ content.iter, ∃ matched,
        model.matchesFilter (model.object result) key value = .ok matched
    · left
      rcases (same _).mp ⟨returns, rfl⟩ with ⟨otherReturns, selections⟩
      intro result present
      rcases returns result present with ⟨matched, verdict⟩
      rcases otherReturns result present with ⟨otherMatched, otherVerdict⟩
      refine ⟨matched, verdict, ?_⟩
      rcases List.mem_map.mp present with ⟨entry, member, rfl⟩
      have kept : entry ∈ content.selected model [(key, value)] ↔
          model.accepts entry.2 (key, value) = true := mem_selected member
      have otherKept : entry ∈ content.selected model [(otherKey, value)] ↔
          model.accepts entry.2 (otherKey, value) = true := mem_selected member
      rw [selections, otherKept, accepts_eq verdict, accepts_eq otherVerdict] at kept
      exact otherVerdict.trans (congrArg Except.ok (Bool.eq_iff_iff.mpr kept))
    · right
      refine ⟨fails_iff.mp returns, fails_iff.mp fun otherReturns => ?_⟩
      exact returns ((same _).mpr ⟨otherReturns, rfl⟩).1
  · rintro (agree | ⟨fails, otherFails⟩) filtered
    · have returns : ∀ result ∈ content.iter, ∃ matched,
          model.matchesFilter (model.object result) key value = .ok matched :=
        fun result present => (agree result present).imp fun matched both => both.1
      have otherReturns : ∀ result ∈ content.iter, ∃ matched,
          model.matchesFilter (model.object result) otherKey value = .ok matched :=
        fun result present => (agree result present).imp fun matched both => both.2
      have selections : content.selected model [(key, value)] =
          content.selected model [(otherKey, value)] := by
        apply List.filter_congr
        intro entry member
        rcases agree entry.2 (List.mem_map_of_mem member) with ⟨matched, verdict, otherVerdict⟩
        simp [accepts_eq verdict, accepts_eq otherVerdict]
      rw [selections]
      exact and_congr_left fun _ => iff_of_true returns otherReturns
    · exact iff_of_false (fun returned => fails_iff.mpr fails returned.1)
        fun returned => fails_iff.mpr otherFails returned.1

/-! ## The kinds of paths -/

omit [ObjectIdentity Entity] in
theorem sameVerdicts_congr {results : List Entity}
    {check other newCheck newOther : Entity → Except PyException Bool}
    (checks : ∀ result, check result = newCheck result)
    (others : ∀ result, other result = newOther result) :
    SameVerdicts results check other ↔ SameVerdicts results newCheck newOther := by
  simp only [SameVerdicts, checks, others]

/-- The exact comparison differs from the other one for `None` only. -/
theorem compareExact_eq {obj actual : Value} {fieldPath : List String}
    (reached : model.getFieldValue obj fieldPath = .ok actual) :
    model.compareExact obj fieldPath value =
      if model.isNone actual then .ok false else model.eq actual value := by
  rw [ObjectModel.compareExact, reached]
  rfl

theorem checkNestedField_eq {obj actual : Value} {fieldPath : List String}
    (reached : model.getFieldValue obj fieldPath = .ok actual) :
    model.checkNestedField obj fieldPath value = model.eq actual value := by
  rw [ObjectModel.checkNestedField, reached]
  rfl

theorem compareExact_raises {obj : Value} {fieldPath : List String} {exception : PyException}
    (raised : model.getFieldValue obj fieldPath = .error exception) :
    model.compareExact obj fieldPath value = .error exception := by
  rw [ObjectModel.compareExact, raised]
  rfl

theorem checkNestedField_raises {obj : Value} {fieldPath : List String}
    {exception : PyException}
    (raised : model.getFieldValue obj fieldPath = .error exception) :
    model.checkNestedField obj fieldPath value = .error exception := by
  rw [ObjectModel.checkNestedField, raised]
  rfl

theorem checkNestedField_raises_of_compareExact {obj : Value} {fieldPath : List String}
    {exception : PyException}
    (raised : model.compareExact obj fieldPath value = .error exception) :
    model.checkNestedField obj fieldPath value = .error exception := by
  cases reached : model.getFieldValue obj fieldPath with
  | error other =>
      rw [compareExact_raises reached] at raised
      rw [checkNestedField_raises reached, raised]
  | ok actual =>
      rw [compareExact_eq reached] at raised
      rw [checkNestedField_eq reached]
      split at raised
      · cases raised
      · exact raised

theorem nestedLookup_iff :
    SameVerdicts content.iter
        (fun result => model.checkNestedField (model.object result)
          (FilterKey.split path) value)
        (fun result => model.compareExact (model.object result) (FilterKey.split path) value) ↔
      NestedLookupIsExact model content path value := by
  simp only [SameVerdicts]
  constructor
  · rintro (agree | ⟨_, raises⟩)
    · right
      intro result present actual reached isNone
      rcases agree result present with ⟨matched, verdict, exact⟩
      rw [checkNestedField_eq reached] at verdict
      rw [compareExact_eq reached, if_pos isNone] at exact
      rw [verdict, ← exact]
    · exact .inl raises
  · rintro (⟨result, present, exception, raised⟩ | differs)
    · right
      exact ⟨⟨result, present, exception, checkNestedField_raises_of_compareExact raised⟩,
        result, present, exception, raised⟩
    · by_cases returns : ∀ result ∈ content.iter, ∃ matched,
          model.compareExact (model.object result) (FilterKey.split path) value = .ok matched
      · left
        intro result present
        rcases returns result present with ⟨matched, exact⟩
        refine ⟨matched, ?_, exact⟩
        cases reached : model.getFieldValue (model.object result) (FilterKey.split path) with
        | error exception =>
            rw [compareExact_raises reached] at exact
            cases exact
        | ok actual =>
            rw [compareExact_eq reached] at exact
            rw [checkNestedField_eq reached]
            split at exact
            · rename_i isNone
              rw [differs result present actual reached isNone, exact]
            · exact exact
      · right
        rcases fails_iff.mp returns with ⟨result, present, exception, raised⟩
        exact ⟨⟨result, present, exception, checkNestedField_raises_of_compareExact raised⟩,
          result, present, exception, raised⟩

theorem plainLookup_iff (single : FilterKey.split path = [path]) :
    SameVerdicts content.iter
        (fun result => ObjectModel.tolerate
          (model.checkNestedField (model.object result) [path] value))
        (fun result => model.compareExact (model.object result) (FilterKey.split path) value) ↔
      PlainLookupIsExact model content path value := by
  simp only [SameVerdicts, PlainLookupIsExact, ExactRaises, single]
  apply or_congr_left
  apply forall_congr'
  intro result
  apply forall_congr'
  intro present
  constructor
  · rintro ⟨matched, verdict, exact⟩
    cases reached : model.getFieldValue (model.object result) [path] with
    | error exception =>
        rw [compareExact_raises reached] at exact
        cases exact
    | ok actual =>
        refine ⟨actual, rfl, ?_⟩
        rw [compareExact_eq reached] at exact
        rw [checkNestedField_eq reached] at verdict
        split
        · rename_i isNone
          rw [if_pos isNone] at exact
          rw [verdict, ← exact]
        · rename_i notNone
          rw [if_neg notNone] at exact
          exact ⟨matched, exact⟩
  · rintro ⟨actual, reached, compared⟩
    rw [compareExact_eq reached, checkNestedField_eq reached]
    split at compared
    · rename_i isNone
      exact ⟨false, compared, if_pos isNone⟩
    · rename_i notNone
      rcases compared with ⟨equal, comparison⟩
      refine ⟨equal, ?_, (if_neg notNone).trans comparison⟩
      rw [comparison]
      rfl

theorem compareExact_id (result : Entity) :
    model.compareExact (model.object result) (FilterKey.split "id") value =
      model.eq (model.ofString (ObjectIdentity.id result)) value := by
  have noItem : model.item (model.object result) "id" = .ok none := by
    rw [ObjectModel.item, model.isDict_object, if_neg Bool.false_ne_true]
  have found : model.getattr (model.object result) "id" =
      .ok (some (model.ofString (ObjectIdentity.id result))) := by
    rw [ObjectModel.getattr, model.getAttr_id]
  have single : FilterKey.split "id" = ["id"] := FilterKey.split_plain (by decide)
  have reached : model.getFieldValue (model.object result) (FilterKey.split "id") =
      .ok (model.ofString (ObjectIdentity.id result)) := by
    rw [single, ObjectModel.getFieldValue, noItem]
    simp only [bind, Except.bind, found]
    rfl
  rw [compareExact_eq reached, model.isNone_ofString, if_neg Bool.false_ne_true]

theorem filter_id :
    model.filter content [("id", value)] =
      (model.lookup content value).map fun found => ofResults found.toList := by
  have given : OrderedDict.get "id" [("id", value)] = some value := by
    simp [OrderedDict.get]
  rw [ObjectModel.filter, filterResults, given]
  simp only [List.length_singleton, if_true]
  cases model.lookup content value with
  | error exception => rfl
  | ok found => rfl

theorem matchesFilter_exact_id (result : Entity) :
    model.matchesFilter (model.object result) (FilterKey.exact "id") value =
      model.eq (model.ofString (ObjectIdentity.id result)) value := by
  have closed : FilterKey.endsOpen "id" = false := by decide
  rw [matchesFilter_exact closed, compareExact_id]

theorem KeyedById.filter_exact_id_eq_ok_iff (keyed : content.KeyedById)
    {filtered : ResultContent Entity} :
    model.filter content [(FilterKey.exact "id", value)] = .ok filtered ↔
      (∀ result ∈ content.iter, ∃ equal,
        model.eq (model.ofString (ObjectIdentity.id result)) value = .ok equal) ∧
      filtered = content.selected model [(FilterKey.exact "id", value)] := by
  rw [keyed.filter_eq_ok_iff (FilterKey.exact_ne_id "id")]
  simp only [matchesFilter_exact_id]

theorem KeyedById.lookup_eq_selected_exact (keyed : content.KeyedById)
    (lawful : model.LawfulComparison) (hashable : (model.hash value).isSome = true)
    (compared : ∀ result ∈ content.iter, ∃ equal,
      model.eq (model.ofString (ObjectIdentity.id result)) value = .ok equal) :
    (model.lookup content value).map (fun found => ofResults found.toList) =
      .ok (content.selected model [(FilterKey.exact "id", value)]) := by
  have identity := lawful.identity value hashable
  have each : ∀ entry ∈ content, ∃ equal,
      model.eq (model.ofString (ObjectIdentity.id entry.2)) value = .ok equal :=
    fun entry member => compared entry.2 (List.mem_map_of_mem member)
  have selections : content.selected model [("id", value)] =
      content.selected model [(FilterKey.exact "id", value)] := by
    apply List.filter_congr
    intro entry member
    rcases each entry member with ⟨equal, comparison⟩
    have verdict := (matchesFilter_exact_id entry.2).trans comparison
    simp [accepts_id identity comparison, accepts_eq verdict]
  rw [keyed.lookup_eq_selected identity each, selections]

theorem KeyedById.idLookup_iff (keyed : content.KeyedById) (lawful : model.LawfulComparison) :
    ExactByDefault model content "id" value ↔ IdLookupIsExact model content value := by
  unfold ExactByDefault
  simp only [keyed.filter_exact_id_eq_ok_iff, filter_id]
  constructor
  · intro same
    by_cases compared : ∀ result ∈ content.iter, ∃ equal,
        model.eq (model.ofString (ObjectIdentity.id result)) value = .ok equal
    · left
      have found := (same _).mpr ⟨compared, rfl⟩
      refine ⟨?_, compared⟩
      cases hashed : model.hash value with
      | some hash => rfl
      | none =>
          rw [ObjectModel.lookup, hashed] at found
          cases found
    · right
      refine ⟨?_, fails_iff.mp compared⟩
      cases found : model.lookup content value with
      | error exception => exact ⟨exception, rfl⟩
      | ok result =>
          rw [found] at same
          exact absurd ((same _).mp rfl).1 compared
  · rintro (⟨hashable, compared⟩ | ⟨⟨exception, raised⟩, fails⟩) filtered
    · rw [keyed.lookup_eq_selected_exact lawful hashable compared, Except.ok.injEq]
      constructor
      · rintro rfl
        exact ⟨compared, rfl⟩
      · intro both
        exact both.2.symm
    · rw [raised]
      constructor
      · rintro ⟨⟩
      · rintro ⟨returns, _⟩
        exact absurd returns (fails_iff.mpr fails)

theorem checkNestedField_eq_ok_iff {obj : Value} {fieldPath : List String} {equal : Bool} :
    model.checkNestedField obj fieldPath value = .ok equal ↔
      ∃ actual, model.getFieldValue obj fieldPath = .ok actual ∧
        model.eq actual value = .ok equal := by
  rw [ObjectModel.checkNestedField]
  cases model.getFieldValue obj fieldPath with
  | error exception => simp [bind, Except.bind]
  | ok actual => simp [bind, Except.bind]

theorem defaultCheck_eq_ok_iff (lawful : model.LawfulComparison) {result : Entity}
    {equal : Bool} :
    defaultCheck model path value result = .ok equal ↔ Finds model path value result equal := by
  rw [defaultCheck, Finds, ← checkNestedField_eq_ok_iff]
  by_cases nested : FilterKey.nested path = true
  · rw [if_pos nested]
    simp [nested]
  · have plain : FilterKey.nested path = false := by simpa using nested
    rw [if_neg nested, comparePlain_eq lawful, FilterKey.split_plain plain]
    cases model.checkNestedField (model.object result) [path] value with
    | ok verdict => simp [ObjectModel.tolerate]
    | error exception => cases exception <;> simp [ObjectModel.tolerate, plain, eq_comm]

theorem openLookup_iff (lawful : model.LawfulComparison) :
    SameVerdicts content.iter (defaultCheck model path value) (fun result =>
      model.checkNestedField (model.object result)
        (FilterKey.split (FilterKey.stem path) ++ ["_exact"]) value) ↔
      OpenLookupIsExact model content path value := by
  have fails : (∃ result ∈ content.iter, ∃ exception,
      defaultCheck model path value result = .error exception) ↔
      ∃ result ∈ content.iter, ∀ equal, ¬Finds model path value result equal := by
    rw [← fails_iff]
    simp only [defaultCheck_eq_ok_iff lawful, not_forall, not_exists, exists_prop]
  rw [SameVerdicts, OpenLookupIsExact, fails]
  simp only [defaultCheck_eq_ok_iff lawful, checkNestedField_eq_ok_iff]

theorem exactByDefault_iff (keyed : content.KeyedById) (lawful : model.LawfulComparison)
    (noOperator : ∀ part ∈ FilterKey.split path, FilterOperator.ofName part = none) :
    ExactByDefault model content path value ↔ DefaultIsExact model content path value := by
  unfold DefaultIsExact
  split
  · rename_i isOpen
    have other : path ≠ "id" := by
      rintro rfl
      revert isOpen
      decide
    rw [ExactByDefault, keyed.sameResults_iff other (FilterKey.exact_ne_id path)]
    rw [← openLookup_iff lawful]
    exact sameVerdicts_congr (matchesFilter_default noOperator)
      fun result => matchesFilter_exact_open isOpen (model.object result)
  · rename_i notOpen
    have closed : FilterKey.endsOpen path = false := by simpa using notOpen
    split
    · rename_i same
      subst same
      exact keyed.idLookup_iff lawful
    · rename_i other
      rw [ExactByDefault, keyed.sameResults_iff other (FilterKey.exact_ne_id path)]
      split
      · rename_i nested
        rw [← nestedLookup_iff]
        apply sameVerdicts_congr
        · intro result
          rw [matchesFilter_default noOperator, defaultCheck, if_pos nested]
        · exact fun result => matchesFilter_exact closed (model.object result)
      · rename_i notNested
        have plain : FilterKey.nested path = false := by simpa using notNested
        rw [← plainLookup_iff (FilterKey.split_plain plain)]
        apply sameVerdicts_congr
        · intro result
          rw [matchesFilter_default noOperator, defaultCheck, if_neg notNested,
            comparePlain_eq lawful]
        · exact fun result => matchesFilter_exact closed (model.object result)

end ResultContent

theorem lawfulComparison_tagged : taggedModel.LawfulComparison where
  ne_eq left right := by simp [taggedModel, Except.map]
  identity _ hashable := identityValue_tagged hashable

theorem exactByDefault_taggedName :
    ResultContent.ExactByDefault taggedModel taggedResults "content__name" (.text "Alice") := by
  apply (ResultContent.exactByDefault_iff ⟨by decide, by decide⟩ lawfulComparison_tagged
    (by decide +kernel)).mpr
  have closed : FilterKey.endsOpen "content__name" = false := by decide
  have nested : FilterKey.nested "content__name" = true := by decide +kernel
  rw [ResultContent.DefaultIsExact, closed, if_neg Bool.false_ne_true, if_neg (by decide),
    if_pos nested]
  refine .inr fun result _ actual _ isNone => ?_
  rw [(taggedModel.isNone_iff actual).mp isNone]
  rfl

/-- A key that is missing is `None` for the default lookup only. -/
theorem not_exactByDefault_missingKey :
    ¬ResultContent.ExactByDefault taggedModel taggedResults "content__owner" .none := by
  intro same
  have byDefault : taggedModel.filter taggedResults [("content__owner", .none)] =
      .ok taggedResults := by decide +kernel
  have exact := (same taggedResults).mp byDefault
  revert exact
  decide +kernel

end EventPipeline
