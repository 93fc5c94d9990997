import EventPipeline.Result.Filter

/-! # Laws of filters

Where no comparison raises an exception, a filter keeps the entries that all of its keys accept,
also if it looks up an identity in the dictionary. Filters compose because of that.
-/

namespace EventPipeline

namespace ObjectModel

variable {Entity Value : Type} [ObjectIdentity Entity]

/-- The value can be hashed, and follows the documented rules when it is compared with strings:
`!=` is the negation of `==`, equal objects have the same hash, and what equals the same object is
equal. -/
structure IdentityValue (model : ObjectModel Entity Value) (value : Value) : Prop where
  hashable : (model.hash value).isSome
  ne_eq : ∀ text, model.ne (model.ofString text) value =
    (model.eq (model.ofString text) value).map not
  hash_eq : ∀ text, model.eq (model.ofString text) value = .ok true →
    model.hash (model.ofString text) = model.hash value
  eq_unique : ∀ text other, model.eq (model.ofString text) value = .ok true →
    model.eq (model.ofString other) value = .ok true → text = other

/-- What a key of a filter says about a result, if that raises no exception. -/
def accepts (model : ObjectModel Entity Value) (result : Entity) (filter : String × Value) :
    Bool :=
  match model.matchesFilter (model.object result) filter.1 filter.2 with
  | .ok matched => matched
  | .error _ => false

end ObjectModel

namespace ResultContent

variable {Entity Value : Type} [ObjectIdentity Entity]

/-- The values for `id` can be looked up in a dictionary. -/
def Hashable (model : ObjectModel Entity Value) (filters : FilterParams Value) : Prop :=
  ∀ value, ("id", value) ∈ filters → model.IdentityValue value

/-- No comparison that the filter makes raises an exception. -/
structure Comparable (model : ObjectModel Entity Value)
    (content : ResultContent Entity) (filters : FilterParams Value) : Prop where
  returns : ∀ entry ∈ content, ∀ filter ∈ filters, ∃ matched,
    model.matchesFilter (model.object entry.2) filter.1 filter.2 = .ok matched
  ids : ∀ entry ∈ content, ∀ value, ("id", value) ∈ filters → ∃ equal,
    model.eq (model.ofString (ObjectIdentity.id entry.2)) value = .ok equal

/-- The entries that all keys accept. -/
def selected (model : ObjectModel Entity Value) (content : ResultContent Entity)
    (filters : FilterParams Value) : ResultContent Entity :=
  List.filter (fun entry => filters.all (model.accepts entry.2)) content

/-- Two filters can be joined into one and applied in any order, and so on. -/
structure FiltersCompose (model : ObjectModel Entity Value)
    (content : ResultContent Entity) (first second : FilterParams Value) : Prop where
  returns : ∃ filtered, model.filter content (first ++ second) = .ok filtered
  inOrder : model.filter content (first ++ second) =
    (model.filter content first).bind fun filtered => model.filter filtered second
  inReverse : model.filter content (first ++ second) =
    (model.filter content second).bind fun filtered => model.filter filtered first
  idempotent : ∀ filtered, model.filter content first = .ok filtered →
    model.filter filtered first = .ok filtered
  subsequence : ∀ filtered, model.filter content first = .ok filtered →
    List.Sublist filtered content
  unfiltered : model.filter content [] = .ok content
  fastPath : ∀ value, ("id", value) ∈ first → model.filter content [("id", value)] =
    (model.select [("id", value)] content.iter).map ofResults

variable {model : ObjectModel Entity Value} {content : ResultContent Entity}
  {filters first second : FilterParams Value}

theorem selected_append : content.selected model (first ++ second) =
    (content.selected model first).selected model second := by
  simp only [selected, List.filter_filter, List.all_append]
  apply List.filter_congr
  intro entry _
  exact Bool.and_comm _ _

theorem selected_comm : (content.selected model first).selected model second =
    (content.selected model second).selected model first := by
  simp only [selected, List.filter_filter]
  apply List.filter_congr
  intro entry _
  exact Bool.and_comm _ _

theorem selected_selected : (content.selected model filters).selected model filters =
    content.selected model filters := by
  simp [selected, List.filter_filter]

theorem selected_nil : content.selected model [] = content := by
  simp [selected]

theorem Hashable.append (hashable : Hashable model first) (also : Hashable model second) :
    Hashable model (first ++ second) := by
  intro value given
  rcases List.mem_append.mp given with given | given
  · exact hashable value given
  · exact also value given

theorem Hashable.subset (hashable : Hashable model filters) {fewer : FilterParams Value}
    (subset : fewer ⊆ filters) : Hashable model fewer :=
  fun value given => hashable value (subset given)

theorem matchesFilters_eq {result : Entity}
    (returns : ∀ filter ∈ filters, ∃ matched,
      model.matchesFilter (model.object result) filter.1 filter.2 = .ok matched) :
    model.matchesFilters (model.object result) filters =
      .ok (filters.all (model.accepts result)) := by
  induction filters with
  | nil => rfl
  | cons filter filters induction =>
      rcases filter with ⟨key, value⟩
      rcases returns (key, value) List.mem_cons_self with ⟨matched, found⟩
      have rest := induction fun filter member =>
        returns filter (List.mem_cons_of_mem _ member)
      have said : model.accepts result (key, value) = matched := by
        rw [ObjectModel.accepts, found]
      rw [ObjectModel.matchesFilters, found, List.all_cons, said]
      cases matched with
      | false => rfl
      | true => exact rest

theorem select_eq {results : List Entity}
    (returns : ∀ result ∈ results, ∀ filter ∈ filters, ∃ matched,
      model.matchesFilter (model.object result) filter.1 filter.2 = .ok matched) :
    model.select filters results =
      .ok (results.filter fun result => filters.all (model.accepts result)) := by
  induction results with
  | nil => rfl
  | cons result results induction =>
      have rest := induction fun result member =>
        returns result (List.mem_cons_of_mem _ member)
      rw [ObjectModel.select, matchesFilters_eq (returns result List.mem_cons_self), rest,
        List.filter_cons]
      rfl

theorem Comparable.selected (comparable : Comparable model content filters)
    (others : FilterParams Value) : Comparable model (content.selected model others) filters where
  returns entry member := comparable.returns entry (List.mem_filter.mp member).1
  ids entry member := comparable.ids entry (List.mem_filter.mp member).1

theorem Comparable.subset (comparable : Comparable model content filters)
    {fewer : FilterParams Value} (subset : fewer ⊆ filters) :
    Comparable model content fewer where
  returns entry member filter given := comparable.returns entry member filter (subset given)
  ids entry member value given := comparable.ids entry member value (subset given)

theorem Comparable.append (comparable : Comparable model content first)
    (also : Comparable model content second) :
    Comparable model content (first ++ second) where
  returns entry member filter given := by
    rcases List.mem_append.mp given with given | given
    · exact comparable.returns entry member filter given
    · exact also.returns entry member filter given
  ids entry member value given := by
    rcases List.mem_append.mp given with given | given
    · exact comparable.ids entry member value given
    · exact also.ids entry member value given

theorem KeyedById.select_eq_selected (keyed : content.KeyedById)
    (comparable : Comparable model content filters) :
    (model.select filters content.iter).map ofResults = .ok (content.selected model filters) := by
  have returns : ∀ result ∈ content.iter, ∀ filter ∈ filters, ∃ matched,
      model.matchesFilter (model.object result) filter.1 filter.2 = .ok matched := by
    intro result member
    rcases List.mem_map.mp member with ⟨entry, stored, rfl⟩
    exact comparable.returns entry stored
  have kept : (content.iter.filter fun result => filters.all (model.accepts result)) =
      (content.selected model filters).iter := by
    rw [iter, List.filter_map]
    rfl
  rw [select_eq returns, kept]
  exact congrArg Except.ok (keyed.filter _).ofResults_iter

theorem accepts_id {value : Value} (identity : model.IdentityValue value) {result : Entity}
    {equal : Bool}
    (compared : model.eq (model.ofString (ObjectIdentity.id result)) value = .ok equal) :
    model.accepts result ("id", value) = equal := by
  have plain : FilterKey.nested "id" = false := by decide
  have differs : model.ne (model.ofString (ObjectIdentity.id result)) value = .ok (!equal) := by
    rw [identity.ne_eq, compared]
    rfl
  have found : model.getattr (model.object result) "id" =
      .ok (some (model.ofString (ObjectIdentity.id result))) := by
    rw [ObjectModel.getattr, model.getAttr_id]
  have matched : model.matchesFilter (model.object result) "id" value = .ok equal := by
    rw [ObjectModel.matchesFilter, plain, if_neg Bool.false_ne_true, ObjectModel.comparePlain,
      found]
    simp [bind, Except.bind, differs]
  rw [ObjectModel.accepts, matched]

theorem probe_eq {value : Value} (identity : model.IdentityValue value) {hash : Int}
    (hashed : model.hash value = some hash) {entries : ResultContent Entity}
    (named : ∀ entry ∈ entries, entry.1 = ObjectIdentity.id entry.2)
    (compared : ∀ entry ∈ entries, ∃ equal,
      model.eq (model.ofString (ObjectIdentity.id entry.2)) value = .ok equal) :
    model.probe hash value entries =
      .ok ((entries.find? fun entry => model.accepts entry.2 ("id", value)).map Prod.snd) := by
  induction entries with
  | nil => rfl
  | cons entry entries induction =>
      rcases entry with ⟨key, result⟩
      have same : key = ObjectIdentity.id result := named (key, result) List.mem_cons_self
      rcases compared (key, result) List.mem_cons_self with ⟨equal, comparison⟩
      have rest := induction (fun entry member => named entry (List.mem_cons_of_mem _ member))
        fun entry member => compared entry (List.mem_cons_of_mem _ member)
      rw [ObjectModel.probe, List.find?_cons, accepts_id identity comparison, same]
      by_cases hashes : model.hash (model.ofString (ObjectIdentity.id result)) = some hash
      · rw [if_pos hashes, comparison]
        cases equal with
        | true => rfl
        | false => exact rest
      · have different : equal = false := by
          cases equal with
          | false => rfl
          | true => exact absurd ((identity.hash_eq _ comparison).trans hashed) hashes
        rw [if_neg hashes, different]
        exact rest

theorem KeyedById.accepted_unique (keyed : content.KeyedById) {value : Value}
    (identity : model.IdentityValue value) (compared : ∀ entry ∈ content, ∃ equal,
      model.eq (model.ofString (ObjectIdentity.id entry.2)) value = .ok equal)
    {entry other : String × Entity} (member : entry ∈ content) (otherMember : other ∈ content)
    (accepted : model.accepts entry.2 ("id", value) = true)
    (otherAccepted : model.accepts other.2 ("id", value) = true) : entry = other := by
  rcases compared entry member with ⟨equal, comparison⟩
  rcases compared other otherMember with ⟨otherEqual, otherComparison⟩
  rw [accepts_id identity comparison] at accepted
  rw [accepts_id identity otherComparison] at otherAccepted
  subst accepted otherAccepted
  apply List.inj_on_of_nodup_map keyed.nodup member otherMember
  rw [keyed.key entry member, keyed.key other otherMember,
    identity.eq_unique _ _ comparison otherComparison]

theorem filter_eq_toList_find? {Item : Type} {items : List Item} {keeps : Item → Bool}
    (nodup : items.Nodup)
    (unique : ∀ item ∈ items, ∀ other ∈ items, keeps item = true → keeps other = true →
      item = other) :
    items.filter keeps = (items.find? keeps).toList := by
  induction items with
  | nil => rfl
  | cons item items induction =>
      rw [List.nodup_cons] at nodup
      have rest := induction nodup.2 fun first firstMember second secondMember =>
        unique first (List.mem_cons_of_mem _ firstMember) second
          (List.mem_cons_of_mem _ secondMember)
      cases kept : keeps item with
      | false => rw [List.filter_cons_of_neg (by simp [kept]), List.find?_cons, kept, rest]
      | true =>
          have none : items.filter keeps = [] := by
            rw [List.filter_eq_nil_iff]
            intro other member keepsOther
            have same := unique item List.mem_cons_self other (List.mem_cons_of_mem _ member)
              kept keepsOther
            rw [same] at nodup
            exact nodup.1 member
          rw [List.filter_cons_of_pos kept, List.find?_cons, kept, none]
          rfl

/-- The search of the dictionary finds what the general path keeps. -/
theorem KeyedById.lookup_eq_selected (keyed : content.KeyedById) {value : Value}
    (identity : model.IdentityValue value) (compared : ∀ entry ∈ content, ∃ equal,
      model.eq (model.ofString (ObjectIdentity.id entry.2)) value = .ok equal) :
    ((model.lookup content value).map fun found => ofResults found.toList) =
      .ok (content.selected model [("id", value)]) := by
  rcases Option.isSome_iff_exists.mp identity.hashable with ⟨hash, hashed⟩
  have kept : content.selected model [("id", value)] =
      (content.find? fun entry => model.accepts entry.2 ("id", value)).toList := by
    rw [← filter_eq_toList_find? (List.Nodup.of_map Prod.fst keyed.nodup)
      fun entry member other otherMember accepted otherAccepted =>
        keyed.accepted_unique identity compared member otherMember accepted otherAccepted]
    simp [selected]
  rw [ObjectModel.lookup, hashed]
  simp only
  rw [probe_eq identity hashed keyed.key compared, kept]
  cases found : content.find? fun entry => model.accepts entry.2 ("id", value) with
  | none => rfl
  | some entry =>
      have named := keyed.key entry (List.mem_of_find?_eq_some found)
      simp [Except.map, ofResults, ResultContent.store, OrderedDict.insert, ← named]

theorem filter_eq_selected (keyed : content.KeyedById)
    (comparable : Comparable model content filters) (hashable : Hashable model filters) :
    model.filter content filters = .ok (content.selected model filters) := by
  have general := keyed.select_eq_selected comparable
  unfold ObjectModel.filter filterResults
  cases given : OrderedDict.get "id" filters with
  | none => exact general
  | some value =>
      have member := OrderedDict.mem_of_get given
      by_cases single : filters.length = 1
      · rcases List.length_eq_one_iff.mp single with ⟨filter, rfl⟩
        have same : filter = ("id", value) := (List.mem_singleton.mp member).symm
        subst same
        have found := keyed.lookup_eq_selected (hashable value member)
          fun entry stored => comparable.ids entry stored value member
        rw [← found]
        simp only [List.length_singleton, if_true]
        cases model.lookup content value with
        | error exception => rfl
        | ok result => rfl
      · simp only [single, if_false]
        exact general

theorem filtersCompose (keyed : content.KeyedById)
    (firstComparable : Comparable model content first)
    (secondComparable : Comparable model content second) (firstHashable : Hashable model first)
    (secondHashable : Hashable model second) :
    FiltersCompose model content first second := by
  have both := filter_eq_selected keyed (firstComparable.append secondComparable)
    (firstHashable.append secondHashable)
  have byFirst := filter_eq_selected keyed firstComparable firstHashable
  have bySecond := filter_eq_selected keyed secondComparable secondHashable
  have again := filter_eq_selected (keyed.filter _)
    (firstComparable.selected first) firstHashable
  refine ⟨⟨_, both⟩, ?_, ?_, ?_, ?_, ?_, ?_⟩
  · rw [both, byFirst, selected_append]
    exact (filter_eq_selected (keyed.filter _) (secondComparable.selected first)
      secondHashable).symm
  · rw [both, bySecond, selected_append, selected_comm]
    exact (filter_eq_selected (keyed.filter _) (firstComparable.selected second)
      firstHashable).symm
  · intro filtered found
    rw [byFirst] at found
    cases found
    exact again.trans (congrArg Except.ok selected_selected)
  · intro filtered found
    rw [byFirst] at found
    cases found
    exact List.filter_sublist
  · rw [filter_eq_selected keyed (firstComparable.subset (List.nil_subset _))
      (firstHashable.subset (List.nil_subset _)), selected_nil]
  · intro value given
    have subset : [("id", value)] ⊆ first := by simpa using given
    have comparable := firstComparable.subset subset
    rw [filter_eq_selected keyed comparable (firstHashable.subset subset),
      keyed.select_eq_selected comparable]

end ResultContent

/-- A result whose content is a dictionary with a name and tags. -/
structure TaggedResult where
  id : String
  name : String
  tags : List String
deriving DecidableEq, Repr

instance : ObjectIdentity TaggedResult where
  id := TaggedResult.id
  truthy _ := true
  connector _ := none
  objectImportStr _ := "TaggedResult"

inductive TaggedValue
  | none
  | bool (value : Bool)
  | text (value : String)
  | tags (items : List String)
  | content (name : String) (tags : List String)
  | result (value : TaggedResult)
deriving DecidableEq, Repr

namespace TaggedValue

def compare (order : String → String → Bool) : TaggedValue → TaggedValue →
    Except PyException Bool
  | .text left, .text right => .ok (order left right)
  | _, _ => .error .typeError

def contains : TaggedValue → TaggedValue → Except PyException Bool
  | .tags items, .text item => .ok (decide (item ∈ items))
  | .tags _, _ => .ok false
  | .text whole, .text part => .ok (decide (part.toList <:+: whole.toList))
  | .content _ _, .text key => .ok (decide (key ∈ ["name", "tags"]))
  | _, _ => .error .typeError

def getItem : TaggedValue → String → Except PyException TaggedValue
  | .content name items, key =>
      if key = "name" then .ok (.text name)
      else if key = "tags" then .ok (.tags items)
      else .error .keyError
  | _, _ => .error .typeError

def getAttr : TaggedValue → String → Except PyException TaggedValue
  | .result value, field =>
      if field = "id" then .ok (.text value.id)
      else if field = "content" then .ok (.content value.name value.tags)
      else .error .attributeError
  | _, _ => .error .attributeError

def hash : TaggedValue → Option Int
  | .none => some 0
  | .bool value => some (if value then 1 else 0)
  | .text value => some value.length
  | .tags _ | .content _ _ => Option.none
  | .result value => some value.id.length

def asString : TaggedValue → Option String
  | .text value => some value
  | _ => Option.none

end TaggedValue

def taggedModel : ObjectModel TaggedResult TaggedValue where
  object := .result
  none := .none
  ofBool := .bool
  ofString := .text
  isNone value := value = .none
  isNone_iff := by simp
  isNone_ofString _ := rfl
  asString := TaggedValue.asString
  isDict value :=
    match value with
    | .content _ _ => true
    | _ => false
  isDict_object _ := rfl
  getItem := TaggedValue.getItem
  getAttr := TaggedValue.getAttr
  getAttr_id _ := rfl
  hash := TaggedValue.hash
  eq left right := .ok (left = right)
  ne left right := .ok (left ≠ right)
  gt := TaggedValue.compare fun left right => right < left
  ge := TaggedValue.compare fun left right => right ≤ left
  lt := TaggedValue.compare fun left right => left < right
  le := TaggedValue.compare fun left right => left ≤ right
  hasContains value :=
    match value with
    | .tags _ | .text _ | .content _ _ => true
    | _ => false
  contains := TaggedValue.contains
  startsWith text value :=
    match value with
    | .text part => .ok (decide (part.toList <+: text.toList))
    | _ => .error .typeError
  endsWith text value :=
    match value with
    | .text part => .ok (decide (part.toList <:+ text.toList))
    | _ => .error .typeError
  lower text := String.ofList (text.toList.map Char.toLower)

theorem identityValue_tagged {value : TaggedValue} (hashable : (taggedModel.hash value).isSome) :
    taggedModel.IdentityValue value where
  hashable := hashable
  ne_eq text := by simp [taggedModel, Except.map]
  hash_eq text equal := by
    have same : TaggedValue.text text = value := by simpa [taggedModel] using equal
    rw [← same]
    rfl
  eq_unique first second firstEqual secondEqual := by
    have firstSame : TaggedValue.text first = value := by simpa [taggedModel] using firstEqual
    have secondSame : TaggedValue.text second = value := by
      simpa [taggedModel] using secondEqual
    exact TaggedValue.text.inj (firstSame.trans secondSame.symm)

def taggedResults : ResultContent TaggedResult :=
  [("1", ⟨"1", "Alice", ["urgent"]⟩), ("2", ⟨"2", "Bob", ["normal"]⟩),
    ("3", ⟨"3", "Charlie", ["urgent", "low"]⟩)]

/-- One of the results that are urgent is looked up. -/
theorem filtersCompose_taggedResults :
    ResultContent.FiltersCompose taggedModel taggedResults [("id", .text "3")]
      [("content__tags__contains", .text "urgent")] := by
  apply ResultContent.filtersCompose
  · exact ⟨by decide, by decide⟩
  · refine ⟨by decide +kernel, fun entry _ value given => ?_⟩
    exact ⟨_, rfl⟩
  · refine ⟨by decide +kernel, fun entry _ value given => ?_⟩
    exact ⟨_, rfl⟩
  · intro value given
    have same : value = .text "3" := by simpa using given
    rw [same]
    exact identityValue_tagged rfl
  · intro value given
    simp at given

end EventPipeline
