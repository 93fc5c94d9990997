import EventPipeline.Foundation.Wildcards
import EventPipeline.Result.FilterLaws
import EventPipeline.Store.PostgresFilter

/-! # String operators in SQL and in memory

Four operators look for a text in a text. In Sqlite the text is made a part of a pattern, in which
`%` and `_` are wildcards and letters match without regard to case. Result sets look for the text
itself, and for the last operator both texts are lowered first.
-/

namespace EventPipeline

/-! ## Patterns of Sqlite -/

namespace SqlLike

def item : Char → PatternItem Char
  | '%' => .sequence
  | '_' => .single
  | char => .symbol char

def items (pattern : String) : List (PatternItem Char) :=
  pattern.toList.map item

/-- `text LIKE pattern`: ASCII letters match in either case, and nothing is escaped. -/
def like (pattern text : String) : Bool :=
  PatternItem.accepts Char.toLower (items pattern) text.toList

/-- `LOWER(text)`, which knows ASCII letters only. -/
def lower (text : String) : String :=
  String.ofList (text.toList.map Char.toLower)

example : like "%a_c%" "xABCx" = true := by decide

end SqlLike

/-- All characters of a text are ASCII. -/
def Ascii (text : String) : Prop :=
  ∀ char ∈ text.toList, char.toNat < 128

/-- Sqlite with its patterns, on columns that the store makes for fields of the type `str`. -/
structure LikeEngine extends LookupEngine where
  compares_like : ∀ stored pattern,
    compares .varchar .like (.text stored) [.text pattern] = SqlLike.like pattern stored
  compares_lowerLike : ∀ stored pattern,
    compares .varchar .lowerLike (.text stored) [.text pattern] =
      SqlLike.like (SqlLike.lower pattern) (SqlLike.lower stored)

/-! ## Texts in memory -/

/-- An object model with the strings of Python, any of which may be in a field of an object. The two
wildcards are no letters, so that a lowered text has as many of them. -/
structure TextModel (Entity Value : Type) [ObjectIdentity Entity] extends
    ObjectModel Entity Value where
  asString_ofString : ∀ text, asString (ofString text) = some text
  hasContains_ofString : ∀ text, hasContains (ofString text) = true
  contains_ofString : ∀ text part,
    contains (ofString text) (ofString part) = .ok (decide (part.toList <:+: text.toList))
  startsWith_ofString : ∀ text part,
    startsWith text (ofString part) = .ok (decide (part.toList <+: text.toList))
  endsWith_ofString : ∀ text part,
    endsWith text (ofString part) = .ok (decide (part.toList <:+ text.toList))
  lower_count : ∀ text, ∀ wildcard ∈ ['%', '_'],
    (lower text).toList.count wildcard = text.toList.count wildcard
  lower_ascii : ∀ text, Ascii text → lower text = SqlLike.lower text
  holds_text : ∀ text, ∃ obj fieldPath,
    toObjectModel.getFieldValue obj (FilterKey.split fieldPath) = .ok (ofString text)

/-! ## The four operators -/

inductive TextLookup
  | contains
  | startswith
  | endswith
  | icontains
deriving DecidableEq, Repr

namespace TextLookup

def lookup : TextLookup → SqlLookup
  | contains => .contains
  | startswith => .startswith
  | endswith => .endswith
  | icontains => .icontains

def operator : TextLookup → FilterOperator
  | contains => .contains
  | startswith => .startswith
  | endswith => .endswith
  | icontains => .icontains

/-- Where an operator looks for a part of a text. -/
def Places : TextLookup → List Char → List Char → Prop
  | contains, part, text => part <:+: text
  | startswith, part, text => part <+: text
  | endswith, part, text => part <:+ text
  | icontains, part, text => part <:+: text

end TextLookup

def TextLookup.key (lookup : TextLookup) (field : String) : String :=
  field ++ "__" ++ lookup.operator.name

def HoldsInSql (engine : LikeEngine) (lookup : TextLookup) (field value stored : String) : Prop :=
  ∃ condition parameters,
    SqliteStore.buildSqlFilter [(lookup.key field, textValue value)] =
      .ok ([condition], parameters) ∧
      condition.field = field ∧
      engine.compares .varchar condition.comparison (.text stored) parameters = true

section Memory

variable {Entity Value : Type} [ObjectIdentity Entity] (model : TextModel Entity Value)

/-- `_check_operator` holds of an object. -/
def HoldsInMemory (lookup : TextLookup) (obj : Value) (fieldPath value : String) : Prop :=
  model.checkOperator obj fieldPath lookup.operator (model.ofString value) = .ok true

/-- A filter means the same in SQL, of a text that is stored in a field, and in memory, of an object
with the text at the end of a path. -/
def SameMeaning (engine : LikeEngine) (lookup : TextLookup) (value stored : String) : Prop :=
  ∀ field obj fieldPath,
    model.getFieldValue obj (FilterKey.split fieldPath) = .ok (model.ofString stored) →
      (HoldsInSql engine lookup field value stored ↔
        HoldsInMemory model lookup obj fieldPath value)

/-- The value has no wildcards. An operator that regards case is given no letters, and one that does
not is given a text that is found in the same texts when only the ASCII letters are lowered. -/
def Literal (lookup : TextLookup) (value : String) : Prop :=
  (∀ char ∈ value.toList, char ≠ '%' ∧ char ≠ '_') ∧
    match lookup with
    | .icontains => ∀ stored : String,
        (SqlLike.lower value).toList <:+: (SqlLike.lower stored).toList ↔
          (model.lower value).toList <:+: (model.lower stored).toList
    | .contains | .startswith | .endswith => ∀ char ∈ value.toList, char.isAlpha = false

/-- The value stands where the operator looks, in any case if it disregards case. -/
def StandsIn (lookup : TextLookup) (value stored : String) : Prop :=
  match lookup with
  | .icontains => (SqlLike.lower value).toList <:+: (SqlLike.lower stored).toList
  | .contains | .startswith | .endswith => lookup.Places value.toList stored.toList

end Memory

/-! ## Letters -/

namespace SqlLike

theorem toNat_toLower (char : Char) :
    char.toLower.toNat =
      if 65 ≤ char.toNat ∧ char.toNat ≤ 90 then char.toNat + 32 else char.toNat := by
  unfold Char.toLower
  split
  · rename_i upper
    have least : 65 ≤ char.toNat := upper.1
    have greatest : char.toNat ≤ 90 := upper.2
    have small : char.val.toNat ≤ 90 := upper.2
    rw [if_pos ⟨least, greatest⟩]
    change (char.val + 32).toNat = char.val.toNat + 32
    rw [UInt32.toNat_add]
    simp only [UInt32.reduceToNat]
    omega
  · rename_i other
    rw [if_neg]
    exact other

theorem isAlpha_iff (char : Char) :
    char.isAlpha = true ↔
      (65 ≤ char.toNat ∧ char.toNat ≤ 90) ∨ (97 ≤ char.toNat ∧ char.toNat ≤ 122) := by
  have letters : char.isAlpha = (decide (char.val ≥ 'A'.val ∧ char.val ≤ 'Z'.val) ||
      (decide (char.val ≥ 'a'.val) && decide (char.val ≤ 'z'.val))) := rfl
  rw [letters, Bool.or_eq_true, Bool.and_eq_true, decide_eq_true_eq, decide_eq_true_eq,
    decide_eq_true_eq]
  exact Iff.rfl

theorem toLower_toLower (char : Char) : char.toLower.toLower = char.toLower := by
  apply Char.toNat_inj.mp
  rw [toNat_toLower, toNat_toLower]
  split_ifs <;> omega

theorem eq_of_toLower_eq {char other : Char} (noLetter : char.isAlpha = false)
    (same : other.toLower = char.toLower) : other = char := by
  have alpha := isAlpha_iff char
  rw [noLetter] at alpha
  have codes := congrArg Char.toNat same
  rw [toNat_toLower, toNat_toLower] at codes
  apply Char.toNat_inj.mp
  split_ifs at codes <;> simp only [Bool.false_eq_true, false_iff] at alpha <;> omega

/-- A letter in its other case. -/
def flip (char : Char) : Char :=
  if 65 ≤ char.toNat ∧ char.toNat ≤ 90 then Char.ofNat (char.toNat + 32)
  else if 97 ≤ char.toNat ∧ char.toNat ≤ 122 then Char.ofNat (char.toNat - 32)
  else char

theorem toNat_flip (char : Char) :
    (flip char).toNat =
      if 65 ≤ char.toNat ∧ char.toNat ≤ 90 then char.toNat + 32
      else if 97 ≤ char.toNat ∧ char.toNat ≤ 122 then char.toNat - 32 else char.toNat := by
  have valid : ∀ code, code < 128 → (Char.ofNat code).toNat = code := by decide +kernel
  rw [flip]
  split_ifs with upper lower
  · exact valid _ (by omega)
  · exact valid _ (by omega)
  · rfl

theorem toLower_flip (char : Char) : (flip char).toLower = char.toLower := by
  apply Char.toNat_inj.mp
  rw [toNat_toLower, toNat_toLower, toNat_flip]
  split_ifs <;> omega

theorem flip_ne {char : Char} (letter : char.isAlpha = true) : flip char ≠ char := by
  intro same
  have codes := congrArg Char.toNat same
  rw [toNat_flip] at codes
  rcases (isAlpha_iff char).mp letter with upper | lower
  · rw [if_pos upper] at codes
    omega
  · split_ifs at codes <;> omega

theorem toLower_eq_wildcard_iff {char wildcard : Char} (given : wildcard ∈ ['%', '_']) :
    char.toLower = wildcard ↔ char = wildcard := by
  have plain : wildcard.isAlpha = false ∧ wildcard.toLower = wildcard := by
    rcases List.mem_cons.mp given with rfl | given
    · decide
    · obtain rfl := List.mem_singleton.mp given
      decide
  constructor
  · intro lowered
    exact eq_of_toLower_eq plain.1 (lowered.trans plain.2.symm)
  · rintro rfl
    exact plain.2

theorem count_lower (text : String) {wildcard : Char} (given : wildcard ∈ ['%', '_']) :
    (lower text).toList.count wildcard = text.toList.count wildcard := by
  rw [lower, String.toList_ofList]
  unfold List.count
  rw [List.countP_map]
  congr 1
  funext char
  simp [toLower_eq_wildcard_iff given]

/-! ## Patterns -/

theorem item_of_plain {char : Char} (plain : char ≠ '%' ∧ char ≠ '_') :
    item char = .symbol char := by
  rw [item]
  · exact plain.1
  · exact plain.2

theorem item_toLower (char : Char) :
    item char.toLower = (item char).map Char.toLower := by
  by_cases sequence : char = '%'
  · subst sequence
    decide
  · by_cases single : char = '_'
    · subst single
      decide
    · have plain : char.toLower ≠ '%' ∧ char.toLower ≠ '_' := by
        constructor
        · exact fun same => sequence ((toLower_eq_wildcard_iff (by decide)).mp same)
        · exact fun same => single ((toLower_eq_wildcard_iff (by decide)).mp same)
      rw [item_of_plain plain, item_of_plain ⟨sequence, single⟩]
      rfl

theorem accepts_items_lower (pattern : String) (text : List Char) :
    PatternItem.accepts Char.toLower (items (lower pattern)) (text.map Char.toLower) =
      PatternItem.accepts Char.toLower (items pattern) text := by
  have patterns : items (lower pattern) = (items pattern).map (PatternItem.map Char.toLower) := by
    simp only [items, lower, String.toList_ofList, List.map_map]
    congr 1
    funext char
    exact item_toLower char
  rw [patterns]
  exact PatternItem.accepts_map toLower_toLower

theorem like_lower (pattern text : String) :
    like (lower pattern) (lower text) = like pattern text := by
  have same := accepts_items_lower pattern text.toList
  rwa [← String.toList_ofList (l := text.toList.map Char.toLower)] at same

theorem accepts_item {char other : Char} (same : other.toLower = char.toLower) :
    PatternItem.accepts Char.toLower [item char] [other] = true := by
  by_cases sequence : char = '%'
  · subst sequence
    exact PatternItem.accepts_sequence _
  · by_cases single : char = '_'
    · subst single
      rfl
    · rw [item_of_plain ⟨sequence, single⟩]
      simp [PatternItem.accepts, same]

theorem accepts_literal_iff {value : String} {part : List Char}
    (plain : ∀ char ∈ value.toList, char ≠ '%' ∧ char ≠ '_') :
    PatternItem.accepts Char.toLower (items value) part = true ↔
      part.map Char.toLower = value.toList.map Char.toLower := by
  have symbols : items value = value.toList.map .symbol :=
    List.map_congr_left fun char member => item_of_plain (plain char member)
  rw [symbols, PatternItem.accepts_symbols]

theorem accepts_of_map_eq {value : String} {part : List Char}
    (same : part.map Char.toLower = value.toList.map Char.toLower) :
    PatternItem.accepts Char.toLower (items value) part = true := by
  rw [← accepts_items_lower, same, accepts_items_lower]
  have each : PatternItem.accepts Char.toLower (value.toList.map item)
      (value.toList.flatMap fun char => [char]) = true :=
    PatternItem.accepts_flatMap fun char _ => accepts_item rfl
  simpa [items] using each

theorem eq_of_map_toLower_eq {literal part : List Char}
    (noLetters : ∀ char ∈ literal, char.isAlpha = false)
    (same : part.map Char.toLower = literal.map Char.toLower) : part = literal := by
  induction literal generalizing part with
  | nil => simpa using same
  | cons char literal induction =>
      cases part with
      | nil => simp at same
      | cons other part =>
          rw [List.map_cons, List.map_cons, List.cons.injEq] at same
          rw [eq_of_toLower_eq (noLetters char List.mem_cons_self) same.1,
            induction (fun next member => noLetters next (List.mem_cons_of_mem _ member)) same.2]

end SqlLike

/-! ## In SQL -/

namespace SqliteStore

theorem splitReversed_append (operator : List Char) {front : List Char} (plain : '_' ∉ front)
    (field : List Char) :
    splitReversed operator (front ++ '_' :: '_' :: field) =
      some (field.reverse, front.reverse ++ operator) := by
  induction front generalizing operator with
  | nil => rfl
  | cons char front induction =>
      rw [List.mem_cons, not_or] at plain
      have different : char ≠ '_' := fun same => plain.1 same.symm
      have step : splitReversed operator (char :: (front ++ '_' :: '_' :: field)) =
          splitReversed (char :: operator) (front ++ '_' :: '_' :: field) := by
        simp [splitReversed, different]
      rw [List.cons_append, step, induction _ plain.2]
      simp

theorem rsplit_append {operator : String} (plain : '_' ∉ operator.toList) (field : String) :
    rsplit (field ++ "__" ++ operator) = some (field, operator) := by
  have reversed : '_' ∉ operator.toList.reverse := by simpa using plain
  have parts := splitReversed_append [] reversed field.toList.reverse
  have whole : (field ++ "__" ++ operator).toList.reverse =
      operator.toList.reverse ++ '_' :: '_' :: field.toList.reverse := by
    simp
  rw [rsplit, whole, parts]
  simp

end SqliteStore

namespace TextLookup

def comparison : TextLookup → SqlComparison
  | contains | startswith | endswith => .like
  | icontains => .lowerLike

def pattern (value : String) : TextLookup → String
  | contains | icontains => "%" ++ value ++ "%"
  | startswith => value ++ "%"
  | endswith => "%" ++ value

/-- The filter is translated to one condition with one parameter. -/
theorem buildSqlFilter_key (lookup : TextLookup) (field value : String) :
    SqliteStore.buildSqlFilter [(lookup.key field, textValue value)] =
      .ok ([⟨field, lookup.comparison⟩], [.text (lookup.pattern value)]) := by
  have plain : '_' ∉ lookup.operator.name.toList := by
    cases lookup <;> decide
  have known : SqliteStore.lookup? lookup.operator.name = some lookup.lookup := by
    cases lookup <;> rfl
  have split := SqliteStore.rsplit_append plain field
  rw [SqliteStore.buildSqlFilter_eq (List.cons_ne_nil _ _)]
  simp only [List.mapM_cons, List.mapM_nil, SqliteStore.conditionOf, key, split, known]
  cases lookup <;> rfl

theorem Places.isInfix {lookup : TextLookup} {part text : List Char}
    (places : lookup.Places part text) : part <:+: text := by
  cases lookup with
  | contains => exact places
  | startswith => exact List.IsPrefix.isInfix places
  | endswith => exact List.IsSuffix.isInfix places
  | icontains => exact places

theorem places_self (lookup : TextLookup) (text : List Char) : lookup.Places text text := by
  cases lookup with
  | contains => exact List.infix_refl text
  | startswith => exact List.prefix_refl text
  | endswith => exact List.suffix_refl text
  | icontains => exact List.infix_refl text

theorem like_pattern_iff {lookup : TextLookup} {value stored : String} :
    SqlLike.like (lookup.pattern value) stored = true ↔
      ∃ part, lookup.Places part stored.toList ∧
        PatternItem.accepts Char.toLower (SqlLike.items value) part = true := by
  have whole : SqlLike.items ("%" ++ value ++ "%") =
      .sequence :: (SqlLike.items value ++ [.sequence]) := by
    simp [SqlLike.items, SqlLike.item]
  cases lookup with
  | contains =>
      rw [SqlLike.like, pattern, whole]
      exact PatternItem.accepts_infix_iff
  | startswith =>
      have front : SqlLike.items (value ++ "%") = SqlLike.items value ++ [.sequence] := by
        simp [SqlLike.items, SqlLike.item]
      rw [SqlLike.like, pattern, front]
      exact PatternItem.accepts_prefix_iff
  | endswith =>
      have back : SqlLike.items ("%" ++ value) = .sequence :: SqlLike.items value := by
        simp [SqlLike.items, SqlLike.item]
      rw [SqlLike.like, pattern, back]
      exact PatternItem.accepts_sequence_iff
  | icontains =>
      rw [SqlLike.like, pattern, whole]
      exact PatternItem.accepts_infix_iff

end TextLookup

theorem holdsInSql_iff {engine : LikeEngine} {lookup : TextLookup} {field value stored : String} :
    HoldsInSql engine lookup field value stored ↔
      ∃ part, lookup.Places part stored.toList ∧
        PatternItem.accepts Char.toLower (SqlLike.items value) part = true := by
  have compared : engine.compares .varchar lookup.comparison (.text stored)
      [.text (lookup.pattern value)] = SqlLike.like (lookup.pattern value) stored := by
    cases lookup with
    | contains | startswith | endswith => exact engine.compares_like _ _
    | icontains =>
        exact (engine.compares_lowerLike _ _).trans (SqlLike.like_lower _ _)
  rw [← TextLookup.like_pattern_iff, ← compared, HoldsInSql, TextLookup.buildSqlFilter_key]
  constructor
  · rintro ⟨condition, parameters, built, -, holds⟩
    obtain ⟨conditions, rfl⟩ := Prod.mk.inj (Except.ok.inj built)
    obtain rfl := List.singleton_inj.mp conditions
    exact holds
  · intro holds
    exact ⟨_, _, rfl, rfl, holds⟩

/-! ## In memory -/

section Found

variable {Entity Value : Type} [ObjectIdentity Entity] (model : TextModel Entity Value)

/-- The value itself is found in the text, or its lower case in the lower case of the text. -/
def FoundIn (lookup : TextLookup) (value stored : String) : Prop :=
  match lookup with
  | .icontains => (model.lower value).toList <:+: (model.lower stored).toList
  | .contains | .startswith | .endswith => lookup.Places value.toList stored.toList

variable {model}

theorem foundIn_iff_places {lookup : TextLookup} (regards : lookup ≠ .icontains)
    {value stored : String} :
    FoundIn model lookup value stored ↔ lookup.Places value.toList stored.toList := by
  cases lookup with
  | icontains => exact absurd rfl regards
  | contains | startswith | endswith => exact Iff.rfl

theorem holdsInMemory_iff {lookup : TextLookup} {obj : Value} {fieldPath value stored : String}
    (reads : model.getFieldValue obj (FilterKey.split fieldPath) = .ok (model.ofString stored)) :
    HoldsInMemory model lookup obj fieldPath value ↔ FoundIn model lookup value stored := by
  rw [HoldsInMemory, ObjectModel.checkOperator, reads]
  cases lookup <;>
    simp [bind, Except.bind, TextLookup.operator, ObjectModel.applyOperator, FoundIn,
      TextLookup.Places, model.asString_ofString, model.isNone_ofString,
      model.hasContains_ofString, model.contains_ofString, model.startsWith_ofString,
      model.endsWith_ofString]

theorem sameMeaning_iff_found {engine : LikeEngine} {lookup : TextLookup} {value stored : String} :
    SameMeaning model engine lookup value stored ↔
      ((∃ part, lookup.Places part stored.toList ∧
          PatternItem.accepts Char.toLower (SqlLike.items value) part = true) ↔
        FoundIn model lookup value stored) := by
  constructor
  · intro same
    rcases model.holds_text stored with ⟨obj, fieldPath, reads⟩
    have both := same "field" obj fieldPath reads
    rwa [holdsInSql_iff, holdsInMemory_iff reads] at both
  · intro same field obj fieldPath reads
    rwa [holdsInSql_iff, holdsInMemory_iff reads]

/-! ## Values that mean themselves -/

theorem count_le_of_foundIn {lookup : TextLookup} {value stored : String}
    (found : FoundIn model lookup value stored) {wildcard : Char} (given : wildcard ∈ ['%', '_']) :
    value.toList.count wildcard ≤ stored.toList.count wildcard := by
  by_cases disregards : lookup = .icontains
  · subst disregards
    rw [← model.lower_count value wildcard given, ← model.lower_count stored wildcard given]
    exact List.Sublist.count_le wildcard (List.IsInfix.sublist found)
  · have places := (foundIn_iff_places disregards).mp found
    exact places.isInfix.sublist.count_le wildcard

theorem foundIn_of_sameMeaning {engine : LikeEngine} {lookup : TextLookup} {value : String}
    (same : ∀ stored, SameMeaning model engine lookup value stored) (part : Char → List Char)
    (each : ∀ char ∈ value.toList,
      PatternItem.accepts Char.toLower [SqlLike.item char] (part char) = true) :
    FoundIn model lookup value (String.ofList (value.toList.flatMap part)) := by
  apply (sameMeaning_iff_found.mp (same _)).mp
  refine ⟨value.toList.flatMap part, ?_, PatternItem.accepts_flatMap each⟩
  rw [String.toList_ofList]
  exact lookup.places_self _

theorem ne_wildcard_of_sameMeaning {engine : LikeEngine} {lookup : TextLookup} {value : String}
    (same : ∀ stored, SameMeaning model engine lookup value stored) {wildcard : Char}
    (given : wildcard ∈ ['%', '_']) : wildcard ∉ value.toList := by
  intro used
  have filled : ∃ filler, wildcard ∉ filler ∧
      PatternItem.accepts Char.toLower [SqlLike.item wildcard] filler = true := by
    rcases List.mem_cons.mp given with rfl | given
    · exact ⟨[], List.not_mem_nil, by decide⟩
    · obtain rfl := List.mem_singleton.mp given
      exact ⟨['a'], by decide, by decide⟩
  rcases filled with ⟨filler, absent, accepted⟩
  have found := foundIn_of_sameMeaning same
    (fun char => if char = wildcard then filler else [char]) (by
      intro char member
      split_ifs with here
      · exact here ▸ accepted
      · exact SqlLike.accepts_item rfl)
  have counted := count_le_of_foundIn found given
  have without : wildcard ∉ value.toList.flatMap
      fun char => if char = wildcard then filler else [char] := by
    intro member
    rcases List.mem_flatMap.mp member with ⟨char, -, inside⟩
    split_ifs at inside with here
    · exact absent inside
    · exact here (List.mem_singleton.mp inside).symm
  rw [String.toList_ofList, List.count_eq_zero.mpr without] at counted
  have positive := List.count_pos_iff.mpr used
  omega

theorem noLetters_of_sameMeaning {engine : LikeEngine} {lookup : TextLookup} {value : String}
    (regards : lookup ≠ .icontains)
    (same : ∀ stored, SameMeaning model engine lookup value stored) :
    ∀ char ∈ value.toList, char.isAlpha = false := by
  intro char member
  by_contra letter
  have found := foundIn_of_sameMeaning same (fun char => [SqlLike.flip char])
    fun char _ => SqlLike.accepts_item (SqlLike.toLower_flip char)
  have inside : value.toList <:+: value.toList.map SqlLike.flip := by
    have places := ((foundIn_iff_places regards).mp found).isInfix
    rwa [String.toList_ofList, ← List.map_eq_flatMap] at places
  have whole : value.toList.map SqlLike.flip = value.toList.map id := by
    rw [List.map_id]
    exact (inside.eq_of_length (by simp)).symm
  exact SqlLike.flip_ne (by simpa using letter) (List.map_inj_left.mp whole char member)

/-- Without wildcards, values match where they stand in any case. -/
theorem matched_iff_lower {value stored : String}
    (plain : ∀ char ∈ value.toList, char ≠ '%' ∧ char ≠ '_') :
    (∃ part, TextLookup.icontains.Places part stored.toList ∧
        PatternItem.accepts Char.toLower (SqlLike.items value) part = true) ↔
      (SqlLike.lower value).toList <:+: (SqlLike.lower stored).toList := by
  simp only [SqlLike.accepts_literal_iff plain]
  rw [SqlLike.lower, SqlLike.lower, String.toList_ofList, String.toList_ofList,
    List.infix_map_iff]
  constructor
  · rintro ⟨part, inside, same⟩
    exact ⟨part, inside, same.symm⟩
  · rintro ⟨part, inside, same⟩
    exact ⟨part, inside, same.symm⟩

theorem matched_iff_of_literal {lookup : TextLookup} {value stored : String}
    (literal : Literal model lookup value) :
    (∃ part, lookup.Places part stored.toList ∧
        PatternItem.accepts Char.toLower (SqlLike.items value) part = true) ↔
      FoundIn model lookup value stored := by
  rcases literal with ⟨plain, rest⟩
  cases lookup with
  | icontains => exact (matched_iff_lower plain).trans (rest stored)
  | contains | startswith | endswith =>
      simp only [SqlLike.accepts_literal_iff plain]
      constructor
      · rintro ⟨part, places, same⟩
        obtain rfl := SqlLike.eq_of_map_toLower_eq rest same
        exact places
      · intro found
        exact ⟨_, found, rfl⟩

/-- What is found in a text also matches, if lowering is that of ASCII letters. -/
theorem matched_of_standsIn {lookup : TextLookup} {value stored : String}
    (stands : StandsIn lookup value stored) :
    ∃ part, lookup.Places part stored.toList ∧
      PatternItem.accepts Char.toLower (SqlLike.items value) part = true := by
  cases lookup with
  | contains | startswith | endswith =>
      exact ⟨value.toList, stands, SqlLike.accepts_of_map_eq rfl⟩
  | icontains =>
      rw [StandsIn, SqlLike.lower, SqlLike.lower, String.toList_ofList, String.toList_ofList,
        List.infix_map_iff] at stands
      rcases stands with ⟨part, inside, same⟩
      exact ⟨part, inside, SqlLike.accepts_of_map_eq same.symm⟩

theorem foundIn_iff_standsIn {lookup : TextLookup} {value stored : String}
    (ascii : lookup = .icontains → Ascii value ∧ Ascii stored) :
    FoundIn model lookup value stored ↔ StandsIn lookup value stored := by
  cases lookup with
  | contains | startswith | endswith => exact Iff.rfl
  | icontains =>
      rcases ascii rfl with ⟨given, kept⟩
      rw [FoundIn, StandsIn, model.lower_ascii value given, model.lower_ascii stored kept]

/-- A filter means the same for every stored text exactly if its value is literal. For one text, of
ASCII if case is disregarded, it means the same exactly if the value itself stands in the text
whenever a part does that it matches. -/
theorem sameMeaning_iff (model : TextModel Entity Value) (engine : LikeEngine)
    (lookup : TextLookup) (value : String) :
    ((∀ stored, SameMeaning model engine lookup value stored) ↔ Literal model lookup value) ∧
      ∀ stored : String, (lookup = .icontains → Ascii value ∧ Ascii stored) →
        (SameMeaning model engine lookup value stored ↔
          ∀ part, lookup.Places part stored.toList →
            PatternItem.accepts Char.toLower (SqlLike.items value) part = true →
              StandsIn lookup value stored) := by
  refine ⟨⟨?_, ?_⟩, ?_⟩
  · intro same
    have plain : ∀ char ∈ value.toList, char ≠ '%' ∧ char ≠ '_' := by
      intro char member
      constructor
      · rintro rfl
        exact ne_wildcard_of_sameMeaning same (by decide) member
      · rintro rfl
        exact ne_wildcard_of_sameMeaning same (by decide) member
    refine ⟨plain, ?_⟩
    cases lookup with
    | contains | startswith | endswith =>
        exact noLetters_of_sameMeaning (by decide) same
    | icontains =>
        intro stored
        exact (matched_iff_lower plain).symm.trans (sameMeaning_iff_found.mp (same stored))
  · intro literal stored
    exact sameMeaning_iff_found.mpr (matched_iff_of_literal literal)
  · intro stored ascii
    rw [sameMeaning_iff_found, foundIn_iff_standsIn ascii]
    constructor
    · intro same part places accepted
      exact same.mp ⟨part, places, accepted⟩
    · intro whole
      constructor
      · rintro ⟨part, places, accepted⟩
        exact whole part places accepted
      · exact matched_of_standsIn

end Found

/-- A database that knows equality and patterns. -/
def likeLookup : LikeEngine where
  toSqliteEngine := plainSqlite
  compares := fun type comparison stored given =>
    match comparison, stored, given with
    | .equal, stored, [value] => plainSqlite.equals type stored value
    | .like, .text stored, [.text pattern] => SqlLike.like pattern stored
    | .lowerLike, .text stored, [.text pattern] =>
        SqlLike.like (SqlLike.lower pattern) (SqlLike.lower stored)
    | _, _, _ => false
  compares_equal := fun _ _ _ => rfl
  compares_like := fun _ _ => rfl
  compares_lowerLike := fun _ _ => rfl

def taggedTexts : TextModel TaggedResult TaggedValue where
  toObjectModel := taggedModel
  asString_ofString := fun _ => rfl
  hasContains_ofString := fun _ => rfl
  contains_ofString := fun _ _ => rfl
  startsWith_ofString := fun _ _ => rfl
  endsWith_ofString := fun _ _ => rfl
  lower_count := fun text _ given => SqlLike.count_lower text given
  lower_ascii := fun _ _ => rfl
  holds_text := fun text => ⟨.content text [], "name", rfl⟩

/-- Patterns match in either case, and wildcards match anything. -/
theorem not_sameMeaning_wildcard :
    ¬ SameMeaning taggedTexts likeLookup .contains "ADA" "ada" ∧
      ¬ SameMeaning taggedTexts likeLookup .icontains "a_a" "ada" := by
  constructor
  · intro same
    have found : "ADA".toList <:+: "ada".toList := (sameMeaning_iff_found.mp same).mp
      ⟨"ada".toList, List.infix_refl _, by decide⟩
    exact absurd found (by decide)
  · intro same
    have found : "a_a".toList <:+: "ada".toList := (sameMeaning_iff_found.mp same).mp
      ⟨"ada".toList, List.infix_refl _, by decide⟩
    exact absurd found (by decide)

end EventPipeline
