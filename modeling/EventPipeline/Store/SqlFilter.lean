import EventPipeline.Store.SqlReadBack
import Mathlib.Algebra.GroupWithZero.Nat
import Mathlib.Algebra.Order.BigOperators.Group.List
import Mathlib.Algebra.Order.Group.Nat

/-! # Filters of Sqlite records

A filter names a field, or a field and an operator behind a doubled underscore. The conditions of
a mapping of filters and their parameters are collected in two lists; an operator that is not known
is skipped. The fields are taken to be names that may stand in a statement.
-/

namespace EventPipeline

/-! ## Conditions -/

/-- How a condition compares, with the number of values in a list. -/
inductive SqlComparison
  | equal
  | like
  | lowerLike
  | greater
  | greaterEqual
  | less
  | lessEqual
  | isIn (count : Nat)
  | isNull
  | isNotNull
deriving DecidableEq, Repr

structure SqlCondition where
  field : String
  comparison : SqlComparison
deriving DecidableEq, Repr

/-- The number of parameters that a comparison takes. -/
def SqlComparison.arity : SqlComparison → Nat
  | .equal | .like | .lowerLike | .greater | .greaterEqual | .less | .lessEqual => 1
  | .isIn count => count
  | .isNull | .isNotNull => 0

def SqlCondition.text (condition : SqlCondition) : String :=
  match condition.comparison with
  | .equal => condition.field ++ " = ?"
  | .like => condition.field ++ " LIKE ?"
  | .lowerLike => "LOWER(" ++ condition.field ++ ") LIKE LOWER(?)"
  | .greater => condition.field ++ " > ?"
  | .greaterEqual => condition.field ++ " >= ?"
  | .less => condition.field ++ " < ?"
  | .lessEqual => condition.field ++ " <= ?"
  | .isIn count =>
      condition.field ++ " IN (" ++ ",".intercalate (List.replicate count "?") ++ ")"
  | .isNull => condition.field ++ " IS NULL"
  | .isNotNull => condition.field ++ " IS NOT NULL"

/-- `" AND ".join(conditions) if conditions else "1"` -/
def clauseText (conditions : List SqlCondition) : String :=
  if conditions = [] then "1" else " AND ".intercalate (conditions.map SqlCondition.text)

def placeholders (text : String) : Nat :=
  text.toList.count '?'

/-! ## Filters -/

/-- A value of a filter, by what is done with it: it is a parameter, or it is formatted, tested,
or iterated, first for the placeholders and then for the parameters. -/
structure FilterValue where
  value : SqlValue
  format : Except SqlStoreError String
  truth : Except SqlStoreError Bool
  counted : Except SqlStoreError Nat
  items : Except SqlStoreError (List SqlValue)

inductive SqlLookup
  | contains
  | startswith
  | endswith
  | icontains
  | gt
  | gte
  | lt
  | lte
  | isIn
  | isnull
  | exact
deriving DecidableEq, Repr

namespace SqliteStore

def lookup? : String → Option SqlLookup
  | "contains" => some .contains
  | "startswith" => some .startswith
  | "endswith" => some .endswith
  | "icontains" => some .icontains
  | "gt" => some .gt
  | "gte" => some .gte
  | "lt" => some .lt
  | "lte" => some .lte
  | "in" => some .isIn
  | "isnull" => some .isnull
  | "exact" => some .exact
  | _ => none

/-- Split a reversed text at its first doubled underscore. -/
def splitReversed (operator : List Char) : List Char → Option (List Char × List Char)
  | '_' :: '_' :: field => some (field.reverse, operator)
  | char :: rest => splitReversed (char :: operator) rest
  | [] => none

/-- `key.rsplit("__", 1)`, or `none` if the mark is not in the key. -/
def rsplit (key : String) : Option (String × String) :=
  (splitReversed [] key.toList.reverse).map fun parts =>
    (String.ofList parts.1, String.ofList parts.2)

/-- The condition of an operator, and its parameters. -/
def condition (field : String) (value : FilterValue) :
    SqlLookup → Except SqlStoreError (SqlCondition × List SqlValue)
  | .contains => do return (⟨field, .like⟩, [.text ("%" ++ (← value.format) ++ "%")])
  | .startswith => do return (⟨field, .like⟩, [.text ((← value.format) ++ "%")])
  | .endswith => do return (⟨field, .like⟩, [.text ("%" ++ (← value.format))])
  | .icontains => do return (⟨field, .lowerLike⟩, [.text ("%" ++ (← value.format) ++ "%")])
  | .gt => return (⟨field, .greater⟩, [value.value])
  | .gte => return (⟨field, .greaterEqual⟩, [value.value])
  | .lt => return (⟨field, .less⟩, [value.value])
  | .lte => return (⟨field, .lessEqual⟩, [value.value])
  | .isIn => do return (⟨field, .isIn (← value.counted)⟩, ← value.items)
  | .isnull => do return (⟨field, if ← value.truth then .isNull else .isNotNull⟩, [])
  | .exact => return (⟨field, .equal⟩, [value.value])

/-- What a filter appends to the two lists, which is nothing for an unknown operator. -/
def conditionOf (filter : String × FilterValue) :
    Except SqlStoreError (Option (SqlCondition × List SqlValue)) :=
  match rsplit filter.1 with
  | some (field, operator) =>
      match lookup? operator with
      | some lookup => (condition field filter.2 lookup).map some
      | none => return none
  | none => return some (⟨filter.1, .equal⟩, [filter.2.value])

/-- The variables of the loop over the filters. The clause is unbound before its first round. -/
structure FilterLoop where
  conditions : List SqlCondition := []
  parameters : List SqlValue := []
  whereClause : Option (List SqlCondition) := none

def FilterLoop.add (collected : FilterLoop) (filter : String × FilterValue) :
    Except SqlStoreError FilterLoop := do
  let added ← conditionOf filter
  let conditions := collected.conditions ++ added.toList.map Prod.fst
  let parameters := collected.parameters ++ added.toList.flatMap Prod.snd
  return ⟨conditions, parameters, some conditions⟩

/-- `_build_sql_filter`; the clause is given by its conditions, and `clauseText` is its text. -/
def buildSqlFilter (filters : List (String × FilterValue)) :
    Except SqlStoreError (List SqlCondition × List SqlValue) := do
  let collected ← filters.foldlM FilterLoop.add {}
  match collected.whereClause with
  | none =>
      throw (.unboundLocalError
        "cannot access local variable 'where_clause' where it is not associated with a value")
  | some whereClause => return (whereClause, collected.parameters)

/-- The parameters for each condition in turn, if they are as many as the conditions take. -/
def bindConditions :
    List SqlCondition → List SqlValue → Option (List (SqlCondition × List SqlValue))
  | [], [] => some []
  | [], _ :: _ => none
  | condition :: rest, parameters =>
      if condition.comparison.arity ≤ parameters.length then
        (bindConditions rest (parameters.drop condition.comparison.arity)).map fun bound =>
          (condition, parameters.take condition.comparison.arity) :: bound
      else none

end SqliteStore

/-- Sqlite with its comparisons. -/
structure LookupEngine extends SqliteEngine where
  compares : SqlType → SqlComparison → SqlValue → List SqlValue → Bool
  compares_equal : ∀ type stored given,
    compares type .equal stored [given] = equals type stored given

def LookupEngine.meets (engine : LookupEngine) (table : SqlTable SqlType SqlValue)
    (row : List SqlValue) (condition : SqlCondition × List SqlValue) : Bool :=
  match table.cell? row condition.1.field with
  | none => false
  | some (column, value) =>
      engine.compares column.type condition.1.comparison value condition.2

/-! ## Values that cannot be read -/

/-- What reading a value raises under an operator. -/
def FilterValue.raisedBy (value : FilterValue) : SqlLookup → Option SqlStoreError
  | .contains | .startswith | .endswith | .icontains => exceptionOf value.format
  | .gt | .gte | .lt | .lte | .exact => none
  | .isIn => (exceptionOf value.counted).or (exceptionOf value.items)
  | .isnull => exceptionOf value.truth

def raisedByFilter (filter : String × FilterValue) : Option SqlStoreError :=
  match SqliteStore.rsplit filter.1 with
  | some (_, operator) => (SqliteStore.lookup? operator).bind filter.2.raisedBy
  | none => none

theorem exceptionOf_conditionOf (filter : String × FilterValue) :
    exceptionOf (SqliteStore.conditionOf filter) = raisedByFilter filter := by
  cases split : SqliteStore.rsplit filter.1 with
  | none =>
      simp only [SqliteStore.conditionOf, raisedByFilter, split]
      rfl
  | some parts =>
      simp only [SqliteStore.conditionOf, raisedByFilter, split]
      cases SqliteStore.lookup? parts.2 with
      | none => rfl
      | some lookup =>
          simp only [Option.bind_some]
          cases lookup with
          | gt | gte | lt | lte | exact => rfl
          | contains | startswith | endswith | icontains =>
              simp only [SqliteStore.condition, FilterValue.raisedBy]
              cases filter.2.format <;> rfl
          | isnull =>
              simp only [SqliteStore.condition, FilterValue.raisedBy]
              cases filter.2.truth <;> rfl
          | isIn =>
              simp only [SqliteStore.condition, FilterValue.raisedBy]
              cases filter.2.counted with
              | error error => rfl
              | ok count => cases filter.2.items <;> rfl

namespace SqliteStore

section Rows

variable {Record State : Type} (pickle : StatePickle State) (klass : SqlRecordClass Record State)
  (engine : LookupEngine)

/-- The rows that the query of `filter_record` returns. -/
def selectFiltered (database : StoreDatabase) (schemaName : String)
    (filters : List (String × FilterValue)) : Except SqlStoreError (List (List SqlValue)) := do
  if !checkIfSchemaExists database schemaName then
    throw (.objectDoesNotExist ("Schema '" ++ schemaName ++ "' does not exist"))
  let (conditions, parameters) ← buildSqlFilter filters
  let table ← orSqlOperationError "Error filtering records"
    (database.named schemaName (conditions.map SqlCondition.field))
  match bindConditions conditions parameters with
  | none => throw (.sqlOperationError "Error filtering records" .incorrectBindings)
  | some bound =>
      parameters.forM bindParameter
      return table.rows.filter fun row => bound.all (engine.meets table row)

/-- `filter_record`, with operators. -/
def filterRecordBy (database : StoreDatabase) (schemaName : String)
    (filters : List (String × FilterValue)) : Except SqlStoreError (List Record) := do
  let rows ← selectFiltered engine database schemaName filters
  rows.mapM fun _ => loadRecord pickle klass (.object "tuple")

end Rows

/-! ## Every condition reaches the query -/

/-- The condition that a filter stands for: its operator is known, its value can be read, and it
has as many placeholders as parameters. -/
def translation (filter : String × FilterValue) : Option (SqlCondition × List SqlValue) :=
  match conditionOf filter with
  | .ok (some (condition, parameters)) =>
      if placeholders condition.text = parameters.length then some (condition, parameters)
      else none
  | .ok none | .error _ => none

/-- The clause is the conjunction of one condition for each filter, with the parameters in their
order; a filter that stands for no condition raises, and no row that a filter excludes is
returned. -/
structure ReachesSql (engine : LookupEngine) (filters : List (String × FilterValue)) : Prop where
  complete : (∀ filter ∈ filters, (translation filter).isSome = true) →
    buildSqlFilter filters = .ok ((filters.filterMap translation).map Prod.fst,
      (filters.filterMap translation).flatMap Prod.snd)
  refused : (∃ filter ∈ filters, translation filter = none) →
    ∃ error, buildSqlFilter filters = .error error
  bound : ∀ conditions parameters, buildSqlFilter filters = .ok (conditions, parameters) →
    placeholders (clauseText conditions) = parameters.length
  rows : ∀ database schemaName rows,
    selectFiltered engine database schemaName filters = .ok rows →
      ∃ table, SqlDatabase.table? database schemaName = .ok table ∧
        ∀ row ∈ rows, ∀ filter ∈ filters, ∃ condition, translation filter = some condition ∧
          engine.meets table row condition = true

/-- The value of the filter raises when it is read. -/
def RaisesWhenRead (filter : String × FilterValue) : Prop :=
  (raisedByFilter filter).isSome = true

/-- The filter has a known operator, and its field is written without a question mark; what is
iterated twice has the same number of items each time. -/
def Translatable (filter : String × FilterValue) : Prop :=
  match rsplit filter.1 with
  | none => placeholders filter.1 = 0
  | some (field, operator) => ∃ lookup, lookup? operator = some lookup ∧
      if lookup = .isIn then
        ∃ count items, filter.2.counted = .ok count ∧ filter.2.items = .ok items ∧
          placeholders field + count = items.length
      else placeholders field = 0 ∧ ¬ RaisesWhenRead filter

/-! ## Placeholders of texts -/

@[simp]
theorem placeholders_append (first second : String) :
    placeholders (first ++ second) = placeholders first + placeholders second := by
  simp [placeholders]

theorem placeholders_intercalate {separator : String} (plain : placeholders separator = 0)
    (texts : List String) :
    placeholders (separator.intercalate texts) = (texts.map placeholders).sum := by
  induction texts with
  | nil => rfl
  | cons text rest induction =>
      cases rest with
      | nil => simp
      | cons next others =>
          rw [String.intercalate_cons_cons, placeholders_append, placeholders_append, plain,
            induction]
          simp

theorem placeholders_replicate (count : Nat) :
    placeholders (",".intercalate (List.replicate count "?")) = count := by
  have comma : placeholders "," = 0 := by decide
  have mark : placeholders "?" = 1 := by decide
  rw [placeholders_intercalate comma, List.map_replicate, mark]
  simp

theorem placeholders_text (condition : SqlCondition) :
    placeholders condition.text = placeholders condition.field + condition.comparison.arity := by
  cases condition with
  | mk field comparison =>
      cases comparison with
      | isIn count =>
          have opening : placeholders " IN (" = 0 := by decide
          have closing : placeholders ")" = 0 := by decide
          simp [SqlCondition.text, SqlComparison.arity, placeholders_replicate, opening, closing]
      | lowerLike =>
          have opening : placeholders "LOWER(" = 0 := by decide
          have closing : placeholders ") LIKE LOWER(?)" = 1 := by decide
          simp [SqlCondition.text, SqlComparison.arity, opening, closing]
      | equal | like | greater | greaterEqual | less | lessEqual =>
          simp only [SqlCondition.text, SqlComparison.arity, placeholders_append]
          rfl
      | isNull | isNotNull =>
          simp only [SqlCondition.text, SqlComparison.arity, placeholders_append]
          rfl

theorem placeholders_clauseText (conditions : List SqlCondition) :
    placeholders (clauseText conditions) =
      (conditions.map fun condition => placeholders condition.text).sum := by
  have plain : placeholders " AND " = 0 := by decide
  rw [clauseText]
  split
  · rename_i empty
    rw [empty]
    rfl
  · rw [placeholders_intercalate plain, List.map_map]
    rfl

/-! ## The loop over the filters -/

/-- The loop after it has appended what some filters stand for. -/
def FilterLoop.extend (collected : FilterLoop)
    (added : List (Option (SqlCondition × List SqlValue))) : FilterLoop where
  conditions := collected.conditions ++ (added.flatMap Option.toList).map Prod.fst
  parameters := collected.parameters ++ (added.flatMap Option.toList).flatMap Prod.snd
  whereClause :=
    if added = [] then collected.whereClause
    else some (collected.conditions ++ (added.flatMap Option.toList).map Prod.fst)

/-- What the filters append to the two lists, or what the first one that raises raises. -/
theorem foldlM_add (collected : FilterLoop) (filters : List (String × FilterValue)) :
    filters.foldlM FilterLoop.add collected =
      (filters.mapM conditionOf).map collected.extend := by
  apply foldlM_eq_mapM
  · intro collected
    simp [FilterLoop.extend]
  · intro collected filter
    rw [FilterLoop.add]
    cases conditionOf filter with
    | error error => rfl
    | ok added => simp [bind, Except.bind, pure, Except.pure, Except.map, FilterLoop.extend]
  · intro collected result results
    cases results with
    | nil => simp [FilterLoop.extend]
    | cons next more => simp [FilterLoop.extend, List.append_assoc]

theorem buildSqlFilter_eq {filters : List (String × FilterValue)} (given : filters ≠ []) :
    buildSqlFilter filters = (filters.mapM conditionOf).map fun added =>
      ((added.flatMap Option.toList).map Prod.fst,
        (added.flatMap Option.toList).flatMap Prod.snd) := by
  rcases List.exists_cons_of_ne_nil given with ⟨filter, rest, rfl⟩
  rw [buildSqlFilter, foldlM_add]
  cases traversed : (filter :: rest).mapM conditionOf with
  | error error => rfl
  | ok added =>
      obtain ⟨first, others, -, -, rfl⟩ := mapM_cons_eq_ok traversed
      simp [Except.map, bind, Except.bind, pure, Except.pure, FilterLoop.extend]

theorem buildSqlFilter_nil : ∃ error, buildSqlFilter [] = .error error :=
  ⟨_, rfl⟩

theorem raisesWhenRead_iff {filter : String × FilterValue} :
    RaisesWhenRead filter ↔ ∃ error, conditionOf filter = .error error := by
  rw [RaisesWhenRead, ← exceptionOf_conditionOf, Option.isSome_iff_exists]
  simp only [eq_error_iff_exceptionOf]

theorem buildSqlFilter_of_raises {filters : List (String × FilterValue)}
    {filter : String × FilterValue} (listed : filter ∈ filters) (raises : RaisesWhenRead filter) :
    ∃ error, buildSqlFilter filters = .error error := by
  rw [buildSqlFilter_eq (List.ne_nil_of_mem listed)]
  cases traversed : filters.mapM conditionOf with
  | error error => exact ⟨error, rfl⟩
  | ok added =>
      rcases raisesWhenRead_iff.mp raises with ⟨error, raised⟩
      rcases mapM_ok_iff.mp ⟨added, traversed⟩ filter listed with ⟨appended, returned⟩
      cases raised.symm.trans returned

theorem buildSqlFilter_of_not_raises {filters : List (String × FilterValue)}
    (given : filters ≠ []) (quiet : ∀ filter ∈ filters, ¬ RaisesWhenRead filter) :
    ∃ built, buildSqlFilter filters = .ok built := by
  have returned : ∀ filter ∈ filters, ∃ added, conditionOf filter = .ok added := by
    intro filter listed
    cases appended : conditionOf filter with
    | error error => exact absurd (raisesWhenRead_iff.mpr ⟨error, appended⟩) (quiet filter listed)
    | ok added => exact ⟨added, rfl⟩
  rcases mapM_ok_iff.mpr returned with ⟨added, traversed⟩
  rw [buildSqlFilter_eq given, traversed]
  exact ⟨_, rfl⟩

/-! ## Translations -/

theorem conditionOf_of_translation {filter : String × FilterValue}
    {condition : SqlCondition × List SqlValue} (translated : translation filter = some condition) :
    conditionOf filter = .ok (some condition) ∧
      placeholders condition.1.text = condition.2.length := by
  rw [translation] at translated
  split at translated
  · rename_i found parameters appended
    split at translated
    · rename_i same
      obtain rfl := Option.some.inj translated
      exact ⟨appended, same⟩
    · cases translated
  · cases translated
  · cases translated

theorem buildSqlFilter_of_translated {filters : List (String × FilterValue)}
    (given : filters ≠ [])
    (translated : ∀ filter ∈ filters, (translation filter).isSome = true) :
    buildSqlFilter filters = .ok ((filters.filterMap translation).map Prod.fst,
      (filters.filterMap translation).flatMap Prod.snd) := by
  have each : ∀ filter ∈ filters, conditionOf filter = .ok (translation filter) := by
    intro filter listed
    rcases Option.isSome_iff_exists.mp (translated filter listed) with ⟨condition, found⟩
    rw [found]
    exact (conditionOf_of_translation found).1
  have appended : (filters.map translation).flatMap Option.toList =
      filters.filterMap translation := by
    rw [List.filterMap_eq_flatMap_toList, List.flatMap_map]
  rw [buildSqlFilter_eq given, mapM_eq_ok each, Except.map, appended]

/-! ## Bound parameters -/

theorem length_of_bindConditions {conditions : List SqlCondition} {parameters : List SqlValue}
    {bound : List (SqlCondition × List SqlValue)}
    (binds : bindConditions conditions parameters = some bound) :
    parameters.length = (conditions.map fun condition => condition.comparison.arity).sum := by
  induction conditions generalizing parameters bound with
  | nil =>
      cases parameters with
      | nil => rfl
      | cons first rest => cases binds
  | cons condition rest induction =>
      rw [bindConditions] at binds
      split at binds
      · rename_i enough
        rcases Option.map_eq_some_iff.mp binds with ⟨others, following, -⟩
        have counted := induction following
        rw [List.length_drop] at counted
        rw [List.map_cons, List.sum_cons, ← counted]
        omega
      · cases binds

theorem bindConditions_eq {conditions bound : List (SqlCondition × List SqlValue)}
    (enough : ∀ condition ∈ conditions, condition.1.comparison.arity ≤ condition.2.length)
    (binds : bindConditions (conditions.map Prod.fst) (conditions.flatMap Prod.snd) = some bound) :
    bound = conditions := by
  induction conditions generalizing bound with
  | nil => exact (Option.some.inj binds).symm
  | cons condition rest induction =>
      rcases List.forall_mem_cons.mp enough with ⟨first, others⟩
      rw [List.map_cons, List.flatMap_cons, bindConditions] at binds
      split at binds
      · rcases Option.map_eq_some_iff.mp binds with ⟨following, bindsRest, rfl⟩
        have arities : ((rest.map Prod.fst).map fun condition => condition.comparison.arity).sum ≤
            (rest.flatMap Prod.snd).length := by
          rw [List.length_flatMap, List.map_map]
          exact List.sum_le_sum fun condition listed => others condition listed
        -- The parameters that are left suffice only if this condition takes all of its own.
        have exact : condition.1.comparison.arity = condition.2.length := by
          have counted := length_of_bindConditions bindsRest
          rw [List.length_drop, List.length_append] at counted
          omega
        rw [exact, List.drop_left] at bindsRest
        rw [exact, List.take_left, induction others bindsRest]
      · cases binds

/-! ## Rows -/

section Selection

variable {engine : LookupEngine} {database : StoreDatabase} {schemaName : String}
  {filters : List (String × FilterValue)} {rows : List (List SqlValue)}

theorem selectFiltered_eq_ok
    (selected : selectFiltered engine database schemaName filters = .ok rows) :
    ∃ conditions parameters table bound,
      buildSqlFilter filters = .ok (conditions, parameters) ∧
        SqlDatabase.table? database schemaName = .ok table ∧
        bindConditions conditions parameters = some bound ∧
        rows = table.rows.filter fun row => bound.all (engine.meets table row) := by
  rw [selectFiltered] at selected
  by_cases known : checkIfSchemaExists database schemaName = true
  · simp only [known, Bool.not_true, Bool.false_eq_true, if_false, bind, Except.bind, pure,
      Except.pure] at selected
    cases built : buildSqlFilter filters with
    | error error =>
        rw [built] at selected
        cases selected
    | ok pair =>
        simp only [built] at selected
        cases found : database.named schemaName (pair.1.map SqlCondition.field) with
        | error error =>
            rw [found] at selected
            cases selected
        | ok table =>
            simp only [found, orSqlOperationError] at selected
            cases binds : bindConditions pair.1 pair.2 with
            | none =>
                rw [binds] at selected
                cases selected
            | some bound =>
                simp only [binds] at selected
                split at selected
                · cases selected
                · exact ⟨pair.1, pair.2, table, bound, rfl, SqlDatabase.table?_of_named found,
                    binds, (Except.ok.inj selected).symm⟩
  · simp only [known, Bool.not_false, if_true, throw, throwThe, MonadExceptOf.throw, bind,
      Except.bind] at selected
    cases selected

theorem rows_of_selectFiltered
    (selected : selectFiltered engine database schemaName filters = .ok rows)
    (translated : ∀ filter ∈ filters, (translation filter).isSome = true) :
    ∃ table, SqlDatabase.table? database schemaName = .ok table ∧
      ∀ row ∈ rows, ∀ filter ∈ filters, ∃ condition, translation filter = some condition ∧
        engine.meets table row condition = true := by
  rcases selectFiltered_eq_ok selected with
    ⟨conditions, parameters, table, bound, built, found, binds, rfl⟩
  refine ⟨table, found, ?_⟩
  intro row listed filter member
  rcases Option.isSome_iff_exists.mp (translated filter member) with ⟨condition, found⟩
  have complete := buildSqlFilter_of_translated (List.ne_nil_of_mem member) translated
  obtain ⟨rfl, rfl⟩ := Prod.mk.inj (Except.ok.inj (built.symm.trans complete))
  have enough : ∀ other ∈ filters.filterMap translation,
      other.1.comparison.arity ≤ other.2.length := by
    intro other given
    rcases List.mem_filterMap.mp given with ⟨source, -, stands⟩
    rw [← (conditionOf_of_translation stands).2, placeholders_text]
    exact Nat.le_add_left _ _
  obtain rfl := bindConditions_eq enough binds
  have holds := List.all_eq_true.mp (List.mem_filter.mp listed).2
  exact ⟨condition, found, holds condition (List.mem_filterMap.mpr ⟨filter, member, found⟩)⟩

end Selection

/-! ## When every condition reaches the query -/

/-- Every operator but `in` gives a condition that takes as many parameters as it has. -/
theorem arity_of_condition {field : String} {value : FilterValue} {lookup : SqlLookup}
    (single : lookup ≠ .isIn) {found : SqlCondition} {parameters : List SqlValue}
    (given : condition field value lookup = .ok (found, parameters)) :
    found.field = field ∧ found.comparison.arity = parameters.length := by
  cases lookup with
  | isIn => exact absurd rfl single
  | contains | startswith | endswith | icontains =>
      rw [condition] at given
      cases formatted : value.format with
      | error error =>
          rw [formatted] at given
          cases given
      | ok text =>
          rw [formatted] at given
          obtain ⟨rfl, rfl⟩ := Prod.mk.inj (Except.ok.inj given)
          exact ⟨rfl, rfl⟩
  | isnull =>
      rw [condition] at given
      cases tested : value.truth with
      | error error =>
          rw [tested] at given
          cases given
      | ok truth =>
          rw [tested] at given
          obtain ⟨rfl, rfl⟩ := Prod.mk.inj (Except.ok.inj given)
          cases truth <;> exact ⟨rfl, rfl⟩
  | gt | gte | lt | lte | exact =>
      obtain ⟨rfl, rfl⟩ := Prod.mk.inj (Except.ok.inj given)
      exact ⟨rfl, rfl⟩

theorem condition_isIn_eq_ok_iff {field : String} {value : FilterValue} {found : SqlCondition}
    {parameters : List SqlValue} :
    condition field value .isIn = .ok (found, parameters) ↔
      ∃ count, value.counted = .ok count ∧ value.items = .ok parameters ∧
        found = ⟨field, .isIn count⟩ := by
  rw [condition]
  cases value.counted with
  | error error => simp [bind, Except.bind]
  | ok count =>
      cases value.items with
      | error error => simp [bind, Except.bind]
      | ok items =>
          simp only [bind, Except.bind, pure, Except.pure, Except.ok.injEq, Prod.mk.injEq]
          constructor
          · rintro ⟨rfl, rfl⟩
            exact ⟨count, rfl, rfl, rfl⟩
          · rintro ⟨other, rfl, rfl, rfl⟩
            exact ⟨rfl, rfl⟩

theorem isSome_translation_of_ok {filter : String × FilterValue} {found : SqlCondition}
    {parameters : List SqlValue} (given : conditionOf filter = .ok (some (found, parameters))) :
    (translation filter).isSome = true ↔
      placeholders found.field + found.comparison.arity = parameters.length := by
  rw [translation, given, ← placeholders_text]
  by_cases same : placeholders found.text = parameters.length
  · simp [same]
  · simp [same]

/-- A filter stands for a condition exactly if it can be translated. -/
theorem isSome_translation_iff (filter : String × FilterValue) :
    (translation filter).isSome = true ↔ Translatable filter := by
  rw [Translatable]
  cases split : rsplit filter.1 with
  | none =>
      have given : conditionOf filter = .ok (some (⟨filter.1, .equal⟩, [filter.2.value])) := by
        rw [conditionOf, split]
        rfl
      rw [isSome_translation_of_ok given]
      simp [SqlComparison.arity]
  | some parts =>
      cases known : lookup? parts.2 with
      | none =>
          have given : conditionOf filter = .ok none := by
            simp only [conditionOf, split, known]
            rfl
          simp [translation, given, known]
      | some lookup =>
          have given : conditionOf filter = (condition parts.1 filter.2 lookup).map some := by
            simp only [conditionOf, split, known]
          simp only [known, Option.some.injEq, exists_eq_left']
          rcases read : condition parts.1 filter.2 lookup with error | ⟨found, parameters⟩
          · rw [read] at given
            have untranslated : translation filter = none := by
              rw [translation, given]
              rfl
            have raises : RaisesWhenRead filter := raisesWhenRead_iff.mpr ⟨error, given⟩
            rw [untranslated]
            split_ifs with iterates
            · subst iterates
              simp only [Option.isSome_none, Bool.false_eq_true, false_iff]
              rintro ⟨count, items, counted, iterated, -⟩
              have also : condition parts.1 filter.2 .isIn =
                  .ok (⟨parts.1, .isIn count⟩, items) :=
                condition_isIn_eq_ok_iff.mpr ⟨count, counted, iterated, rfl⟩
              cases read.symm.trans also
            · simp [raises]
          · rw [read] at given
            rw [isSome_translation_of_ok given]
            split_ifs with iterates
            · subst iterates
              rcases condition_isIn_eq_ok_iff.mp read with ⟨count, counted, iterated, rfl⟩
              simp [counted, iterated, SqlComparison.arity]
            · have quiet : ¬ RaisesWhenRead filter := by
                intro raises
                rcases raisesWhenRead_iff.mp raises with ⟨error, raised⟩
                cases raised.symm.trans given
              rcases arity_of_condition iterates read with ⟨same, arity⟩
              simp [same, arity, quiet]

/-- Every condition reaches the query exactly if there is a filter, and one of them raises or all
can be translated. -/
theorem reachesSql_iff (engine : LookupEngine) (filters : List (String × FilterValue)) :
    ReachesSql engine filters ↔
      filters ≠ [] ∧ ((∃ filter ∈ filters, RaisesWhenRead filter) ∨
        ∀ filter ∈ filters, Translatable filter) := by
  simp only [← isSome_translation_iff]
  constructor
  · intro reaches
    have given : filters ≠ [] := by
      rintro rfl
      have built := reaches.complete fun _ listed => absurd listed List.not_mem_nil
      rcases buildSqlFilter_nil with ⟨error, raised⟩
      cases raised.symm.trans built
    refine ⟨given, ?_⟩
    by_contra neither
    rw [not_or] at neither
    have quiet : ∀ filter ∈ filters, ¬ RaisesWhenRead filter :=
      fun filter listed raises => neither.1 ⟨filter, listed, raises⟩
    rcases buildSqlFilter_of_not_raises given quiet with ⟨built, returned⟩
    have untranslated : ∃ filter ∈ filters, translation filter = none := by
      simpa using neither.2
    rcases reaches.refused untranslated with ⟨error, raised⟩
    cases raised.symm.trans returned
  · rintro ⟨given, ⟨filter, listed, raises⟩ | translated⟩
    · rcases buildSqlFilter_of_raises listed raises with ⟨error, raised⟩
      have untranslated : translation filter = none := by
        rcases raisesWhenRead_iff.mp raises with ⟨error, raised⟩
        rw [translation, raised]
      refine ⟨?_, fun _ => ⟨error, raised⟩, ?_, ?_⟩
      · intro all
        have some := all filter listed
        rw [untranslated] at some
        cases some
      · intro conditions parameters built
        cases raised.symm.trans built
      · intro database schemaName rows selected
        rcases selectFiltered_eq_ok selected with ⟨_, _, _, _, built, -⟩
        cases raised.symm.trans built
    · have built := buildSqlFilter_of_translated given translated
      refine ⟨fun _ => built, ?_, ?_, fun _ _ _ selected =>
        rows_of_selectFiltered selected translated⟩
      · rintro ⟨filter, listed, none⟩
        have some := translated filter listed
        rw [none] at some
        cases some
      · intro conditions parameters also
        obtain ⟨rfl, rfl⟩ := Prod.mk.inj (Except.ok.inj (also.symm.trans built))
        rw [placeholders_clauseText, List.length_flatMap, List.map_map]
        congr 1
        apply List.map_congr_left
        intro condition member
        rcases List.mem_filterMap.mp member with ⟨source, -, stands⟩
        exact (conditionOf_of_translation stands).2

/-- A database that knows equality only. -/
def equalityLookup : LookupEngine where
  toSqliteEngine := plainSqlite
  compares := fun type comparison stored given =>
    match comparison, given with
    | .equal, [value] => plainSqlite.equals type stored value
    | _, _ => false
  compares_equal := fun _ _ _ => rfl

def numberValue (number : Int) : FilterValue where
  value := .integer number
  format := .ok (toString number)
  truth := .ok (number ≠ 0)
  counted := .error (.typeError "'int' object is not iterable")
  items := .error (.typeError "'int' object is not iterable")

/-- Without filters the clause is not bound, and an operator that is not known is left out. -/
theorem not_reachesSql_unknownOperator :
    ¬ ReachesSql equalityLookup [] ∧
      buildSqlFilter [("age__between", numberValue 25)] = .ok ([], []) ∧
      ¬ ReachesSql equalityLookup [("age__between", numberValue 25)] := by
  have left : buildSqlFilter [("age__between", numberValue 25)] = .ok ([], []) := by
    decide +kernel
  refine ⟨fun reaches => ((reachesSql_iff _ _).mp reaches).1 rfl, left, ?_⟩
  intro reaches
  have untranslated : translation ("age__between", numberValue 25) = none := by
    decide +kernel
  rcases reaches.refused ⟨_, List.mem_cons_self, untranslated⟩ with ⟨error, raised⟩
  cases left.symm.trans raised

/-! ## Filters without operators -/

theorem bindConditions_equal (filters : List (String × SqlValue)) :
    bindConditions (filters.map fun filter => ⟨filter.1, .equal⟩) (filters.map Prod.snd) =
      some (filters.map fun filter => (⟨filter.1, .equal⟩, [filter.2])) := by
  induction filters with
  | nil => rfl
  | cons filter rest induction =>
      simp [bindConditions, SqlComparison.arity, induction]

theorem buildSqlFilter_plain {filters : List (String × FilterValue)} (given : filters ≠ [])
    (plain : ∀ filter ∈ filters, rsplit filter.1 = none) :
    buildSqlFilter filters = .ok (filters.map (fun filter => ⟨filter.1, .equal⟩),
      filters.map fun filter => filter.2.value) := by
  have each : ∀ filter ∈ filters,
      conditionOf filter = .ok (some (⟨filter.1, .equal⟩, [filter.2.value])) := by
    intro filter listed
    rw [conditionOf, plain filter listed]
    rfl
  rw [buildSqlFilter_eq given, mapM_eq_ok each]
  simp [Except.map, List.flatMap_map, Function.comp_def, ← List.map_eq_flatMap]

theorem filterRecordBy_plain {Record State : Type} (pickle : StatePickle State)
    (klass : SqlRecordClass Record State) (engine : LookupEngine) (database : StoreDatabase)
    (schemaName : String) {filters : List (String × FilterValue)} (given : filters ≠ [])
    (plain : ∀ filter ∈ filters, rsplit filter.1 = none) :
    filterRecordBy pickle klass engine database schemaName filters =
      filterRecord pickle klass engine.toSqliteEngine database schemaName
        (filters.map fun filter => (filter.1, filter.2.value)) := by
  have binds := bindConditions_equal (filters.map fun filter => (filter.1, filter.2.value))
  simp only [List.map_map, Function.comp_def] at binds
  rw [filterRecordBy, selectFiltered, filterRecord, buildSqlFilter_plain given plain]
  by_cases known : checkIfSchemaExists database schemaName = true
  · simp only [known, Bool.not_true, Bool.false_eq_true, if_false, bind, Except.bind, pure,
      Except.pure, runStatement, SqlDatabase.selectAll, List.map_map, Function.comp_def]
    cases found : database.named schemaName (filters.map fun filter => filter.1) with
    | error error => simp [orSqlOperationError]
    | ok table =>
        simp only [orSqlOperationError, binds]
        cases (filters.map fun filter => filter.2.value).forM bindParameter with
        | error error => rfl
        | ok done =>
            have same : (fun row => (filters.map fun filter => (SqlCondition.mk filter.1 .equal,
                [filter.2.value])).all (engine.meets table row)) =
                table.satisfies engine.toSqlEngine
                  (filters.map fun filter => (filter.1, filter.2.value)) := by
              funext row
              rw [SqlTable.satisfies, List.all_map, List.all_map]
              congr 1
              funext filter
              simp only [Function.comp, LookupEngine.meets, engine.compares_equal]
              cases table.cell? row filter.1 <;> rfl
            simp only [same]
  · simp only [known]
    rfl

end SqliteStore

end EventPipeline
