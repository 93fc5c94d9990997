import EventPipeline.Store.SqlFilter

/-! # Filters of Postgres records

The filters of Postgres are collected by a function of their own, which writes `%s` where Sqlite
has `?`. It knows fewer operators, and it skips the others as it skips unknown ones.
-/

namespace EventPipeline

/-- The text of a condition with another mark for its parameters. -/
def SqlCondition.written (mark : String) (condition : SqlCondition) : String :=
  match condition.comparison with
  | .equal => condition.field ++ " = " ++ mark
  | .like => condition.field ++ " LIKE " ++ mark
  | .lowerLike => "LOWER(" ++ condition.field ++ ") LIKE LOWER(" ++ mark ++ ")"
  | .greater => condition.field ++ " > " ++ mark
  | .greaterEqual => condition.field ++ " >= " ++ mark
  | .less => condition.field ++ " < " ++ mark
  | .lessEqual => condition.field ++ " <= " ++ mark
  | .isIn count =>
      condition.field ++ " IN (" ++ ",".intercalate (List.replicate count mark) ++ ")"
  | .isNull => condition.field ++ " IS NULL"
  | .isNotNull => condition.field ++ " IS NOT NULL"

theorem SqlCondition.written_question (condition : SqlCondition) :
    condition.written "?" = condition.text := by
  cases condition with
  | mk field comparison =>
      cases comparison <;> simp [written, text, String.append_assoc]

namespace PostgresStore

/-- What a filter appends to the conditions and to the parameters. -/
def filterParam (filter : String × FilterValue) :
    Except SqlStoreError (Option (String × List SqlValue)) :=
  match SqliteStore.rsplit filter.1 with
  | some (field, operator) =>
      match operator with
      | "contains" => do
          return some (field ++ " LIKE %s", [.text ("%" ++ (← filter.2.format) ++ "%")])
      | "startswith" => do
          return some (field ++ " LIKE %s", [.text ((← filter.2.format) ++ "%")])
      | "endswith" => do
          return some (field ++ " LIKE %s", [.text ("%" ++ (← filter.2.format))])
      | "gt" => return some (field ++ " > %s", [filter.2.value])
      | "gte" => return some (field ++ " >= %s", [filter.2.value])
      | "lt" => return some (field ++ " < %s", [filter.2.value])
      | "lte" => return some (field ++ " <= %s", [filter.2.value])
      | _ => return none
  | none => return some (filter.1 ++ " = %s", [filter.2.value])

/-- The two lists of the loop over the filters. -/
structure FilterParams where
  parameters : List SqlValue := []
  conditions : List String := []

def FilterParams.add (collected : FilterParams) (filter : String × FilterValue) :
    Except SqlStoreError FilterParams := do
  let added ← filterParam filter
  return ⟨collected.parameters ++ added.toList.flatMap Prod.snd,
    collected.conditions ++ added.toList.map Prod.fst⟩

def buildFilterParams (filterKwargs : List (String × FilterValue)) :
    Except SqlStoreError (List SqlValue × List String) := do
  let collected ← filterKwargs.foldlM FilterParams.add {}
  return (collected.parameters, collected.conditions)

end PostgresStore

/-! ## Agreement -/

/-- What Sqlite makes of the filters, as Postgres would return it. -/
def asPostgres (built : List SqlCondition × List SqlValue) : List SqlValue × List String :=
  (built.2, built.1.map (SqlCondition.written "%s"))

/-- Both stores make the same conditions and parameters of the filters, up to the mark of a
parameter, or both raise the same. -/
def FiltersAgree (filters : List (String × FilterValue)) : Prop :=
  PostgresStore.buildFilterParams filters = (SqliteStore.buildSqlFilter filters).map asPostgres

/-- The operators that Postgres translates. -/
def SqlLookup.shared : SqlLookup → Bool
  | .contains | .startswith | .endswith | .gt | .gte | .lt | .lte => true
  | .icontains | .isIn | .isnull | .exact => false

/-- The filter does not use `icontains`, `in`, `isnull` or `exact`. -/
def sharedFilter (filter : String × FilterValue) : Bool :=
  match SqliteStore.rsplit filter.1 with
  | some (_, operator) => (SqliteStore.lookup? operator).all SqlLookup.shared
  | none => true

/-- There is a filter, and either all of them are shared, or the first value that cannot be read
raises what is also raised by the first one among the shared filters. -/
def SharedFilters (filters : List (String × FilterValue)) : Prop :=
  filters ≠ [] ∧ ((∀ filter ∈ filters, sharedFilter filter = true) ∨
    ∃ error, filters.findSome? raisedByFilter = some error ∧
      (filters.filter sharedFilter).findSome? raisedByFilter = some error)

/-! ## One filter -/

def SqlLookup.operator : SqlLookup → String
  | .contains => "contains"
  | .startswith => "startswith"
  | .endswith => "endswith"
  | .icontains => "icontains"
  | .gt => "gt"
  | .gte => "gte"
  | .lt => "lt"
  | .lte => "lte"
  | .isIn => "in"
  | .isnull => "isnull"
  | .exact => "exact"

theorem SqliteStore.eq_operator_of_lookup? {operator : String} {lookup : SqlLookup}
    (known : SqliteStore.lookup? operator = some lookup) : operator = lookup.operator := by
  unfold SqliteStore.lookup? at known
  split at known <;> cases known <;> rfl

theorem filterParam_unknown {filter : String × FilterValue} {field operator : String}
    (split : SqliteStore.rsplit filter.1 = some (field, operator))
    (unknown : SqliteStore.lookup? operator = none) :
    PostgresStore.filterParam filter = .ok none := by
  simp only [PostgresStore.filterParam, split]
  split
  all_goals first
    | rfl
    | cases unknown

/-- A condition with its parameters, as Postgres would append them. -/
def asParam (condition : SqlCondition × List SqlValue) : String × List SqlValue :=
  (condition.1.written "%s", condition.2)

theorem filterParam_eq {filter : String × FilterValue} (shared : sharedFilter filter = true) :
    PostgresStore.filterParam filter =
      (SqliteStore.conditionOf filter).map (Option.map asParam) := by
  rw [sharedFilter] at shared
  cases split : SqliteStore.rsplit filter.1 with
  | none =>
      simp [PostgresStore.filterParam, SqliteStore.conditionOf, split, asParam,
        SqlCondition.written, String.append_assoc, Except.map, pure, Except.pure]
  | some parts =>
      rcases parts with ⟨field, operator⟩
      simp only [split] at shared
      cases known : SqliteStore.lookup? operator with
      | none =>
          rw [filterParam_unknown split known]
          simp only [SqliteStore.conditionOf, split, known]
          rfl
      | some lookup =>
          obtain rfl := SqliteStore.eq_operator_of_lookup? known
          rw [known, Option.all_some] at shared
          simp only [PostgresStore.filterParam, SqliteStore.conditionOf, split, known]
          cases lookup with
          | icontains | isIn | isnull | exact => cases shared
          | gt | gte | lt | lte =>
              simp [SqlLookup.operator, SqliteStore.condition, asParam, SqlCondition.written,
                String.append_assoc, Except.map, pure, Except.pure]
          | contains | startswith | endswith =>
              simp only [SqlLookup.operator, SqliteStore.condition]
              cases filter.2.format with
              | error error => rfl
              | ok text =>
                  simp [asParam, SqlCondition.written, String.append_assoc, Except.map, bind,
                    Except.bind, pure, Except.pure]

theorem filterParam_of_not_shared {filter : String × FilterValue}
    (other : sharedFilter filter = false) :
    PostgresStore.filterParam filter = .ok none ∧
      SqliteStore.conditionOf filter ≠ .ok none := by
  rw [sharedFilter] at other
  cases split : SqliteStore.rsplit filter.1 with
  | none =>
      rw [split] at other
      cases other
  | some parts =>
      rcases parts with ⟨field, operator⟩
      simp only [split] at other
      cases known : SqliteStore.lookup? operator with
      | none =>
          rw [known] at other
          cases other
      | some lookup =>
          obtain rfl := SqliteStore.eq_operator_of_lookup? known
          rw [known, Option.all_some] at other
          simp only [PostgresStore.filterParam, SqliteStore.conditionOf, split, known]
          constructor
          · cases lookup with
            | icontains | isIn | isnull | exact => rfl
            | contains | startswith | endswith | gt | gte | lt | lte => cases other
          · cases SqliteStore.condition field filter.2 lookup with
            | error error => simp [Except.map]
            | ok added => simp [Except.map]

theorem exceptionOf_filterParam (filter : String × FilterValue) :
    exceptionOf (PostgresStore.filterParam filter) =
      if sharedFilter filter = true then raisedByFilter filter else none := by
  split_ifs with shared
  · rw [filterParam_eq shared, ← exceptionOf_conditionOf]
    cases SqliteStore.conditionOf filter <;> rfl
  · rw [(filterParam_of_not_shared (Bool.eq_false_of_not_eq_true shared)).1]
    rfl

/-! ## The loop over the filters -/

/-- The loop after it has appended what some filters stand for. -/
def PostgresStore.FilterParams.extend (collected : PostgresStore.FilterParams)
    (added : List (Option (String × List SqlValue))) : PostgresStore.FilterParams where
  parameters := collected.parameters ++ (added.flatMap Option.toList).flatMap Prod.snd
  conditions := collected.conditions ++ (added.flatMap Option.toList).map Prod.fst

theorem foldlM_params (collected : PostgresStore.FilterParams)
    (filters : List (String × FilterValue)) :
    filters.foldlM PostgresStore.FilterParams.add collected =
      (filters.mapM PostgresStore.filterParam).map collected.extend := by
  apply foldlM_eq_mapM
  · intro collected
    simp [PostgresStore.FilterParams.extend]
  · intro collected filter
    rw [PostgresStore.FilterParams.add]
    cases PostgresStore.filterParam filter with
    | error error => rfl
    | ok added =>
        simp [bind, Except.bind, pure, Except.pure, Except.map,
          PostgresStore.FilterParams.extend]
  · intro collected result results
    simp [PostgresStore.FilterParams.extend, List.append_assoc]

theorem buildFilterParams_eq (filters : List (String × FilterValue)) :
    PostgresStore.buildFilterParams filters =
      (filters.mapM PostgresStore.filterParam).map fun added =>
        ((added.flatMap Option.toList).flatMap Prod.snd,
          (added.flatMap Option.toList).map Prod.fst) := by
  rw [PostgresStore.buildFilterParams, foldlM_params]
  cases filters.mapM PostgresStore.filterParam with
  | error error => rfl
  | ok added =>
      simp [Except.map, bind, Except.bind, pure, Except.pure, PostgresStore.FilterParams.extend]

theorem filtersAgree_of_shared {filters : List (String × FilterValue)} (given : filters ≠ [])
    (shared : ∀ filter ∈ filters, sharedFilter filter = true) : FiltersAgree filters := by
  have alike := mapM_map_congr fun filter listed => filterParam_eq (shared filter listed)
  rw [FiltersAgree, buildFilterParams_eq, SqliteStore.buildSqlFilter_eq given, alike]
  cases filters.mapM SqliteStore.conditionOf with
  | error error => rfl
  | ok added =>
      have listed : (added.map (Option.map asParam)).flatMap Option.toList =
          (added.flatMap Option.toList).map asParam := by
        rw [List.flatMap_map, List.map_flatMap]
        congr 1
        funext condition
        cases condition <;> rfl
      simp only [Except.map, listed, asPostgres, List.map_map, List.flatMap_map]
      rfl

theorem length_conditions_of_ok {filters : List (String × FilterValue)}
    {conditions : List (Option (SqlCondition × List SqlValue))}
    {params : List (Option (String × List SqlValue))}
    (sqlite : filters.mapM SqliteStore.conditionOf = .ok conditions)
    (postgres : filters.mapM PostgresStore.filterParam = .ok params) :
    (params.flatMap Option.toList).length +
        filters.countP (fun filter => !sharedFilter filter) =
      (conditions.flatMap Option.toList).length := by
  induction filters generalizing conditions params with
  | nil =>
      obtain rfl : [] = conditions := Except.ok.inj sqlite
      obtain rfl : [] = params := Except.ok.inj postgres
      rfl
  | cons filter rest induction =>
      obtain ⟨condition, others, here, there, rfl⟩ := mapM_cons_eq_ok sqlite
      obtain ⟨param, more, also, further, rfl⟩ := mapM_cons_eq_ok postgres
      have rests := induction there further
      have first : param.toList.length + (if sharedFilter filter = true then 0 else 1) =
          condition.toList.length := by
        split_ifs with shared
        · rw [filterParam_eq shared, here] at also
          obtain rfl : condition.map asParam = param := Except.ok.inj also
          cases condition <;> rfl
        · rcases filterParam_of_not_shared (Bool.eq_false_of_not_eq_true shared) with
            ⟨skipped, appended⟩
          obtain rfl : none = param := Except.ok.inj (skipped.symm.trans also)
          cases condition with
          | none => exact absurd here appended
          | some condition => rfl
      rw [List.flatMap_cons, List.flatMap_cons, List.length_append, List.length_append,
        List.countP_cons, ← rests, ← first]
      cases sharedFilter filter <;> simp <;> omega

theorem findSome?_shared (filters : List (String × FilterValue)) :
    (filters.findSome? fun filter => exceptionOf (PostgresStore.filterParam filter)) =
      (filters.filter sharedFilter).findSome? raisedByFilter := by
  induction filters with
  | nil => rfl
  | cons filter rest induction =>
      rw [List.findSome?_cons, exceptionOf_filterParam, induction, List.filter_cons]
      split_ifs with shared
      · rw [List.findSome?_cons]
      · rfl

theorem mapM_conditionOf_eq_error_iff {filters : List (String × FilterValue)}
    {error : SqlStoreError} :
    filters.mapM SqliteStore.conditionOf = .error error ↔
      filters.findSome? raisedByFilter = some error := by
  rw [eq_error_iff_exceptionOf, exceptionOf_mapM]
  simp only [exceptionOf_conditionOf]

theorem mapM_filterParam_eq_error_iff {filters : List (String × FilterValue)}
    {error : SqlStoreError} :
    filters.mapM PostgresStore.filterParam = .error error ↔
      (filters.filter sharedFilter).findSome? raisedByFilter = some error := by
  rw [eq_error_iff_exceptionOf, exceptionOf_mapM, findSome?_shared]

/-- The stores agree on a mapping of filters exactly if there is a filter, and all of them are
shared or both stores raise the same. -/
theorem filtersAgree_iff (filters : List (String × FilterValue)) :
    FiltersAgree filters ↔ SharedFilters filters := by
  constructor
  · intro agree
    have given : filters ≠ [] := by
      rintro rfl
      rw [FiltersAgree] at agree
      cases agree
    refine ⟨given, ?_⟩
    rw [FiltersAgree, buildFilterParams_eq, SqliteStore.buildSqlFilter_eq given] at agree
    cases postgres : filters.mapM PostgresStore.filterParam with
    | error error =>
        cases sqlite : filters.mapM SqliteStore.conditionOf with
        | error other =>
            rw [postgres, sqlite] at agree
            obtain rfl : error = other := Except.error.inj agree
            exact .inr ⟨error, mapM_conditionOf_eq_error_iff.mp sqlite,
              mapM_filterParam_eq_error_iff.mp postgres⟩
        | ok conditions =>
            rw [postgres, sqlite] at agree
            cases agree
    | ok params =>
        cases sqlite : filters.mapM SqliteStore.conditionOf with
        | error other =>
            rw [postgres, sqlite] at agree
            cases agree
        | ok conditions =>
            rw [postgres, sqlite] at agree
            have lists := congrArg List.length (Prod.mk.inj (Except.ok.inj agree)).2
            have counted := length_conditions_of_ok sqlite postgres
            simp only [List.length_map] at lists
            have none : filters.countP (fun filter => !sharedFilter filter) = 0 := by omega
            left
            intro filter listed
            simpa using List.countP_eq_zero.mp none filter listed
  · rintro ⟨given, shared | ⟨error, sqlite, postgres⟩⟩
    · exact filtersAgree_of_shared given shared
    · rw [FiltersAgree, buildFilterParams_eq, SqliteStore.buildSqlFilter_eq given,
        mapM_conditionOf_eq_error_iff.mpr sqlite, mapM_filterParam_eq_error_iff.mpr postgres]
      rfl

def textValue (text : String) : FilterValue where
  value := .text text
  format := .ok text
  truth := .ok (text ≠ "")
  counted := .ok text.length
  items := .ok (text.toList.map fun char => .text (String.singleton char))

/-- Postgres leaves out a condition without regard to case, and every record is returned. -/
theorem not_filtersAgree_icontains :
    ¬ FiltersAgree [("name__icontains", textValue "ada")] ∧
      PostgresStore.buildFilterParams [("name__icontains", textValue "ada")] = .ok ([], []) := by
  have postgres : PostgresStore.buildFilterParams [("name__icontains", textValue "ada")] =
      .ok ([], []) := by
    decide +kernel
  have sqlite : SqliteStore.buildSqlFilter [("name__icontains", textValue "ada")] =
      .ok ([⟨"name", .lowerLike⟩], [.text "%ada%"]) := by
    decide +kernel
  refine ⟨?_, postgres⟩
  intro agree
  rw [FiltersAgree, postgres, sqlite] at agree
  cases agree

end EventPipeline
