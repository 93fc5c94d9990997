import EventPipeline.Store.SqlReadBack

/-! # Keys of Sqlite records

A record is inserted under its key as a text. To delete, read or update it, the key is converted to
an integer where it is one for `int`, and the integer is compared by its decimal text. The calls
reach the record if that text is the key.
-/

namespace EventPipeline

/-- The rows of a table, none if there is no such table. -/
def SqlDatabase.rows {ColumnType Value : Type} (database : SqlDatabase ColumnType Value)
    (name : String) : List (List Value) :=
  match database.table? name with
  | .ok table => table.rows
  | .error _ => []

/-- Sqlite, where a column of the type `VARCHAR` has text affinity: it keeps an integer as its
decimal text, and compares it by that text. -/
structure TextAffinityEngine extends SqliteEngine where
  keep_integer : ∀ number, SqliteStore.fitsInteger number = true →
    keep .varchar (.integer number) = some (.text (toString number))
  equals_text : ∀ stored given,
    equals .varchar (.text stored) (.text given) = true ↔ stored = given
  equals_integer : ∀ stored number, SqliteStore.fitsInteger number = true →
    (equals .varchar (.text stored) (.integer number) = true ↔ stored = toString number)

/-- The rows of the table start with texts, in a column `id` of the type `VARCHAR`. -/
structure KeyedByText (table : SqlTable SqlType SqlValue) : Prop where
  columns : ∃ notNull others, table.columns = ⟨"id", .varchar, notNull⟩ :: others
  rows : ∀ row ∈ table.rows, ∃ key rest, row = .text key :: rest

namespace SqliteStore

section Property

variable {Record State : Type} (pickle : StatePickle State) (klass : SqlRecordClass Record State)
  (engine : SqliteEngine)

/-- Every call with a key that has just been inserted reaches the inserted row and no other: its
deletion leaves the rows from before, it is fetched, and an update replaces it by a row with the
same key. -/
structure AddressesInserted (database stored : StoreDatabase) (schemaName recordKey : String) :
    Prop where
  delete : deleteRecord engine stored schemaName recordKey =
    .ok (stored.replaceRows schemaName (database.rows schemaName))
  get : ∃ row, fetchRow engine stored schemaName recordKey = .ok row ∧
    stored.rows schemaName = database.rows schemaName ++ [row]
  update : ∀ later updated,
    updateRecord pickle klass engine stored schemaName recordKey later = .ok updated →
      ∃ rest, updated =
        stored.replaceRows schemaName (database.rows schemaName ++ [.text recordKey :: rest])

end Property

/-- The key is no integer for `int`, or it is the decimal text of an integer of 64 bits. -/
def SurvivesConversion (recordKey : String) : Prop :=
  ∀ number, parseInt recordKey = some number →
    fitsInteger number = true ∧ toString number = recordKey

/-! ## Converted keys -/

section Conversion

variable {engine : TextAffinityEngine} {recordKey : String}

theorem survivesConversion_iff :
    SurvivesConversion recordKey ↔
      bindParameter (convertKeyType recordKey) = .ok () ∧ shownKey recordKey = recordKey := by
  rw [SurvivesConversion, convertKeyType, shownKey]
  cases parseInt recordKey with
  | none => simp [bindParameter]
  | some number => simp [bindParameter]

theorem bindParameter_of_not_fitsInteger {number : Int} (large : ¬ fitsInteger number = true) :
    bindParameter (.integer number) ≠ .ok () := by
  rw [bindParameter, if_neg large]
  exact nofun

variable (engine) in
theorem equals_convertKeyType (bound : bindParameter (convertKeyType recordKey) = .ok ())
    (stored : String) :
    engine.equals .varchar (.text stored) (convertKeyType recordKey) = true ↔
      stored = shownKey recordKey := by
  rw [convertKeyType] at bound ⊢
  rw [shownKey]
  cases parsed : parseInt recordKey with
  | none => exact engine.equals_text stored recordKey
  | some number =>
      simp only [parsed] at bound
      have fits : fitsInteger number = true := by
        by_contra large
        exact bindParameter_of_not_fitsInteger large bound
      exact engine.equals_integer stored number fits

theorem keep_convertKeyType (bound : bindParameter (convertKeyType recordKey) = .ok ()) :
    engine.keep .varchar (convertKeyType recordKey) = some (.text (shownKey recordKey)) := by
  rw [convertKeyType] at bound ⊢
  rw [shownKey]
  cases parsed : parseInt recordKey with
  | none => exact engine.keep_varchar recordKey
  | some number =>
      simp only [parsed] at bound
      have fits : fitsInteger number = true := by
        by_contra large
        exact bindParameter_of_not_fitsInteger large bound
      exact engine.keep_integer number fits

end Conversion

/-! ## The table after an insertion -/

/-- The row that was inserted under a key stands last, behind rows with other keys. -/
structure StandsLast (table : SqlTable SqlType SqlValue) (before : List (List SqlValue))
    (recordKey : String) (rest : List SqlValue) : Prop where
  columns : ∃ notNull others, table.columns = ⟨"id", .varchar, notNull⟩ :: others
  rows : table.rows = before ++ [.text recordKey :: rest]
  others : ∀ row ∈ before, ∃ key rest, row = .text key :: rest ∧ key ≠ recordKey

section Rows

variable {table : SqlTable SqlType SqlValue} {engine : TextAffinityEngine}
  {recordKey : String}

theorem cell?_id {notNull : Bool} {others : List (SqlColumn SqlType)}
    (first : table.columns = ⟨"id", .varchar, notNull⟩ :: others) (value : SqlValue)
    (rest : List SqlValue) :
    table.cell? (value :: rest) "id" = some (⟨"id", .varchar, notNull⟩, value) := by
  have named := sameName_self "id"
  rw [SqlTable.cell?, SqlTable.cells, first, List.zip_cons_cons]
  exact List.find?_cons_of_pos named

theorem hasColumn_id (columns : ∃ notNull others,
    table.columns = ⟨"id", SqlType.varchar, notNull⟩ :: others) :
    table.hasColumn "id" = true := by
  rcases columns with ⟨notNull, others, first⟩
  have named := sameName_self "id"
  rw [SqlTable.hasColumn, first, List.any_cons, named, Bool.true_or]

theorem satisfies_convertKeyType (columns : ∃ notNull others,
    table.columns = ⟨"id", SqlType.varchar, notNull⟩ :: others)
    (bound : bindParameter (convertKeyType recordKey) = .ok ()) (key : String)
    (rest : List SqlValue) :
    table.satisfies engine.toSqlEngine [("id", convertKeyType recordKey)] (.text key :: rest) =
      decide (key = shownKey recordKey) := by
  rcases columns with ⟨notNull, others, first⟩
  rw [Bool.eq_iff_iff, decide_eq_true_eq, ← equals_convertKeyType engine bound key]
  simp [SqlTable.satisfies, cell?_id first]

end Rows

section Insertion

variable {Record State : Type} {klass : SqlRecordClass Record State}
  {engine : TextAffinityEngine} {database stored : StoreDatabase} {schemaName recordKey : String}
  {record : Record}

theorem source_of_insertRecord
    (keyed : ∀ table, database.table? schemaName = .ok table → KeyedByText table)
    (inserted : insertRecord klass engine.toSqliteEngine database schemaName recordKey record =
      .ok stored) :
    ∃ source : StoreDatabase, source.rows schemaName = database.rows schemaName ∧
      (∀ table, source.table? schemaName = .ok table → KeyedByText table) ∧
      source.insertRow engine.toSqlEngine schemaName "id"
        ((recordData klass (.text recordKey) record).map fun entry => (entry.1, entry.2.bound)) =
          .ok stored := by
  rw [insertRecord] at inserted
  by_cases known : checkIfSchemaExists database schemaName = true
  · rw [if_pos known] at inserted
    simp only [pure, Except.pure, bind, Except.bind] at inserted
    split at inserted
    · cases inserted
    · exact ⟨database, rfl, keyed, runStatement_eq_ok inserted⟩
  · rw [if_neg known] at inserted
    cases created : createSchema klass database schemaName with
    | error error =>
        rw [created] at inserted
        cases inserted
    | ok source =>
        rw [created] at inserted
        simp only [bind, Except.bind] at inserted
        rw [createSchema, if_neg known] at created
        have made := orSqlOperationError_eq_ok created
        have fresh := SqlDatabase.fresh_of_createTable made
        obtain rfl := SqlDatabase.createTable_eq_ok made
        have unknown : database.find? (fun table => sameName table.name schemaName) = none :=
          List.find?_eq_none.mpr fresh
        have named := sameName_self schemaName
        have looked : SqlDatabase.table? (database ++ [⟨schemaName, ⟨"id", .varchar, false⟩ ::
            klass.annotations.map fun field =>
              ⟨field.name, mapTypes field.type, !isOptional field⟩, []⟩]) schemaName =
            .ok ⟨schemaName, ⟨"id", .varchar, false⟩ :: klass.annotations.map fun field =>
              ⟨field.name, mapTypes field.type, !isOptional field⟩, []⟩ := by
          simp [SqlDatabase.table?, List.find?_append, unknown, named]
        split at inserted
        · cases inserted
        · refine ⟨_, ?_, ?_, runStatement_eq_ok inserted⟩
          · simp only [SqlDatabase.rows, looked]
            simp [SqlDatabase.table?, unknown]
          · intro table found
            rw [looked] at found
            obtain rfl := Except.ok.inj found
            exact ⟨⟨_, _, rfl⟩, fun _ listed => absurd listed List.not_mem_nil⟩

theorem standsLast_of_insertRecord
    (keyed : ∀ table, database.table? schemaName = .ok table → KeyedByText table)
    (inserted : insertRecord klass engine.toSqliteEngine database schemaName recordKey record =
      .ok stored) :
    ∃ table rest, stored.table? schemaName = .ok table ∧
      StandsLast table (database.rows schemaName) recordKey rest := by
  rcases source_of_insertRecord keyed inserted with ⟨source, same, keyedSource, stepped⟩
  rcases SqlDatabase.insertRow_eq_ok stepped with
    ⟨distinctNames, table, row, found, made, fresh, rfl⟩
  have keyedTable := keyedSource table found
  rcases keyedTable.columns with ⟨notNull, others, first⟩
  have assigned : ("id", SqlValue.text recordKey) ∈
      (recordData klass (.text recordKey) record).map fun entry => (entry.1, entry.2.bound) :=
    List.mem_map.mpr ⟨_, mem_recordData (.text recordKey) record, rfl⟩
  have named := sameName_self "id"
  have looked := find?_sameName (duplicateName_eq_none distinctNames) assigned named
  obtain ⟨kept, rest, rfl, keeps⟩ := SqlTable.head_newRow first looked made
  rw [engine.keep_varchar] at keeps
  obtain rfl := Option.some.inj keeps
  have rows : source.rows schemaName = table.rows := by
    rw [SqlDatabase.rows, found]
  rw [← same, rows]
  refine ⟨_, rest, SqlDatabase.table?_replaceRows found _, ⟨notNull, others, first⟩, rfl, ?_⟩
  intro row listed
  rcases keyedTable.rows row listed with ⟨key, others, rfl⟩
  refine ⟨key, others, rfl, ?_⟩
  rintro rfl
  apply fresh _ listed
  rw [cell?_id first, cell?_id first]

theorem keyedByText_of_insertRecord
    (keyed : ∀ table, database.table? schemaName = .ok table → KeyedByText table)
    (inserted : insertRecord klass engine.toSqliteEngine database schemaName recordKey record =
      .ok stored) :
    ∀ table, stored.table? schemaName = .ok table → KeyedByText table := by
  rcases standsLast_of_insertRecord keyed inserted with ⟨table, rest, found, stands⟩
  intro other looked
  obtain rfl := Except.ok.inj (found.symm.trans looked)
  refine ⟨stands.columns, ?_⟩
  intro row listed
  rw [stands.rows, List.mem_append, List.mem_singleton] at listed
  rcases listed with earlier | rfl
  · rcases stands.others row earlier with ⟨key, others, same, -⟩
    exact ⟨key, others, same⟩
  · exact ⟨recordKey, rest, rfl⟩

end Insertion

/-! ## Deletions and reads -/

section Calls

variable {Record State : Type} {pickle : StatePickle State} {klass : SqlRecordClass Record State}
  {engine : TextAffinityEngine} {stored : StoreDatabase} {schemaName recordKey : String}
  {table : SqlTable SqlType SqlValue} {before : List (List SqlValue)} {rest : List SqlValue}

theorem runStatement_of_named {Value : Type} {message : String} {key : SqlValue}
    {columns : List String} (found : stored.named schemaName columns = .ok table)
    (result : Except SqlError Value) :
    runStatement message (stored.named schemaName columns) [key] result =
      (bindParameter key).bind fun _ => orSqlOperationError message result := by
  simp only [runStatement, found, orSqlOperationError, List.forM_eq_forM, List.forM_cons,
    List.forM_nil, bind, Except.bind]
  cases bindParameter key with
  | error error => rfl
  | ok done => rfl

theorem named_id (found : stored.table? schemaName = .ok table)
    (stands : StandsLast table before recordKey rest) :
    stored.named schemaName ["id"] = .ok table := by
  apply SqlDatabase.named_of_table? found
  intro column member
  obtain rfl := List.mem_singleton.mp member
  exact hasColumn_id stands.columns

variable (engine) in
theorem satisfies_inserted (stands : StandsLast table before recordKey rest)
    (bound : bindParameter (convertKeyType recordKey) = .ok ())
    (shown : shownKey recordKey = recordKey) :
    table.satisfies engine.toSqlEngine [("id", convertKeyType recordKey)]
      (.text recordKey :: rest) = true := by
  rw [satisfies_convertKeyType stands.columns bound, shown]
  exact decide_eq_true rfl

variable (engine) in
theorem not_satisfies_before (stands : StandsLast table before recordKey rest)
    (bound : bindParameter (convertKeyType recordKey) = .ok ())
    (shown : shownKey recordKey = recordKey) :
    ∀ row ∈ before, table.satisfies engine.toSqlEngine
      [("id", convertKeyType recordKey)] row = false := by
  intro row listed
  rcases stands.others row listed with ⟨key, others, rfl, different⟩
  rw [satisfies_convertKeyType stands.columns bound, shown]
  exact decide_eq_false different

theorem deleteRecord_eq (found : stored.table? schemaName = .ok table)
    (stands : StandsLast table before recordKey rest) :
    deleteRecord engine.toSqliteEngine stored schemaName recordKey =
      (bindParameter (convertKeyType recordKey)).bind fun _ =>
        if table.rows.countP (table.satisfies engine.toSqlEngine
            [("id", convertKeyType recordKey)]) = 0 then
          .error (.objectDoesNotExist
            ("Record with id " ++ shownKey recordKey ++ " does not exist"))
        else .ok (stored.replaceRows schemaName (table.rows.filter fun row =>
          !table.satisfies engine.toSqlEngine [("id", convertKeyType recordKey)] row)) := by
  have named := named_id found stands
  simp only [deleteRecord]
  rw [runStatement_of_named named, SqlDatabase.deleteRows]
  simp only [List.map_cons, List.map_nil, named, bind, Except.bind, pure, Except.pure]
  cases bindParameter (convertKeyType recordKey) with
  | error error => rfl
  | ok done => rfl

theorem shownKey_of_deleteRecord (found : stored.table? schemaName = .ok table)
    (stands : StandsLast table before recordKey rest)
    (deleted : deleteRecord engine.toSqliteEngine stored schemaName recordKey =
      .ok (stored.replaceRows schemaName before)) :
    bindParameter (convertKeyType recordKey) = .ok () ∧ shownKey recordKey = recordKey := by
  rw [deleteRecord_eq found stands] at deleted
  cases bound : bindParameter (convertKeyType recordKey) with
  | error error =>
      rw [bound] at deleted
      cases deleted
  | ok done =>
      rw [bound] at deleted
      refine ⟨rfl, ?_⟩
      by_contra different
      simp only [Except.bind] at deleted
      split at deleted
      · cases deleted
      · have same := congrArg (fun database => SqlDatabase.table? database schemaName)
          (Except.ok.inj deleted)
        simp only [SqlDatabase.table?_replaceRows found] at same
        have kept := (SqlTable.mk.injEq .. ▸ Except.ok.inj same).2.2
        have last : SqlValue.text recordKey :: rest ∈ before := by
          rw [← kept, List.mem_filter, stands.rows]
          refine ⟨List.mem_append_right _ List.mem_cons_self, ?_⟩
          rw [satisfies_convertKeyType stands.columns bound]
          simpa using fun same => different same.symm
        rcases stands.others _ last with ⟨key, others, same, other⟩
        exact other (by simpa using (List.cons.inj same).1.symm)

theorem deleteRecord_inserted (found : stored.table? schemaName = .ok table)
    (stands : StandsLast table before recordKey rest)
    (bound : bindParameter (convertKeyType recordKey) = .ok ())
    (shown : shownKey recordKey = recordKey) :
    deleteRecord engine.toSqliteEngine stored schemaName recordKey =
      .ok (stored.replaceRows schemaName before) := by
  have last := satisfies_inserted engine stands bound shown
  have none := not_satisfies_before engine stands bound shown
  have kept : (before.filter fun row => !table.satisfies engine.toSqlEngine
      [("id", convertKeyType recordKey)] row) = before := by
    apply List.filter_eq_self.mpr
    intro row listed
    rw [none row listed, Bool.not_false]
  rw [deleteRecord_eq found stands, bound, Except.bind, stands.rows, List.countP_append,
    List.countP_singleton, last, List.filter_append, kept]
  simp [last]

theorem fetchRow_inserted (found : stored.table? schemaName = .ok table)
    (stands : StandsLast table before recordKey rest)
    (bound : bindParameter (convertKeyType recordKey) = .ok ())
    (shown : shownKey recordKey = recordKey) :
    fetchRow engine.toSqliteEngine stored schemaName recordKey = .ok (.text recordKey :: rest) := by
  have last := satisfies_inserted engine stands bound shown
  have none := not_satisfies_before engine stands bound shown
  have named := named_id found stands
  have skipped : before.filter (table.satisfies engine.toSqlEngine
      [("id", convertKeyType recordKey)]) = [] := by
    apply List.filter_eq_nil_iff.mpr
    intro row listed
    rw [none row listed]
    exact Bool.false_ne_true
  simp only [fetchRow]
  rw [runStatement_of_named named, bound, SqlDatabase.selectAll]
  simp only [List.map_cons, List.map_nil, named, bind, Except.bind, pure, Except.pure,
    orSqlOperationError, stands.rows, List.filter_append, skipped, List.nil_append,
    List.filter_cons_of_pos last]

end Calls

/-! ## Updates -/

section Updates

variable {Record State : Type} {pickle : StatePickle State} {klass : SqlRecordClass Record State}
  {engine : TextAffinityEngine} {stored : StoreDatabase} {schemaName recordKey : String}
  {table : SqlTable SqlType SqlValue} {before : List (List SqlValue)} {rest : List SqlValue}

variable (pickle klass recordKey) in
theorem mem_updateData (later : Record) :
    ("id", convertKeyType recordKey) ∈ updateData pickle klass recordKey later := by
  apply OrderedDict.mem_of_get
  rw [updateData, OrderedDict.get_insert, if_neg (by decide), OrderedDict.get_insert, if_pos rfl]

theorem head_updateRow {assignments : List (String × SqlValue)}
    (columns : ∃ notNull others, table.columns = ⟨"id", SqlType.varchar, notNull⟩ :: others)
    (unassigned : ∀ assignment ∈ assignments, ¬ sameName "id" assignment.1 = true)
    {value : SqlValue} {rest row : List SqlValue}
    (updated : table.updateRow engine.toSqlEngine assignments (value :: rest) = .ok row) :
    ∃ others, row = value :: others := by
  rcases columns with ⟨notNull, others, first⟩
  have skipped : assignments.find? (fun other => sameName "id" other.1) = none :=
    List.find?_eq_none.mpr unassigned
  rw [SqlTable.updateRow, SqlTable.cells, first, List.zip_cons_cons, List.mapM_cons] at updated
  simp only [skipped, bind, Except.bind] at updated
  split at updated
  · cases updated
  · exact ⟨_, (Except.ok.inj updated).symm⟩

theorem mapM_update {update : List SqlValue → Except SqlError (List SqlValue)}
    {satisfied : List SqlValue → Bool} {last : List SqlValue}
    (none : ∀ row ∈ before, satisfied row = false) (matched : satisfied last = true)
    {rows : List (List SqlValue)}
    (updated : (before ++ [last]).mapM (fun row =>
      if satisfied row then update row else .ok row) = .ok rows) :
    ∃ row, update last = .ok row ∧ rows = before ++ [row] := by
  induction before generalizing rows with
  | nil =>
      simp only [List.nil_append, List.mapM_cons, List.mapM_nil, matched, if_true, bind,
        Except.bind] at updated
      cases made : update last with
      | error error =>
          rw [made] at updated
          cases updated
      | ok row =>
          rw [made] at updated
          exact ⟨row, rfl, (Except.ok.inj updated).symm⟩
  | cons first others induction =>
      have untouched := none first List.mem_cons_self
      rw [List.cons_append, List.mapM_cons] at updated
      simp only [untouched, Bool.false_eq_true, if_false, bind, Except.bind] at updated
      split at updated
      · cases updated
      · rename_i later stepped
        obtain rfl := Except.ok.inj updated
        rcases induction (fun row listed => none row (List.mem_cons_of_mem _ listed)) stepped with
          ⟨row, made, rfl⟩
        exact ⟨row, made, rfl⟩

theorem updateRecord_inserted (found : stored.table? schemaName = .ok table)
    (stands : StandsLast table before recordKey rest)
    (bound : bindParameter (convertKeyType recordKey) = .ok ())
    (shown : shownKey recordKey = recordKey) {later : Record} {updated : StoreDatabase}
    (done : updateRecord pickle klass engine.toSqliteEngine stored schemaName recordKey later =
      .ok updated) :
    ∃ others, updated = stored.replaceRows schemaName (before ++ [.text recordKey :: others]) := by
  have assigned := mem_updateData pickle klass recordKey later
  have upserted := runStatement_eq_ok done
  generalize updateData pickle klass recordKey later = data at assigned upserted
  have named := sameName_self "id"
  rcases stands.columns with ⟨notNull, others, first⟩
  rcases SqlDatabase.upsertRow_eq_ok upserted with inserted | ⟨distinct, count, changed⟩
  · -- A second row with the key is refused.
    rcases SqlDatabase.insertRow_eq_ok inserted with
      ⟨distinct, other, row, looked, made, fresh, -⟩
    obtain rfl := Except.ok.inj (found.symm.trans looked)
    have same := find?_sameName (duplicateName_eq_none distinct) assigned named
    rcases SqlTable.head_newRow first same made with ⟨kept, more, rfl, keeps⟩
    rw [keep_convertKeyType bound, shown] at keeps
    obtain rfl := Option.some.inj keeps
    have listed : SqlValue.text recordKey :: rest ∈ table.rows := by
      rw [stands.rows]
      exact List.mem_append_right _ List.mem_cons_self
    refine absurd ?_ (fresh _ listed)
    rw [cell?_id first, cell?_id first]
  · rcases SqlDatabase.updateRows_eq_ok changed with ⟨other, rows, looked, mapped, rfl⟩
    obtain rfl := Except.ok.inj (found.symm.trans looked)
    rw [stands.rows] at mapped
    rcases mapM_update (not_satisfies_before engine stands bound shown)
      (satisfies_inserted engine stands bound shown) mapped with ⟨row, made, rfl⟩
    have unassigned : ∀ assignment ∈ data.filter (fun entry => entry.1 ≠ "id"),
        ¬ sameName "id" assignment.1 = true := by
      intro assignment member same
      rw [List.mem_filter] at member
      have alone := find?_sameName (duplicateName_eq_none distinct) member.1 same
      have key := find?_sameName (duplicateName_eq_none distinct) assigned named
      obtain rfl := Option.some.inj (alone.symm.trans key)
      simp at member
    rcases head_updateRow stands.columns unassigned made with ⟨more, rfl⟩
    exact ⟨more, rfl⟩

end Updates

/-- The calls with a key reach the record that was inserted under it exactly if the key survives
its conversion. -/
theorem addressesInserted_iff {Record State : Type} (pickle : StatePickle State)
    (klass : SqlRecordClass Record State) (engine : TextAffinityEngine)
    {database stored : StoreDatabase} {schemaName recordKey : String} {record : Record}
    (keyed : ∀ table, database.table? schemaName = .ok table → KeyedByText table)
    (inserted : insertRecord klass engine.toSqliteEngine database schemaName recordKey record =
      .ok stored) :
    AddressesInserted pickle klass engine.toSqliteEngine database stored schemaName recordKey ↔
      SurvivesConversion recordKey := by
  rcases standsLast_of_insertRecord keyed inserted with ⟨table, rest, found, stands⟩
  rw [survivesConversion_iff]
  constructor
  · intro addresses
    exact shownKey_of_deleteRecord found stands addresses.delete
  · rintro ⟨bound, shown⟩
    have rows : stored.rows schemaName = table.rows := by
      rw [SqlDatabase.rows, found]
    refine ⟨deleteRecord_inserted found stands bound shown, ?_, ?_⟩
    · exact ⟨_, fetchRow_inserted found stands bound shown, rows.trans stands.rows⟩
    · intro later updated done
      exact updateRecord_inserted found stands bound shown done

/-- A database that keeps and compares integers in a `VARCHAR` column as texts. -/
def textAffinity : TextAffinityEngine where
  null := .none
  keep := fun type value =>
    match type, value with
    | _, .dict _ | _, .object _ => none
    | .varchar, .integer number => some (.text (toString number))
    | _, value => some value
  equals := fun type stored given =>
    match type, given with
    | .varchar, .integer number => stored = .text (toString number)
    | _, given => stored = given
  null_eq := rfl
  keep_varchar := fun _ => rfl
  keep_integer := fun _ _ => rfl
  equals_text := by simp
  equals_integer := by simp

def numberedTask : StoreDatabase :=
  [⟨"Task", [⟨"id", .varchar, false⟩, ⟨"done", .boolean, true⟩],
    [[.text "12", .boolean false]]⟩]

/-- A key with letters is inserted behind another one. -/
theorem addressesInserted_letters :
    ∃ stored, insertRecord taskClass textAffinity.toSqliteEngine numberedTask "Task" "Task-1"
        true = .ok stored ∧
      AddressesInserted flagPickle taskClass textAffinity.toSqliteEngine numberedTask stored "Task"
        "Task-1" := by
  have inserted : insertRecord taskClass textAffinity.toSqliteEngine numberedTask "Task" "Task-1"
      true = .ok [⟨"Task", [⟨"id", .varchar, false⟩, ⟨"done", .boolean, true⟩],
        [[.text "12", .boolean false], [.text "Task-1", .boolean true]]⟩] := by
    decide +kernel
  have keyed : ∀ table, SqlDatabase.table? numberedTask "Task" = .ok table →
      KeyedByText table := by
    intro table found
    cases found
    refine ⟨⟨_, _, rfl⟩, fun row member => ?_⟩
    rcases List.mem_singleton.mp member with rfl
    exact ⟨_, _, rfl⟩
  refine ⟨_, inserted, (addressesInserted_iff flagPickle taskClass textAffinity keyed
    inserted).mpr ?_⟩
  have parsed : parseInt "Task-1" = none := by decide +kernel
  intro number same
  rw [parsed] at same
  cases same

/-- A key with leading zeros is deleted as another one. -/
theorem not_addressesInserted_zeros :
    ∃ stored, insertRecord taskClass textAffinity.toSqliteEngine [] "Task" "007" true =
        .ok stored ∧
      deleteRecord textAffinity.toSqliteEngine stored "Task" "007" =
        .error (.objectDoesNotExist "Record with id 7 does not exist") ∧
      ¬ AddressesInserted flagPickle taskClass textAffinity.toSqliteEngine [] stored "Task"
        "007" := by
  have inserted : insertRecord taskClass textAffinity.toSqliteEngine [] "Task" "007" true =
      .ok [⟨"Task", [⟨"id", .varchar, false⟩, ⟨"done", .boolean, true⟩],
        [[.text "007", .boolean true]]⟩] := by
    decide +kernel
  have deleted : deleteRecord textAffinity.toSqliteEngine [⟨"Task", [⟨"id", .varchar, false⟩,
      ⟨"done", .boolean, true⟩], [[.text "007", .boolean true]]⟩] "Task" "007" =
        .error (.objectDoesNotExist "Record with id 7 does not exist") := by
    decide +kernel
  refine ⟨_, inserted, deleted, ?_⟩
  intro addresses
  cases deleted.symm.trans addresses.delete

end SqliteStore

end EventPipeline
