import EventPipeline.Foundation.Loop
import EventPipeline.Store.SqlStores

/-! # Reading back from the SQL backends

A record that has been inserted should be read back with its state. Neither backend can: what is
unpickled is the key or a column that is never read as bytes.
-/

namespace EventPipeline

def SqlValue.isScalar : SqlValue → Bool
  | .boolean _ | .integer _ | .real _ _ | .text _ => true
  | .none | .bytes _ | .dict _ | .object _ => false

/-- The two backends, with their databases. -/
inductive SqlBackend
  | sqlite (engine : SqliteEngine)
  | postgres (engine : PostgresEngine)

namespace SqlBackend

variable {Record State : Type} (pickle : StatePickle State) (klass : SqlRecordClass Record State)

def insertRecord (backend : SqlBackend) (database : StoreDatabase)
    (schemaName recordKey : String) (record : Record) : Except SqlStoreError StoreDatabase :=
  match backend with
  | .sqlite engine => SqliteStore.insertRecord klass engine database schemaName recordKey record
  | .postgres engine =>
      PostgresStore.insertRecord klass engine database schemaName recordKey record

def updateRecord (backend : SqlBackend) (database : StoreDatabase)
    (schemaName recordKey : String) (record : Record) : Except SqlStoreError StoreDatabase :=
  match backend with
  | .sqlite engine =>
      SqliteStore.updateRecord pickle klass engine database schemaName recordKey record
  | .postgres engine =>
      PostgresStore.updateRecord klass engine database schemaName recordKey record

def getRecord (backend : SqlBackend) (database : StoreDatabase) (schemaName recordKey : String) :
    Except SqlStoreError Record :=
  match backend with
  | .sqlite engine => SqliteStore.getRecord pickle klass engine database schemaName recordKey
  | .postgres engine => PostgresStore.getRecord pickle klass engine database schemaName recordKey

def reloadRecord (backend : SqlBackend) (database : StoreDatabase) (schemaName : String)
    (record : Record) : Except SqlStoreError Record :=
  match backend with
  | .sqlite engine => SqliteStore.reloadRecord pickle klass engine database schemaName record
  | .postgres engine => PostgresStore.reloadRecord pickle klass engine database schemaName record

def filterRecord (backend : SqlBackend) (database : StoreDatabase) (schemaName : String)
    (filters : List (String × SqlValue)) : Except SqlStoreError (List Record) :=
  match backend with
  | .sqlite engine => SqliteStore.filterRecord pickle klass engine database schemaName filters
  | .postgres engine => PostgresStore.filterRecord pickle klass engine database schemaName filters

def columnType (backend : SqlBackend) (field : AnnotatedField) : SqlType :=
  match backend with
  | .sqlite _ => SqliteStore.mapTypes field.type
  | .postgres _ => PostgresStore.mapTypes field.type

def keep (backend : SqlBackend) : SqlType → SqlValue → Option SqlValue :=
  match backend with
  | .sqlite engine => engine.keep
  | .postgres engine => engine.keep

/-- The database can store the attributes of the record. -/
def Storable (backend : SqlBackend) (record : Record) : Prop :=
  ∀ field ∈ klass.annotations, ∃ value,
    OrderedDict.get field.name (klass.dict record) = some value ∧
      (backend.keep (backend.columnType field) value.bound).isSome = true

/-- The record is read back, reloaded and found by each of its scalar attributes. -/
structure ReadsBackAs (backend : SqlBackend) (database : StoreDatabase)
    (schemaName recordKey : String) (record : Record) : Prop where
  get : ∃ loaded, backend.getRecord pickle klass database schemaName recordKey = .ok loaded ∧
    klass.getState loaded = klass.getState record
  reload : ∃ reloaded, backend.reloadRecord pickle klass database schemaName record =
      .ok reloaded ∧ klass.getState reloaded = klass.getState record
  filter : ∀ field ∈ klass.annotations, ∀ value,
    OrderedDict.get field.name (klass.dict record) = some value →
      value.isScalar = true →
        ∃ found, backend.filterRecord pickle klass database schemaName
            [(field.name, value)] = .ok found ∧
          ∃ loaded ∈ found, klass.getState loaded = klass.getState record

/-- A record that is inserted into a new database is read back, and so is every record that it is
then updated to. -/
def ReadsBack (backend : SqlBackend) (schemaName recordKey : String) (record : Record) : Prop :=
  ∃ stored, backend.insertRecord klass [] schemaName recordKey record = .ok stored ∧
    backend.ReadsBackAs pickle klass stored schemaName recordKey record ∧
    ∀ later, backend.Storable klass later →
      ∃ updated, backend.updateRecord pickle klass stored schemaName recordKey later =
          .ok updated ∧
        backend.ReadsBackAs pickle klass updated schemaName recordKey later

end SqlBackend

section Loading

variable {Record State : Type} {pickle : StatePickle State} {klass : SqlRecordClass Record State}

theorem orSqlOperationError_eq_ok {Value : Type} {message : String}
    {result : Except SqlError Value} {value : Value}
    (done : orSqlOperationError message result = .ok value) : result = .ok value := by
  cases result with
  | error error => cases done
  | ok other =>
      obtain rfl : other = value := Except.ok.inj done
      rfl

theorem loadRecord_eq_ok {value : SqlValue} {record : Record}
    (loaded : loadRecord pickle klass value = .ok record) : ∃ data, value = .bytes data := by
  cases value with
  | bytes data => exact ⟨data, rfl⟩
  | none => cases loaded
  | boolean value => cases loaded
  | integer value => cases loaded
  | real numerator denominator => cases loaded
  | text value => cases loaded
  | dict shown => cases loaded
  | object className => cases loaded

theorem mem_recordData (recordKey : SqlValue) (record : Record) :
    ("id", recordKey) ∈ recordData klass recordKey record := by
  rw [recordData, List.mem_filter]
  constructor
  · apply OrderedDict.mem_of_get
    rw [OrderedDict.get_insert, if_pos rfl]
  · simp

theorem runStatement_eq_ok {Table Value : Type} {message : String}
    {compiled : Except SqlError Table} {parameters : List SqlValue}
    {result : Except SqlError Value} {value : Value}
    (done : SqliteStore.runStatement message compiled parameters result = .ok value) :
    result = .ok value := by
  cases compiled with
  | error error => cases done
  | ok table =>
      cases bound : parameters.forM SqliteStore.bindParameter with
      | error error =>
          simp only [SqliteStore.runStatement, orSqlOperationError, bound, bind,
            Except.bind] at done
          cases done
      | ok _ =>
          simp only [SqliteStore.runStatement, orSqlOperationError, bound, bind,
            Except.bind] at done
          exact orSqlOperationError_eq_ok done

theorem store_of_created {schemaName : String} {key : SqlColumn SqlType}
    {columns : List (SqlColumn SqlType)} {whileCreating : String} {known : StoreDatabase → Bool}
    {duplicate : SqlStoreError} {store : StoreDatabase → Except SqlStoreError StoreDatabase}
    {stored : StoreDatabase}
    (inserted : (do
      let database ← orSqlOperationError whileCreating
        (SqlDatabase.createTable [] schemaName key columns)
      if known database then throw duplicate
      store database) = .ok stored) :
    store [⟨schemaName, key :: columns, []⟩] = .ok stored := by
  cases created : orSqlOperationError whileCreating
      (SqlDatabase.createTable [] schemaName key columns) with
  | error error =>
      rw [created] at inserted
      cases inserted
  | ok database =>
      rw [created] at inserted
      obtain rfl := SqlDatabase.createTable_eq_ok (orSqlOperationError_eq_ok created)
      simp only [bind, Except.bind] at inserted
      split at inserted
      · cases inserted
      · exact inserted

theorem newRow_of_insertRow {engine : SqlEngine SqlType SqlValue} {schemaName name : String}
    {columns : List (SqlColumn SqlType)} {assignments : List (String × SqlValue)}
    {stored : StoreDatabase}
    (inserted : SqlDatabase.insertRow engine [⟨schemaName, columns, []⟩] name "id" assignments =
      .ok stored) {table : SqlTable SqlType SqlValue} (listed : table ∈ stored)
    {row : List SqlValue} (member : row ∈ table.rows) :
    SqlTable.newRow engine ⟨schemaName, columns, []⟩ assignments = .ok row := by
  obtain ⟨-, only, added, found, made, -, rfl⟩ := SqlDatabase.insertRow_eq_ok inserted
  obtain rfl := List.mem_singleton.mp (SqlDatabase.mem_of_table? found)
  obtain ⟨before, same, rfl⟩ := List.mem_map.mp listed
  obtain rfl := List.mem_singleton.mp same
  split at member
  · obtain rfl := List.mem_singleton.mp member
    exact made
  · cases member

end Loading

/-! ## Sqlite -/

namespace SqliteStore

variable {Record State : Type} {pickle : StatePickle State} {klass : SqlRecordClass Record State}
  {engine : SqliteEngine} {schemaName recordKey : String} {record : Record}
  {stored : StoreDatabase}

theorem insertRow_of_insertRecord
    (inserted : insertRecord klass engine [] schemaName recordKey record = .ok stored) :
    SqlDatabase.insertRow engine.toSqlEngine
      [⟨schemaName, ⟨"id", .varchar, false⟩ :: klass.annotations.map fun field =>
        ⟨field.name, mapTypes field.type, !isOptional field⟩, []⟩]
      schemaName "id"
      ((recordData klass (.text recordKey) record).map fun entry => (entry.1, entry.2.bound)) =
        .ok stored := by
  have created := store_of_created inserted
  exact runStatement_eq_ok created

theorem head_of_insertRecord
    (inserted : insertRecord klass engine [] schemaName recordKey record = .ok stored)
    {table : SqlTable SqlType SqlValue} (listed : table ∈ stored) {row : List SqlValue}
    (member : row ∈ table.rows) : row.headD .none = .text recordKey := by
  have stepped := insertRow_of_insertRecord inserted
  have distinct := duplicateName_eq_none (SqlDatabase.insertRow_eq_ok stepped).1
  have made := newRow_of_insertRow stepped listed member
  have assigned : ("id", SqlValue.text recordKey) ∈
      (recordData klass (.text recordKey) record).map fun entry => (entry.1, entry.2.bound) :=
    List.mem_map.mpr ⟨_, mem_recordData (.text recordKey) record, rfl⟩
  have named := sameName_self "id"
  have found := find?_sameName distinct assigned named
  obtain ⟨kept, rest, rfl, keeps⟩ := SqlTable.head_newRow
    (show SqlTable.columns ⟨schemaName, ⟨"id", SqlType.varchar, false⟩ :: _, []⟩ = _ from rfl)
    found made
  rw [engine.keep_varchar] at keeps
  exact (Option.some.inj keeps).symm

theorem mem_rows_of_fetchRow {row : List SqlValue}
    (fetched : fetchRow engine stored schemaName recordKey = .ok row) :
    ∃ table ∈ stored, row ∈ table.rows := by
  simp only [fetchRow] at fetched
  cases selected : runStatement "Error getting record" (stored.named schemaName ["id"])
      [convertKeyType recordKey]
      (stored.selectAll engine.toSqlEngine schemaName [("id", convertKeyType recordKey)]) with
  | error error =>
      rw [selected] at fetched
      cases fetched
  | ok rows =>
      rw [selected] at fetched
      cases rows with
      | nil => cases fetched
      | cons first rest =>
          obtain rfl : first = row := Except.ok.inj fetched
          exact SqlDatabase.mem_rows_of_selectAll (runStatement_eq_ok selected)
            List.mem_cons_self

theorem not_getRecord_eq_ok
    (inserted : insertRecord klass engine [] schemaName recordKey record = .ok stored)
    (loaded : Record) :
    getRecord pickle klass engine stored schemaName recordKey ≠ .ok loaded := by
  intro read
  rw [getRecord] at read
  cases fetched : fetchRow engine stored schemaName recordKey with
  | error error =>
      rw [fetched] at read
      cases read
  | ok row =>
      rw [fetched] at read
      obtain ⟨table, listed, member⟩ := mem_rows_of_fetchRow fetched
      obtain ⟨data, bytes⟩ := loadRecord_eq_ok read
      rw [head_of_insertRecord inserted listed member] at bytes
      cases bytes

end SqliteStore

/-! ## Postgres -/

namespace PostgresStore

variable {Record State : Type} {pickle : StatePickle State} {klass : SqlRecordClass Record State}
  {engine : PostgresEngine} {schemaName recordKey : String} {record : Record}
  {stored : StoreDatabase}

theorem insertRow_of_insertRecord
    (inserted : insertRecord klass engine [] schemaName recordKey record = .ok stored) :
    SqlDatabase.insertRow engine.toSqlEngine
      [⟨schemaName, ⟨"id", .text, true⟩ :: klass.annotations.map fun field =>
        ⟨field.name, mapTypes field.type, false⟩, []⟩]
      (lowerName schemaName) "id"
      ((recordData klass (.text recordKey) record).map fun entry => (entry.1, entry.2.bound)) =
        .ok stored := by
  have created := store_of_created inserted
  exact orSqlOperationError_eq_ok created

theorem ne_bytes_of_insertRecord
    (inserted : insertRecord klass engine [] schemaName recordKey record = .ok stored)
    {table : SqlTable SqlType SqlValue} (listed : table ∈ stored) {row : List SqlValue}
    (member : row ∈ table.rows) {value : SqlValue} (held : value ∈ row) (data : List UInt8) :
    value ≠ .bytes data := by
  have made := newRow_of_insertRow (insertRow_of_insertRecord inserted) listed member
  rcases SqlTable.mem_newRow made held with null | ⟨type, given, keeps⟩
  · rw [null, engine.null_eq]
    exact SqlValue.noConfusion
  · rintro rfl
    exact engine.keep_ne_bytes type given data keeps

theorem not_getRecord_eq_ok
    (inserted : insertRecord klass engine [] schemaName recordKey record = .ok stored)
    (loaded : Record) :
    getRecord pickle klass engine stored schemaName recordKey ≠ .ok loaded := by
  intro read
  rw [getRecord] at read
  cases selected : orSqlOperationError "Error getting record"
      (stored.selectColumn engine.toSqlEngine (lowerName schemaName) "record_state"
        [("id", .text recordKey)]) with
  | error error =>
      rw [selected] at read
      cases read
  | ok values =>
      rw [selected] at read
      cases values with
      | nil => cases read
      | cons value rest =>
          obtain ⟨table, listed, row, member, held⟩ := SqlDatabase.mem_row_of_selectColumn
            (orSqlOperationError_eq_ok selected) List.mem_cons_self
          obtain ⟨data, bytes⟩ := loadRecord_eq_ok read
          exact ne_bytes_of_insertRecord inserted listed member held data bytes

end PostgresStore

/-! ## Both -/

/-- No record of any class is read back from either backend. -/
theorem not_readsBack {Record State : Type} (pickle : StatePickle State)
    (klass : SqlRecordClass Record State) (backend : SqlBackend)
    (schemaName recordKey : String) (record : Record) :
    ¬backend.ReadsBack pickle klass schemaName recordKey record := by
  rintro ⟨stored, inserted, reads, -⟩
  obtain ⟨loaded, read, -⟩ := reads.get
  cases backend with
  | sqlite engine => exact SqliteStore.not_getRecord_eq_ok inserted loaded read
  | postgres engine => exact PostgresStore.not_getRecord_eq_ok inserted loaded read

/-- A database that keeps every value but dictionaries and other objects as it is. -/
def plainSqlite : SqliteEngine where
  null := .none
  keep := fun _ value =>
    match value with
    | .dict _ | .object _ => none
    | value => some value
  equals := fun _ stored given => stored = given
  null_eq := rfl
  keep_varchar := fun _ => rfl

/-- A database in which each column takes the values of its own type. -/
def plainPostgres : PostgresEngine where
  null := .none
  keep := fun type value =>
    match type, value with
    | _, .none => some .none
    | .boolean, .boolean flag => some (.boolean flag)
    | .integer, .integer number => some (.integer number)
    | .real, .real numerator denominator => some (.real numerator denominator)
    | .text, .text characters => some (.text characters)
    | _, _ => none
  equals := fun _ stored given => stored = given
  null_eq := rfl
  keep_ne_bytes := by
    intro type value bytes
    cases type <;> cases value <;> simp

/-- `class Task: done: bool`, with the attribute as its state. -/
def taskClass : SqlRecordClass Bool Bool where
  annotations := [⟨"done", .bool, "type", false⟩]
  id := fun _ => "Task-1"
  dict := fun done => [("done", .boolean done), ("_id", .text "Task-1"),
    ("_backend", .object "type")]
  getState := fun done => done
  setState := fun _ done => done
  new := false

def flagPickle : StatePickle Bool where
  dumps := fun done => [if done then 1 else 0]
  loads := fun data => if data = [1] then some true else if data = [0] then some false else none
  loads_dumps := by decide

/-- A task is inserted, and is not read back: Sqlite gives its key, which is no pickle, and
Postgres has no column for its state. -/
theorem not_readsBack_task :
    (SqlBackend.sqlite plainSqlite).Storable taskClass true ∧
      (∃ stored, SqliteStore.insertRecord taskClass plainSqlite [] "Task" "Task-1" true =
          .ok stored ∧
        SqliteStore.getRecord flagPickle taskClass plainSqlite stored "Task" "Task-1" =
          .error (.typeError "a bytes-like object is required")) ∧
      (∃ stored, PostgresStore.insertRecord taskClass plainPostgres [] "Task" "Task-1" true =
          .ok stored ∧
        PostgresStore.getRecord flagPickle taskClass plainPostgres stored "Task" "Task-1" =
          .error (.sqlOperationError "Error getting record" (.noSuchColumn "record_state"))) ∧
      ¬(SqlBackend.sqlite plainSqlite).ReadsBack flagPickle taskClass "Task" "Task-1" true := by
  have inSqlite : SqliteStore.insertRecord taskClass plainSqlite [] "Task" "Task-1" true =
      .ok [⟨"Task", [⟨"id", .varchar, false⟩, ⟨"done", .boolean, true⟩],
        [[.text "Task-1", .boolean true]]⟩] := by
    decide +kernel
  have inPostgres : PostgresStore.insertRecord taskClass plainPostgres [] "Task" "Task-1" true =
      .ok [⟨"Task", [⟨"id", .text, true⟩, ⟨"done", .boolean, false⟩],
        [[.text "Task-1", .boolean true]]⟩] := by
    decide +kernel
  refine ⟨?_, ⟨_, inSqlite, ?_⟩, ⟨_, inPostgres, ?_⟩, ?_⟩
  · intro field member
    obtain rfl := List.mem_singleton.mp member
    exact ⟨.boolean true, rfl, rfl⟩
  · decide +kernel
  · decide +kernel
  · rintro ⟨stored, inserted, reads, -⟩
    obtain ⟨loaded, read, -⟩ := reads.get
    exact SqliteStore.not_getRecord_eq_ok inserted loaded read

end EventPipeline
