import EventPipeline.Foundation.OrderedDict
import EventPipeline.Foundation.SqlTable
import EventPipeline.Parser.Lexer

/-! # Sqlite and Postgres backends

Both backends make a table with one column for each annotated field of the record class, and store
the attributes of a record in it. The connection is open all the time. The names of schemas and
attributes are taken to be names that may stand in a statement.
-/

namespace EventPipeline

/-- A value of an attribute, as far as the databases tell them apart. A dictionary is given by its
`str()`, and any other object by the name of its class. -/
inductive SqlValue
  | none
  | boolean (value : Bool)
  | integer (value : Int)
  | real (numerator : Int) (denominator : Nat)
  | text (value : String)
  | bytes (value : List UInt8)
  | dict (shown : String)
  | object (className : String)
deriving DecidableEq, Repr

/-- `get_type` of an annotated field. -/
inductive AnnotatedType
  | bool
  | int
  | float
  | str
  | any
  | other
deriving DecidableEq, Repr

/-- An annotated field with the name of its class, and whether `None` is among its arguments. -/
structure AnnotatedField where
  name : String
  type : AnnotatedType
  className : String
  allowsNone : Bool
deriving DecidableEq, Repr

/-- A class of records. -/
structure SqlRecordClass (Record State : Type) where
  annotations : List AnnotatedField
  id : Record → String
  /-- `__dict__` -/
  dict : Record → List (String × SqlValue)
  /-- `__getstate__` -/
  getState : Record → State
  /-- `__setstate__` -/
  setState : Record → State → Record
  /-- `klass.__new__(klass)` -/
  new : Record

/-- `pickle` for states. -/
structure StatePickle (State : Type) where
  dumps : State → List UInt8
  /-- `none` stands for bytes that are no pickle. -/
  loads : List UInt8 → Option State
  loads_dumps : ∀ state, loads (dumps state) = some state

inductive SqlStoreError
  | objectExistError (message : String)
  | objectDoesNotExist (message : String)
  | sqlOperationError (message : String) (cause : SqlError)
  | typeError (message : String)
  | overflowError (message : String)
  | unboundLocalError (message : String)
  | raised (exceptionClass : String)
  | unpicklingError
deriving DecidableEq, Repr

inductive SqlType
  | boolean
  | integer
  | real
  | varchar
  | text
  | json
deriving DecidableEq, Repr

/-- Sqlite. A column of the type `VARCHAR` keeps a text as it is. -/
structure SqliteEngine extends SqlEngine SqlType SqlValue where
  null_eq : null = .none
  keep_varchar : ∀ value, keep .varchar (.text value) = some (.text value)

/-- Postgres. The type of a column decides the type of what is read from it, and none of the types
in use is read as bytes. -/
structure PostgresEngine extends SqlEngine SqlType SqlValue where
  null_eq : null = .none
  keep_ne_bytes : ∀ type value bytes, keep type value ≠ some (.bytes bytes)

abbrev StoreDatabase := SqlDatabase SqlType SqlValue

/-- A database error is raised anew with a message. -/
def orSqlOperationError {Value : Type} (message : String) :
    Except SqlError Value → Except SqlStoreError Value
  | .ok value => .ok value
  | .error error => .error (.sqlOperationError message error)

/-- `str(value) if type(value) == dict else value` -/
def SqlValue.bound : SqlValue → SqlValue
  | .dict shown => .text shown
  | value => value

section Records

variable {Record State : Type} (pickle : StatePickle State) (klass : SqlRecordClass Record State)

/-- `pickle.loads(value)` -/
def StatePickle.loadsValue (value : SqlValue) : Except SqlStoreError State :=
  match value with
  | .bytes data =>
      match pickle.loads data with
      | none => .error .unpicklingError
      | some state => .ok state
  | _ => .error (.typeError "a bytes-like object is required")

def loadRecord (recordState : SqlValue) : Except SqlStoreError Record := do
  let state ← pickle.loadsValue recordState
  return klass.setState klass.new state

/-- The attributes that are inserted: the key in the place of `_id`, and without the backend. -/
def recordData (recordKey : SqlValue) (record : Record) : List (String × SqlValue) :=
  (OrderedDict.insert "id" recordKey (klass.dict record)).filter
    fun entry => entry.1 ≠ "_id" ∧ entry.1 ≠ "_backend"

/-! ## Sqlite -/

namespace SqliteStore

def mapTypes : AnnotatedType → SqlType
  | .bool => .boolean
  | .int => .integer
  | .float => .real
  | .str => .varchar
  | .any | .other => .json

def isOptional (field : AnnotatedField) : Bool :=
  field.className = "_UnionType" ∧ field.allowsNone

def checkIfSchemaExists (database : StoreDatabase) (schemaName : String) : Bool :=
  database.any fun table => table.name = schemaName

/-- The blanks that `int` skips at both ends of a text. -/
def isBlank (char : Char) : Bool :=
  [0x09, 0x0A, 0x0B, 0x0C, 0x0D, 0x20, 0x85, 0xA0, 0x1680, 0x2028, 0x2029, 0x202F, 0x205F,
    0x3000].contains char.toNat || (0x2000 ≤ char.toNat && char.toNat ≤ 0x200A)

/-- An integer literal without its sign: groups of digits that single underscores separate. -/
def parseDigits (text : List Char) : Option Int :=
  let groups := text.splitOn '_'
  if groups.all fun group => group ≠ [] ∧ group.all Parser.isDigit then
    (Parser.int groups.flatten).toOption.map Int.ofNat
  else none

/-- `int(text)`; `none` stands for a `ValueError`. -/
def parseInt (text : String) : Option Int :=
  let unspaced := text.toList.dropWhile isBlank
  match (unspaced.reverse.dropWhile isBlank).reverse with
  | '-' :: rest => (parseDigits rest).map Int.neg
  | '+' :: rest => parseDigits rest
  | rest => parseDigits rest

def convertKeyType (recordKey : String) : SqlValue :=
  match parseInt recordKey with
  | some number => .integer number
  | none => .text recordKey

/-- The converted key in a message. -/
def shownKey (recordKey : String) : String :=
  match parseInt recordKey with
  | some number => toString number
  | none => recordKey

def fitsInteger (number : Int) : Bool :=
  -9223372036854775808 ≤ number && number < 9223372036854775808

/-- Integers of more than 64 bits cannot be bound, which is no database error. -/
def bindParameter : SqlValue → Except SqlStoreError Unit
  | .integer number =>
      if fitsInteger number then .ok ()
      else .error (.overflowError "Python int too large to convert to SQLite INTEGER")
  | _ => .ok ()

def runStatement {Table Value : Type} (message : String) (compiled : Except SqlError Table)
    (parameters : List SqlValue) (result : Except SqlError Value) : Except SqlStoreError Value := do
  let _ ← orSqlOperationError message compiled
  parameters.forM bindParameter
  orSqlOperationError message result

def createSchema (database : StoreDatabase) (schemaName : String) :
    Except SqlStoreError StoreDatabase :=
  if checkIfSchemaExists database schemaName then
    .error (.objectExistError ("Schema '" ++ schemaName ++ "' already exists."))
  else
    orSqlOperationError ("Error creating schema '" ++ schemaName ++ "'")
      (database.createTable schemaName ⟨"id", .varchar, false⟩
        (klass.annotations.map fun field =>
          ⟨field.name, mapTypes field.type, !isOptional field⟩))

variable (engine : SqliteEngine)

/-- Any error means that the record does not exist. -/
def «exists» (database : StoreDatabase) (schemaName recordId : String) : Bool :=
  match database.selectAll engine.toSqlEngine schemaName [("id", .text recordId)] with
  | .ok rows => !rows.isEmpty
  | .error _ => false

def insertRecord (database : StoreDatabase) (schemaName recordKey : String) (record : Record) :
    Except SqlStoreError StoreDatabase := do
  let database ←
    if checkIfSchemaExists database schemaName then pure database
    else createSchema klass database schemaName
  if «exists» engine database schemaName recordKey then
    throw (.objectExistError
      ("Record with id " ++ recordKey ++ " already exists in table '" ++ schemaName ++ "'"))
  let data := (recordData klass (.text recordKey) record).map fun entry => (entry.1, entry.2.bound)
  runStatement "Error inserting record" (database.named schemaName (data.map Prod.fst))
    (data.map Prod.snd) (database.insertRow engine.toSqlEngine schemaName "id" data)

/-- The attributes that are updated. Neither `_id` nor `_backend` is left out, and a pickled state
is added. -/
def updateData (recordKey : String) (record : Record) : List (String × SqlValue) :=
  OrderedDict.insert "record_state" (.bytes (pickle.dumps (klass.getState record)))
    (OrderedDict.insert "id" (convertKeyType recordKey) (klass.dict record))

def updateRecord (database : StoreDatabase) (schemaName recordKey : String) (record : Record) :
    Except SqlStoreError StoreDatabase :=
  let data := updateData pickle klass recordKey record
  runStatement "Error updating record" (database.named schemaName (data.map Prod.fst))
    (data.map Prod.snd)
    (database.upsertRow engine.toSqlEngine schemaName "id" data
      (data.filter fun entry => entry.1 ≠ "id") [("id", convertKeyType recordKey)])

def deleteRecord (database : StoreDatabase) (schemaName recordKey : String) :
    Except SqlStoreError StoreDatabase := do
  let key := convertKeyType recordKey
  let (database, rowcount) ← runStatement "Error deleting record"
    (database.named schemaName ["id"]) [key]
    (database.deleteRows engine.toSqlEngine schemaName [("id", key)])
  if rowcount = 0 then
    throw (.objectDoesNotExist ("Record with id " ++ shownKey recordKey ++ " does not exist"))
  return database

/-- The row that `get_record` fetches. -/
def fetchRow (database : StoreDatabase) (schemaName recordKey : String) :
    Except SqlStoreError (List SqlValue) := do
  let key := convertKeyType recordKey
  let rows ← runStatement "Error getting record" (database.named schemaName ["id"]) [key]
    (database.selectAll engine.toSqlEngine schemaName [("id", key)])
  match rows with
  | [] =>
      throw (.objectDoesNotExist ("Record with key " ++ shownKey recordKey ++
        " does not exist in schema '" ++ schemaName ++ "'"))
  | row :: _ => return row

/-- The first column of the row is loaded. -/
def getRecord (database : StoreDatabase) (schemaName recordKey : String) :
    Except SqlStoreError Record := do
  let row ← fetchRow engine database schemaName recordKey
  loadRecord pickle klass (row.headD .none)

def reloadRecord (database : StoreDatabase) (schemaName : String) (record : Record) :
    Except SqlStoreError Record := do
  let key := convertKeyType (klass.id record)
  let rows ← runStatement "Error reloading record"
    (database.named schemaName ["record_state", "id"]) [key]
    (database.selectColumn engine.toSqlEngine schemaName "record_state" [("id", key)])
  match rows with
  | [] =>
      throw (.objectDoesNotExist ("Record with id " ++ shownKey (klass.id record) ++
        " does not exist in schema '" ++ schemaName ++ "'"))
  | state :: _ =>
      let state ← pickle.loadsValue state
      return klass.setState record state

/-- A filter by equality on one or more attributes, without operators. Each row is loaded as a
whole, and a row is a tuple. -/
def filterRecord (database : StoreDatabase) (schemaName : String)
    (filters : List (String × SqlValue)) : Except SqlStoreError (List Record) := do
  if !checkIfSchemaExists database schemaName then
    throw (.objectDoesNotExist ("Schema '" ++ schemaName ++ "' does not exist"))
  let rows ← runStatement "Error filtering records"
    (database.named schemaName (filters.map Prod.fst)) (filters.map Prod.snd)
    (database.selectAll engine.toSqlEngine schemaName filters)
  rows.mapM fun _ => loadRecord pickle klass (.object "tuple")

end SqliteStore

/-! ## Postgres -/

namespace PostgresStore

def mapTypes : AnnotatedType → SqlType
  | .bool => .boolean
  | .int => .integer
  | .float => .real
  | .str | .any | .other => .text

def checkIfSchemaExists (database : StoreDatabase) (schemaName : String) : Bool :=
  database.any fun table => sameName table.name schemaName

def createSchema (database : StoreDatabase) (schemaName : String) :
    Except SqlStoreError StoreDatabase :=
  if checkIfSchemaExists database schemaName then
    .error (.objectExistError ("Schema '" ++ schemaName ++ "' already exists."))
  else
    orSqlOperationError ("Error creating schema '" ++ schemaName ++ "'")
      (database.createTable schemaName ⟨"id", .text, true⟩
        (klass.annotations.map fun field =>
          ⟨field.name, mapTypes field.type, false⟩))

variable (engine : PostgresEngine)

def «exists» (database : StoreDatabase) (schemaName recordKey : String) : Bool :=
  match database.selectAll engine.toSqlEngine schemaName [("id", .text recordKey)] with
  | .ok rows => !rows.isEmpty
  | .error _ => false

def insertRecord (database : StoreDatabase) (schemaName recordKey : String) (record : Record) :
    Except SqlStoreError StoreDatabase := do
  let database ←
    if checkIfSchemaExists database schemaName then pure database
    else createSchema klass database schemaName
  if «exists» engine database schemaName recordKey then
    throw (.objectExistError
      ("Record with id " ++ recordKey ++ " already exists in table '" ++ schemaName ++ "'"))
  orSqlOperationError "Error inserting record"
    (database.insertRow engine.toSqlEngine (lowerName schemaName) "id"
      ((recordData klass (.text recordKey) record).map fun entry => (entry.1, entry.2.bound)))

def updateRecord (database : StoreDatabase) (schemaName recordKey : String) (record : Record) :
    Except SqlStoreError StoreDatabase := do
  let data := (recordData klass (.text recordKey) record).map fun entry =>
    (entry.1, entry.2.bound)
  let updated ← orSqlOperationError "Error updating record"
    (database.updateRows engine.toSqlEngine (lowerName schemaName)
      (data.filter fun entry => entry.1 ≠ "id") [("id", .text recordKey)])
  if updated.2 = 0 then
    throw (.objectDoesNotExist ("Record with id " ++ recordKey ++ " does not exist"))
  return updated.1

/-- A column that no schema declares is selected. -/
def getRecord (database : StoreDatabase) (schemaName recordKey : String) :
    Except SqlStoreError Record := do
  let rows ← orSqlOperationError "Error getting record"
    (database.selectColumn engine.toSqlEngine (lowerName schemaName) "record_state"
      [("id", .text recordKey)])
  match rows with
  | [] =>
      throw (.objectDoesNotExist
        ("Record with key " ++ recordKey ++ " does not exist in schema '" ++ schemaName ++ "'"))
  | state :: _ => loadRecord pickle klass state

def reloadRecord (database : StoreDatabase) (schemaName : String) (record : Record) :
    Except SqlStoreError Record := do
  let rows ← orSqlOperationError "Error reloading record"
    (database.selectColumn engine.toSqlEngine (lowerName schemaName) "record_state"
      [("id", .text (klass.id record))])
  match rows with
  | [] =>
      throw (.objectDoesNotExist ("Record with id " ++ klass.id record ++
        " does not exist in schema '" ++ schemaName ++ "'"))
  | state :: _ =>
      let state ← pickle.loadsValue state
      return klass.setState record state

/-- A filter on plain attributes. -/
def filterRecord (database : StoreDatabase) (schemaName : String)
    (filters : List (String × SqlValue)) : Except SqlStoreError (List Record) := do
  if !checkIfSchemaExists database schemaName then
    throw (.objectDoesNotExist ("Schema '" ++ schemaName ++ "' does not exist"))
  let rows ← orSqlOperationError "Error filtering records"
    (database.selectColumn engine.toSqlEngine (lowerName schemaName) "record_state" filters)
  rows.mapM (loadRecord pickle klass)

end PostgresStore

end Records

end EventPipeline
