import EventPipeline.Foundation.OrderedDict
import EventPipeline.Foundation.SharedServer
import Mathlib.Logic.Function.Basic

/-! # Key-value store backends

The in-memory backend keeps the records themselves in nested dictionaries. The Redis backend keeps
the pickled state of each record as a field of the hash of its schema, and asks whether a field
exists before it uses it. The server is connected all the time.
-/

namespace EventPipeline

/-- The classes of records, as far as the backends use them, and `pickle` for their states. -/
structure RecordClasses (Key Record Klass State Data Value : Type) where
  id : Record → Key
  getState : Record → State
  /-- `__setstate__`. -/
  setState : Record → State → Record
  /-- `klass.__new__(klass)`. -/
  new : Klass → Record
  /-- `none` stands for an attribute that the record does not have. -/
  getattr : Record → String → Option Value
  dumps : State → Data
  loads : Data → State
  /-- Pickling the state of a record round-trips. -/
  loads_dumps : ∀ state, loads (dumps state) = state

inductive StoreError
  | objectExistError (message : String)
  | objectDoesNotExist (message : String)
  | keyError (key : String)
  | typeError (message : String)
deriving DecidableEq, Repr

/-- What an operation returns or raises. `nothing` is `None`. -/
inductive StoreOutcome (Record : Type)
  | nothing
  | boolean (answer : Bool)
  | number (count : Nat)
  | record (record : Record)
  | records (records : List Record)
  | raised (error : StoreError)

inductive RecordOperation (Key Record Klass : Type)
  | insertRecord (schemaName : String) (recordKey : Key) (record : Record)
  | updateRecord (schemaName : String) (recordKey : Key) (record : Record)
  | deleteRecord (schemaName : String) (recordKey : Key)
  | getRecord (schemaName : String) (klass : Klass) (recordKey : Key)

inductive StoreOperation (Key Record Klass Value : Type)
  | keyed (operation : RecordOperation Key Record Klass)
  | «exists» (schemaName : String) (recordKey : Key)
  | count (schemaName : String)
  | filterRecord (schemaName : String) (recordKlass : Klass) (filters : List (String × Value))

def recordDoesNotExist (schemaName : String) : StoreError :=
  .objectDoesNotExist ("Record does not exist in schema '" ++ schemaName ++ "'")

def recordExists (schemaName : String) : StoreError :=
  .objectExistError ("Record already exists in schema '" ++ schemaName ++ "'")

section Records

variable {Key Record Klass State Data Value : Type} [DecidableEq Value]
  (classes : RecordClasses Key Record Klass State Data Value)

def matchRecord (filters : List (String × Value)) (record : Record) : Bool :=
  filters.all fun filter => classes.getattr record filter.1 = some filter.2

end Records

/-! ## In memory -/

/-- `_memory`: schemas, and the records of each. -/
abbrev Memory (Key Record : Type) := List (String × List (Key × Record))

namespace InMemoryStore

variable {Key Record Klass State Data Value : Type} [DecidableEq Key]

def find (memory : Memory Key Record) (schemaName : String) (recordKey : Key) :
    Option Record :=
  (OrderedDict.get schemaName memory).bind (OrderedDict.get recordKey)

/-- Both `insert_record` and `update_record`. -/
def put (memory : Memory Key Record) (schemaName : String) (recordKey : Key)
    (record : Record) : Memory Key Record :=
  let records := (OrderedDict.get schemaName memory).getD []
  OrderedDict.insert schemaName (OrderedDict.insert recordKey record records) memory

def deleteRecord (memory : Memory Key Record) (schemaName : String) (recordKey : Key) :
    Memory Key Record × StoreOutcome Record :=
  match find memory schemaName recordKey with
  | none => (memory, .raised (recordDoesNotExist schemaName))
  | some _ =>
      let records := (OrderedDict.get schemaName memory).getD []
      (OrderedDict.insert schemaName (records.filter fun entry => entry.1 ≠ recordKey) memory,
        .nothing)

def getRecord (memory : Memory Key Record) (schemaName : String) (recordKey : Key) :
    StoreOutcome Record :=
  match find memory schemaName recordKey with
  | none => .raised (recordDoesNotExist schemaName)
  | some record => .record record

def count (memory : Memory Key Record) (schemaName : String) : StoreOutcome Record :=
  match OrderedDict.get schemaName memory with
  | none => .raised (.keyError schemaName)
  | some records => .number records.length

def filterRecord (memory : Memory Key Record) (schemaName : String)
    (matchFunc : Record → Bool) : StoreOutcome Record :=
  match OrderedDict.get schemaName memory with
  | none =>
      .raised (.objectDoesNotExist ("Schema '" ++ schemaName ++ "' does not exists"))
  | some records => .records ((records.map Prod.snd).filter matchFunc)

def execute [DecidableEq Value] (classes : RecordClasses Key Record Klass State Data Value)
    (memory : Memory Key Record) :
    StoreOperation Key Record Klass Value → Memory Key Record × StoreOutcome Record
  | .keyed (.insertRecord schemaName recordKey record)
  | .keyed (.updateRecord schemaName recordKey record) =>
      (put memory schemaName recordKey record, .nothing)
  | .keyed (.deleteRecord schemaName recordKey) => deleteRecord memory schemaName recordKey
  | .keyed (.getRecord schemaName _ recordKey) =>
      (memory, getRecord memory schemaName recordKey)
  | .exists schemaName recordKey =>
      (memory, .boolean (find memory schemaName recordKey).isSome)
  | .count schemaName => (memory, count memory schemaName)
  | .filterRecord schemaName _ filters =>
      (memory, filterRecord memory schemaName (matchRecord classes filters))

end InMemoryStore

/-! ## Redis -/

/-- The hashes of the server. A hash that does not exist has no fields. -/
abbrev Redis (Key Data : Type) := String → List (Key × Data)

inductive RedisCommand (Key Data : Type)
  | hexists (name : String) (key : Key)
  | hlen (name : String)
  | hset (name : String) (key : Key) (value : Data)
  | hdel (name : String) (key : Key)
  | hget (name : String) (key : Key)
  | hscan (name : String)

/-- `pages` are the answers to `hscan` until the cursor is zero. -/
inductive RedisReply (Key Data : Type)
  | boolean (answer : Bool)
  | number (count : Nat)
  | value (value : Option Data)
  | pages (pages : List (List (Key × Data)))

/-- How the server cuts a hash into pages: every field comes once. -/
structure Scan (Key Data : Type) where
  pages : List (Key × Data) → List (List (Key × Data))
  complete : ∀ hash, (pages hash).flatten.Perm hash

/-- The server executes a command, or the commands of a `MULTI` block. -/
def Redis.exec {Key Data : Type} [DecidableEq Key] (scan : Scan Key Data)
    (redis : Redis Key Data) :
    RedisCommand Key Data → Redis Key Data × RedisReply Key Data
  | .hexists name key => (redis, .boolean (OrderedDict.get key (redis name)).isSome)
  | .hlen name => (redis, .number (redis name).length)
  | .hset name key value =>
      (Function.update redis name (OrderedDict.insert key value (redis name)),
        .number (if (OrderedDict.get key (redis name)).isSome then 0 else 1))
  | .hdel name key =>
      (Function.update redis name ((redis name).filter fun entry => entry.1 ≠ key),
        .number (if (OrderedDict.get key (redis name)).isSome then 1 else 0))
  | .hget name key => (redis, .value (OrderedDict.get key (redis name)))
  | .hscan name => (redis, .pages (scan.pages (redis name)))

namespace RedisStore

variable {Key Record Klass State Data Value : Type}
  (classes : RecordClasses Key Record Klass State Data Value)

abbrev RedisProgram (Key Record Data : Type) :=
  Program (RedisCommand Key Data) (RedisReply Key Data) (StoreOutcome Record)

def loadRecord (recordState : Data) (recordKlass : Klass) : Record :=
  classes.setState (classes.new recordKlass) (classes.loads recordState)

/-- `exists`, and what is done with its answer. -/
def checkExists (schemaName : String) (recordKey : Key)
    (next : Bool → RedisProgram Key Record Data) : RedisProgram Key Record Data :=
  .send (.hexists schemaName recordKey) fun
    | .boolean answer => next answer
    | _ => next false

def hset (schemaName : String) (recordKey : Key) (record : Record) :
    RedisProgram Key Record Data :=
  .send (.hset schemaName recordKey (classes.dumps (classes.getState record)))
    fun _ => .done .nothing

def hdel (schemaName : String) (recordKey : Key) : RedisProgram Key Record Data :=
  .send (.hdel schemaName recordKey) fun _ => .done .nothing

/-- `hget`, and what is made of the data. `pickle.loads(None)` raises. -/
def hget (schemaName : String) (recordKey : Key) (load : Data → Record) :
    RedisProgram Key Record Data :=
  .send (.hget schemaName recordKey) fun
    | .value (some data) => .done (.record (load data))
    | _ => .done (.raised (.typeError "a bytes-like object is required, not 'NoneType'"))

def insertRecord (schemaName : String) (recordKey : Key) (record : Record) :
    RedisProgram Key Record Data :=
  checkExists schemaName recordKey fun present =>
    if present then .done (.raised (recordExists schemaName))
    else hset classes schemaName recordKey record

/-- The operations that raise when the record does not exist. -/
def requireRecord (schemaName : String) (recordKey : Key)
    (next : RedisProgram Key Record Data) : RedisProgram Key Record Data :=
  checkExists schemaName recordKey fun present =>
    if present then next else .done (.raised (recordDoesNotExist schemaName))

def updateRecord (schemaName : String) (recordKey : Key) (record : Record) :
    RedisProgram Key Record Data :=
  requireRecord schemaName recordKey (hset classes schemaName recordKey record)

def deleteRecord (schemaName : String) (recordKey : Key) : RedisProgram Key Record Data :=
  requireRecord schemaName recordKey (hdel schemaName recordKey)

def getRecord (schemaName : String) (klass : Klass) (recordKey : Key) :
    RedisProgram Key Record Data :=
  requireRecord schemaName recordKey
    (hget schemaName recordKey fun data => loadRecord classes data klass)

/-- The record afterwards is returned. -/
def reloadRecord (schemaName : String) (record : Record) : RedisProgram Key Record Data :=
  requireRecord schemaName (classes.id record)
    (hget schemaName (classes.id record) fun data =>
      classes.setState record (classes.loads data))

def count (schemaName : String) : RedisProgram Key Record Data :=
  .send (.hlen schemaName) fun
    | .number count => .done (.number count)
    | _ => .done (.number 0)

def filterRecord (schemaName : String) (recordKlass : Klass) (matchFunc : Record → Bool) :
    RedisProgram Key Record Data :=
  .send (.hscan schemaName) fun
    | .pages pages =>
        .done (.records (pages.flatMap fun page =>
          (page.map fun entry => loadRecord classes entry.2 recordKlass).filter matchFunc))
    | _ => .done (.records [])

def keyedProgram : RecordOperation Key Record Klass → RedisProgram Key Record Data
  | .insertRecord schemaName recordKey record =>
      insertRecord classes schemaName recordKey record
  | .updateRecord schemaName recordKey record =>
      updateRecord classes schemaName recordKey record
  | .deleteRecord schemaName recordKey => deleteRecord schemaName recordKey
  | .getRecord schemaName klass recordKey => getRecord classes schemaName klass recordKey

def program [DecidableEq Value] :
    StoreOperation Key Record Klass Value → RedisProgram Key Record Data
  | .keyed operation => keyedProgram classes operation
  | .exists schemaName recordKey =>
      checkExists schemaName recordKey fun present => .done (.boolean present)
  | .count schemaName => count schemaName
  | .filterRecord schemaName recordKlass filters =>
      filterRecord classes schemaName recordKlass (matchRecord classes filters)

/-! ### Undisturbed runs -/

section Run

variable [DecidableEq Key] (scan : Scan Key Data) (redis : Redis Key Data)

theorem run_insertRecord (schemaName : String) (recordKey : Key) (record : Record) :
    (insertRecord classes schemaName recordKey record).run (Redis.exec scan) redis =
      match OrderedDict.get recordKey (redis schemaName) with
      | some _ => (redis, .raised (recordExists schemaName))
      | none =>
          (Function.update redis schemaName (OrderedDict.insert recordKey
            (classes.dumps (classes.getState record)) (redis schemaName)), .nothing) := by
  simp only [insertRecord, checkExists, Program.run, Redis.exec]
  cases OrderedDict.get recordKey (redis schemaName) <;> rfl

theorem run_requireRecord (schemaName : String) (recordKey : Key)
    (next : RedisProgram Key Record Data) :
    (requireRecord schemaName recordKey next).run (Redis.exec scan) redis =
      match OrderedDict.get recordKey (redis schemaName) with
      | some _ => next.run (Redis.exec scan) redis
      | none => (redis, .raised (recordDoesNotExist schemaName)) := by
  simp only [requireRecord, checkExists, Program.run, Redis.exec]
  cases OrderedDict.get recordKey (redis schemaName) <;> rfl

theorem run_hget (schemaName : String) (recordKey : Key) (load : Data → Record) :
    (hget schemaName recordKey load).run (Redis.exec scan) redis =
      match OrderedDict.get recordKey (redis schemaName) with
      | some data => (redis, .record (load data))
      | none => (redis, .raised
          (.typeError "a bytes-like object is required, not 'NoneType'")) := by
  simp only [hget, Program.run, Redis.exec]
  cases OrderedDict.get recordKey (redis schemaName) <;> rfl

end Run

end RedisStore

end EventPipeline
