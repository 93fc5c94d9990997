import EventPipeline.Foundation.Routine
import EventPipeline.Store.Backend
import Mathlib.Logic.Relation

/-! # Saving records with retries

The methods by which a record is kept in the store run on a connection of the pool, which tries
the whole method again when it raises. A command can fail before the server has executed it or
after that, and the commands of all clients come in any order.
-/

namespace EventPipeline

inductive SaveError (Error : Type)
  | store (error : StoreError)
  | connectionError (message : String)
  | raised (error : Error)
deriving DecidableEq

inductive PoolCommand (Key Data : Type)
  | getConnection
  | releaseConnection
  | ping
  | redis (command : RedisCommand Key Data)

@[reducible] def PoolReply (Error : Type) {Key Data : Type} : PoolCommand Key Data → Type
  | .getConnection => Except Error Unit
  | .releaseConnection => Unit
  | .ping => Except Error Bool
  | .redis _ => Except Error (RedisReply Key Data)

abbrev PoolInteraction (Key Data Error : Type) : Type :=
  Interaction (@PoolReply Error Key Data)

abbrev PoolRoutine (Key Data Error Result : Type) : Type :=
  Routine (PoolCommand Key Data) (PoolReply Error) Result

abbrev PoolAttempt (Key Data Error Result : Type) : Type :=
  Fallible (PoolCommand Key Data) (PoolReply Error) (SaveError Error) Result

inductive RecordMethod (Record : Type)
  | save (record : Record)
  | reload (record : Record)
  | delete (record : Record)
  | update (record : Record)

def RecordMethod.record {Record : Type} : RecordMethod Record → Record
  | .save record | .reload record | .delete record | .update record => record

namespace PoolAttempt

variable {Key Record Klass State Data Value Error : Type}

def ask (command : PoolCommand Key Data) :
    PoolAttempt Key Data Error (PoolReply Error command) :=
  Fallible.ask command

def answered {Result : Type} : Except Error Result → PoolAttempt Key Data Error Result
  | .ok result => pure result
  | .error error => throw (.raised error)

/-! ## The backend on a connection -/

def checkConnection : PoolAttempt Key Data Error Unit := do
  if !(← answered (← ask .ping)) then throw (.connectionError "Redis is not connected.")

/-- `exists`, `count` and `filter_record` check the connection first. -/
def isChecked : RedisCommand Key Data → Bool
  | .hexists _ _ | .hlen _ | .hscan _ => true
  | .hset _ _ _ | .hdel _ _ | .hget _ _ => false

def send (command : RedisCommand Key Data) :
    PoolAttempt Key Data Error (RedisReply Key Data) := do
  if isChecked command then checkConnection
  answered (← ask (.redis command))

/-- An operation of the backend. -/
def perform : RedisStore.RedisProgram Key Record Data →
    PoolAttempt Key Data Error (StoreOutcome Record)
  | .done (.raised error) => throw (.store error)
  | .done outcome => pure outcome
  | .send command next => do
      let reply ← send command
      perform (next reply)

variable (classes : RecordClasses Key Record Klass State Data Value)
  (schemaName : Record → String)

/-- `except ObjectExistError` -/
def save (record : Record) : PoolAttempt Key Data Error (StoreOutcome Record) :=
  let name := schemaName record
  let key := classes.id record
  tryCatch (perform (RedisStore.insertRecord classes name key record)) fun error =>
    match error with
    | .store (.objectExistError _) => perform (RedisStore.updateRecord classes name key record)
    | other => throw other

def method : RecordMethod Record → PoolAttempt Key Data Error (StoreOutcome Record)
  | .save record => save classes schemaName record
  | .reload record => perform (RedisStore.reloadRecord classes (schemaName record) record)
  | .delete record =>
      perform (RedisStore.deleteRecord (schemaName record) (classes.id record))
  | .update record =>
      perform (RedisStore.updateRecord classes (schemaName record) (classes.id record) record)

/-! ## The pool -/

def releasing {Result : Type} (method : PoolAttempt Key Data Error Result) :
    PoolAttempt Key Data Error Result := do
  let result ← tryCatch method fun error => do
    ask .releaseConnection
    throw error
  ask .releaseConnection
  return result

/-- One round of the loop. -/
def withConnection {Result : Type} (method : PoolAttempt Key Data Error Result) :
    PoolAttempt Key Data Error Result := do
  answered (← ask .getConnection)
  releasing method

/-- The last exception is raised. -/
def retry {Result : Type} (method : PoolAttempt Key Data Error Result) :
    Nat → SaveError Error → PoolAttempt Key Data Error (Option Result)
  | 0, error => throw error
  | left + 1, _ =>
      tryCatch (some <$> withConnection method) fun error => retry method left error

/-- Without attempts nothing is done. -/
def executeWithRetry {Result : Type} (retryAttempts : Nat)
    (method : PoolAttempt Key Data Error Result) :
    PoolAttempt Key Data Error (Option Result) :=
  match retryAttempts with
  | 0 => return none
  | left + 1 => tryCatch (some <$> withConnection method) fun error => retry method left error

end PoolAttempt

/-! ## Clients of one server -/

structure MethodCall (Key Record Data Error : Type) where
  method : RecordMethod Record
  log : List (PoolInteraction Key Data Error) := []
  routine : PoolRoutine Key Data Error
    (Except (SaveError Error) (Option (StoreOutcome Record)))

structure StoreClients (Key Record Data Error : Type) where
  redis : Redis Key Data
  calls : List (MethodCall Key Record Data Error) := []

/-- What the server holds for a record. -/
def Redis.value {Key Data : Type} [DecidableEq Key] (redis : Redis Key Data)
    (place : String × Key) : Option Data :=
  OrderedDict.get place.2 (redis place.1)

namespace StoreClients

variable {Key Record Klass State Data Value Error : Type} [DecidableEq Key]
  (classes : RecordClasses Key Record Klass State Data Value) (schemaName : Record → String)
  (scan : Scan Key Data) (retryAttempts : Nat)

/-- A command is answered, or it fails before or after the server has executed it. -/
inductive Executed (redis : Redis Key Data) :
    (command : PoolCommand Key Data) → PoolReply Error command → Redis Key Data → Prop
  | getConnection (reply : Except Error Unit) : Executed redis .getConnection reply redis
  | releaseConnection : Executed redis .releaseConnection () redis
  | ping (reply : Except Error Bool) : Executed redis .ping reply redis
  | answered (command : RedisCommand Key Data) :
      Executed redis (.redis command) (.ok (redis.exec scan command).2) (redis.exec scan command).1
  | refused (command : RedisCommand Key Data) (error : Error) :
      Executed redis (.redis command) (.error error) redis
  | lost (command : RedisCommand Key Data) (error : Error) :
      Executed redis (.redis command) (.error error) (redis.exec scan command).1

def call (method : RecordMethod Record) : MethodCall Key Record Data Error where
  method
  routine := (PoolAttempt.executeWithRetry retryAttempts
    (PoolAttempt.method classes schemaName method)).run

def invoke (clients : StoreClients Key Record Data Error) (method : RecordMethod Record) :
    StoreClients Key Record Data Error :=
  { clients with calls := clients.calls ++ [call classes schemaName retryAttempts method] }

/-- Some client calls a method, or a call has its next command answered. -/
inductive Step : StoreClients Key Record Data Error → StoreClients Key Record Data Error → Prop
  | invoke {clients} (method : RecordMethod Record) :
      Step clients (clients.invoke classes schemaName retryAttempts method)
  | advance {clients} {index : Nat} {method log} {command : PoolCommand Key Data} {next}
      {reply : PoolReply Error command} {redis}
      (found : clients.calls[index]? = some ⟨method, log, .send command next⟩)
      (ran : Executed scan clients.redis command reply redis) :
      Step clients
        { redis
          calls := clients.calls.set index ⟨method, log ++ [⟨command, reply⟩], next reply⟩ }

def Run : StoreClients Key Record Data Error → StoreClients Key Record Data Error → Prop :=
  Relation.ReflTransGen (Step classes schemaName scan retryAttempts)

/-- From a server without clients. -/
def Reachable (clients : StoreClients Key Record Data Error) : Prop :=
  ∃ redis, Run classes schemaName scan retryAttempts { redis } clients

def home (record : Record) : String × Key := (schemaName record, classes.id record)

def place (method : RecordMethod Record) : String × Key :=
  home classes schemaName method.record

end StoreClients

end EventPipeline
