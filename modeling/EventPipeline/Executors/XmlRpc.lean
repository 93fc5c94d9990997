import EventPipeline.Foundation.Future
import EventPipeline.Foundation.Routine
import EventPipeline.Network.TaskMessage
import Mathlib.Logic.Relation

/-! # The XML-RPC executor and its manager

A worker thread of the executor sends a pickled task to the manager and puts what comes back into
the future of the task. Exceptions of the task come back as objects; what the manager itself
raises comes back as a fault.
-/

namespace EventPipeline

/-- What the proxy raises. -/
inductive XmlRpcError
  | fault (text : String)
  | protocolError (text : String)
  | raised (thrown : Thrown)
deriving DecidableEq, Repr

def XmlRpcError.thrown : XmlRpcError → Thrown
  | .fault text => .readable (.exception "Fault") text
  | .protocolError text => .readable (.exception "ProtocolError") text
  | .raised thrown => thrown

/-! ## The manager -/

namespace XMLRPCManager

variable {Object : Type} (runtime : SocketRuntime Object)

/-- What `execute` tries. -/
def callTask (message : Bytes) : Except Thrown Object := do
  let (taskMessage, _) ← runtime.deserialize message
  runtime.call taskMessage

/-- The handler shows the exception in the log. -/
def execute (message : Bytes) : Except Thrown Bytes :=
  match callTask runtime message with
  | .ok result => runtime.serializeObject result
  | .error thrown =>
      if thrown.isException then do
        let _ ← thrown.str
        runtime.serializeObject (runtime.object thrown)
      else .error thrown

/-- What the proxy raises when the method raises is left to the server. -/
def serve (refused : Thrown → XmlRpcError) (message : Bytes) : Except XmlRpcError Bytes :=
  match execute runtime message with
  | .ok data => .ok data
  | .error thrown => .error (refused thrown)

end XMLRPCManager

/-! ## The client -/

/-- What a worker thread does with the proxy and with the future of its task. -/
inductive XmlRpcCommand (Object : Type)
  | execute (data : Bytes)
  /-- `set_result` or `set_exception`. -/
  | resolve (outcome : Except Thrown Object)

@[reducible] def XmlRpcReply {Object : Type} : XmlRpcCommand Object → Type
  | .execute _ => Except XmlRpcError Bytes
  | .resolve _ => Bool

abbrev XmlRpcInteraction (Object : Type) : Type :=
  Interaction (@XmlRpcReply Object)

abbrev XmlRpcRoutine (Object Result : Type) : Type :=
  Routine (XmlRpcCommand Object) XmlRpcReply Result

abbrev XmlRpcAttempt (Object Result : Type) : Type :=
  Fallible (XmlRpcCommand Object) XmlRpcReply XmlRpcError Result

namespace XMLRPCExecutor

variable {Object : Type}

def invalidStateError : Thrown := .readable (.exception "InvalidStateError") ""

def plainException (text : String) : Thrown := .readable (.exception "Exception") text

def attempted {Result : Type} : Except Thrown Result → XmlRpcAttempt Object Result
  | .ok result => pure result
  | .error thrown => throw (.raised thrown)

def answered : Except XmlRpcError Bytes → XmlRpcAttempt Object Bytes
  | .ok response => pure response
  | .error error => throw error

def resolve (outcome : Except Thrown Object) : XmlRpcAttempt Object Unit := do
  if !(← Fallible.ask (.resolve outcome)) then throw (.raised invalidStateError)

/-- `except Exception`, which shows the exception in the log. -/
def report (thrown : Thrown) : XmlRpcAttempt Object Unit := do
  if thrown.isException then
    let _ ← attempted thrown.str
    resolve (.error thrown)
  else throw (.raised thrown)

/-- The handlers around the request. -/
def handle : XmlRpcError → XmlRpcAttempt Object Unit
  | .fault text => resolve (.error (plainException ("RPC error: " ++ text)))
  | .protocolError text => resolve (.error (plainException ("Protocol error: " ++ text)))
  | .raised thrown => report thrown

variable (runtime : SocketRuntime Object)

/-- An exception that was returned is raised. -/
def outcomeOf (result : Object) : Except Thrown Object :=
  match runtime.thrown? result with
  | some thrown => if thrown.isException then .error thrown else .ok result
  | none => .ok result

def request (taskMessage : Object) : XmlRpcAttempt Object Unit := do
  let data ← attempted (runtime.serializeObject taskMessage)
  let response ← answered (← Fallible.ask (.execute data))
  let (result, _) ← attempted (runtime.deserialize response)
  resolve (outcomeOf runtime result)

def submitTask (taskMessage : Object) : XmlRpcAttempt Object Unit :=
  tryCatch (tryCatch (request runtime taskMessage) handle) fun error => report error.thrown

end XMLRPCExecutor

/-! ## The pool -/

inductive TaskPhase (Object : Type)
  | queued
  | running (log : List (XmlRpcInteraction Object))
      (routine : XmlRpcRoutine Object (Except XmlRpcError Unit))
  | ended (log : List (XmlRpcInteraction Object)) (result : Except XmlRpcError Unit)
  /-- The pool has cancelled the call of `_submit_task`. -/
  | dropped

/-- A task with the future that `submit` has returned. `cancelled` says whether its owner has
cancelled it. -/
structure XmlRpcTask (Object : Type) where
  taskMessage : Object
  future : Future Object Thrown := .pending
  cancelled : Bool := false
  phase : TaskPhase Object := .queued

def XmlRpcTask.isQueued {Object : Type} (task : XmlRpcTask Object) : Bool :=
  match task.phase with
  | .queued => true
  | .running _ _ | .ended _ _ | .dropped => false

def XmlRpcTask.isRunning {Object : Type} (task : XmlRpcTask Object) : Bool :=
  match task.phase with
  | .running _ _ => true
  | .queued | .ended _ _ | .dropped => false

structure XMLRPCExecutor (Object : Type) where
  shutdown : Bool := false
  tasks : List (XmlRpcTask Object) := []

namespace XMLRPCExecutor

variable {Object : Type} (runtime : SocketRuntime Object) (maxWorkers : Nat)
  (answers : Bytes → Except XmlRpcError Bytes → Prop)

def cancelTask (task : XmlRpcTask Object) : XmlRpcTask Object :=
  match task.future with
  | .pending => { task with future := .cancelled, cancelled := true }
  | .running | .cancelled | .cancelledAndNotified | .finished _ => task

/-- What `shutdown(cancel_futures=True)` does to the calls that no worker has taken. -/
def dropQueued (task : XmlRpcTask Object) : XmlRpcTask Object :=
  if task.isQueued then { task with phase := .dropped } else task

/-- A command of a worker thread, and the future after it. -/
inductive Executed (future : Future Object Thrown) :
    (command : XmlRpcCommand Object) → XmlRpcReply command → Future Object Thrown → Prop
  | execute {data : Bytes} {reply : Except XmlRpcError Bytes} (answered : answers data reply) :
      Executed future (.execute data) reply future
  | resolve {outcome : Except Thrown Object} {resolved : Future Object Thrown}
      (open_ : future.resolve outcome = some resolved) :
      Executed future (.resolve outcome) true resolved
  | invalid {outcome : Except Thrown Object} (done : future.resolve outcome = none) :
      Executed future (.resolve outcome) false future

/-- What the workers do. -/
inductive WorkerStep : XMLRPCExecutor Object → XMLRPCExecutor Object → Prop
  /-- A free worker takes the first call of the queue. -/
  | start {executor} {index : Nat} {task}
      (found : executor.tasks[index]? = some task) (queued : task.isQueued = true)
      (first : ∀ (other : Nat) earlier, executor.tasks[other]? = some earlier →
        earlier.isQueued = true → index ≤ other)
      (free : executor.tasks.countP XmlRpcTask.isRunning < maxWorkers) :
      WorkerStep executor
        { executor with
          tasks := executor.tasks.set index
            { task with phase := .running [] (submitTask runtime task.taskMessage).run } }
  | advance {executor} {index : Nat} {task log} {command : XmlRpcCommand Object} {next}
      {reply : XmlRpcReply command} {future}
      (found : executor.tasks[index]? = some task)
      (running : task.phase = .running log (.send command next))
      (ran : Executed answers task.future command reply future) :
      WorkerStep executor
        { executor with
          tasks := executor.tasks.set index
            { task with future, phase := .running (log ++ [⟨command, reply⟩]) (next reply) } }
  | finish {executor} {index : Nat} {task log result}
      (found : executor.tasks[index]? = some task)
      (running : task.phase = .running log (.done result)) :
      WorkerStep executor
        { executor with
          tasks := executor.tasks.set index { task with phase := .ended log result } }

inductive Step : XMLRPCExecutor Object → XMLRPCExecutor Object → Prop
  | submit {executor} (taskMessage : Object) (open_ : executor.shutdown = false) :
      Step executor { executor with tasks := executor.tasks ++ [{ taskMessage }] }
  | work {executor after} (step : WorkerStep runtime maxWorkers answers executor after) :
      Step executor after
  | cancel {executor} {index : Nat} {task} (found : executor.tasks[index]? = some task) :
      Step executor { executor with tasks := executor.tasks.set index (cancelTask task) }
  | shutdown {executor} (cancelFutures : Bool) :
      Step executor
        { shutdown := true
          tasks := if cancelFutures then executor.tasks.map dropQueued else executor.tasks }

def Run : XMLRPCExecutor Object → XMLRPCExecutor Object → Prop :=
  Relation.ReflTransGen (Step runtime maxWorkers answers)

def Reachable (executor : XMLRPCExecutor Object) : Prop :=
  Run runtime maxWorkers answers {} executor

end XMLRPCExecutor

end EventPipeline
