import EventPipeline.Foundation.Future

/-! # The gRPC executor and its servicer

The client serializes a call, sends it to the server and resolves the future of the call with
what comes back: one response, or a stream of status messages. Python objects and their
serialized form are arbitrary, and so is what serialization, deserialization and the call of an
object do; gRPC delivers what the servicer returns or yields, and raises on the client when the
servicer raises.
-/

namespace EventPipeline

/-- What the code finds in its environment: `TaskMessage.serialize_object` and
`TaskMessage.deserialize` on any object, the call of an object, and the exceptions that are made
around it. -/
structure RemoteRuntime (Object Data Error : Type) where
  serializeObject : Object → Except Error Data
  deserialize : Data → Except Error Object
  /-- `fn(*args, **kwargs)`. -/
  call : Object → Object → Object → Except Error Object
  getEventName : Object → String
  /-- An exception as an object. -/
  object : Error → Object
  str : Error → String
  /-- `Exception(message)`. -/
  exception : String → Error
  /-- The `RpcError` that the client gets when the servicer raises. -/
  rpcError : Error → Error
  invalidStateError : Error
  noData : Data

structure TaskRequest (Data : Type) where
  taskId : String
  fn : Data
  name : String
  args : Data
  kwargs : Data

structure TaskResponse (Data : Type) where
  success : Bool
  result : Data
  error : String

inductive TaskState
  | pending
  | running
  | completed
  | failed
deriving DecidableEq, Repr

structure TaskStatus (Data : Type) where
  status : TaskState
  result : Data
  message : String

/-- What a generator yields, and the exception that ends it. -/
structure Generated (Item Error : Type) where
  items : List Item
  raised : Option Error := none

/-- The methods of the service. -/
structure TaskExecutor (Data Error : Type) where
  execute : TaskRequest Data → Except Error (TaskResponse Data)
  executeStream : TaskRequest Data → Generated (TaskStatus Data) Error

/-! ## The servicer -/

namespace TaskExecutorServicer

variable {Object Data Error : Type} (runtime : RemoteRuntime Object Data Error)

def deserializeCall (request : TaskRequest Data) : Except Error (Object × Object × Object) := do
  let fn ← runtime.deserialize request.fn
  let args ← runtime.deserialize request.args
  let kwargs ← runtime.deserialize request.kwargs
  return (fn, args, kwargs)

/-- The call and the serialization of its result. -/
def run (call : Object × Object × Object) : Except Error Data := do
  let result ← runtime.call call.1 call.2.1 call.2.2
  runtime.serializeObject result

def execute (request : TaskRequest Data) : Except Error (TaskResponse Data) :=
  match deserializeCall runtime request >>= run runtime with
  | .ok serializedResult => .ok ⟨true, serializedResult, ""⟩
  | .error error => do
      let serializedResult ← runtime.serializeObject (runtime.object error)
      return ⟨false, serializedResult, runtime.str error⟩

/-- The exception handler of the generator, behind what has been yielded before. -/
def fail (yielded : List (TaskStatus Data)) (error : Error) :
    Generated (TaskStatus Data) Error :=
  match runtime.serializeObject (runtime.object error) with
  | .ok serializedResult =>
      ⟨yielded ++ [⟨.failed, serializedResult, runtime.str error⟩], none⟩
  | .error later => ⟨yielded, some later⟩

def executeStream (request : TaskRequest Data) : Generated (TaskStatus Data) Error :=
  let received : TaskStatus Data := ⟨.pending, runtime.noData, "Task received"⟩
  let started : TaskStatus Data := ⟨.running, runtime.noData, "Task started"⟩
  match deserializeCall runtime request with
  | .error error => fail runtime [received] error
  | .ok call =>
      match run runtime call with
      | .error error => fail runtime [received, started] error
      | .ok serializedResult =>
          ⟨[received, started, ⟨.completed, serializedResult, "Task completed"⟩], none⟩

end TaskExecutorServicer

def taskExecutorServicer {Object Data Error : Type}
    (runtime : RemoteRuntime Object Data Error) : TaskExecutor Data Error where
  execute := TaskExecutorServicer.execute runtime
  executeStream := TaskExecutorServicer.executeStream runtime

/-! ## The client -/

/-- What the callbacks of a future and those who wait for it get to see. -/
inductive FutureEvent (Object Error : Type)
  | update (status : TaskState) (message : String)
  | resolved (outcome : Except Error Object)

/-- A future, with what has been seen of it so far. `cancels` tells before which of the coming
operations on the future somebody else cancels it. -/
structure ClientFuture (Object Error : Type) where
  future : Future Object Error := .pending
  log : List (FutureEvent Object Error) := []
  cancels : Nat → Bool

namespace ClientFuture

variable {Object Data Error : Type}

/-- What others do before the next operation. -/
def interfere (future : ClientFuture Object Error) : ClientFuture Object Error :=
  { future with
    future := if future.cancels 0 then future.future.cancel else future.future
    cancels := fun operation => future.cancels (operation + 1) }

/-- `set_result` or `set_exception`, with the exception that it raises. -/
def resolve (runtime : RemoteRuntime Object Data Error) (outcome : Except Error Object)
    (future : ClientFuture Object Error) : Option Error × ClientFuture Object Error :=
  match future.interfere.future.resolve outcome with
  | none => (some runtime.invalidStateError, future.interfere)
  | some resolved =>
      (none, { future.interfere with
        future := resolved
        log := future.log ++ [.resolved outcome] })

/-- `status_update`. Exceptions of the callbacks are only logged. -/
def statusUpdate (status : TaskState) (message : String) (future : ClientFuture Object Error) :
    ClientFuture Object Error :=
  { future.interfere with log := future.log ++ [.update status message] }

/-- `except Exception as e: future.set_exception(e)` around what was tried. -/
def handle (runtime : RemoteRuntime Object Data Error) :
    Option Error × ClientFuture Object Error → Option Error × ClientFuture Object Error
  | (none, future) => (none, future)
  | (some error, future) => future.resolve runtime (.error error)

end ClientFuture

namespace GrpcExecutor

variable {Object Data Error : Type} (runtime : RemoteRuntime Object Data Error)

def serializeCall (taskId : String) (fn args kwargs : Object) :
    Except Error (TaskRequest Data) := do
  let serializedFn ← runtime.serializeObject fn
  let serializedArgs ← runtime.serializeObject args
  let serializedKwargs ← runtime.serializeObject kwargs
  return ⟨taskId, serializedFn, runtime.getEventName fn, serializedArgs, serializedKwargs⟩

/-- The loop over the status messages of a stream. -/
def receive (raised : Option Error) :
    List (TaskStatus Data) → ClientFuture Object Error →
      Option Error × ClientFuture Object Error
  | [], future => (raised.map runtime.rpcError, future)
  | response :: rest, future =>
      match response.status with
      | .completed =>
          match runtime.deserialize response.result with
          | .error error => (some error, future)
          | .ok result => future.resolve runtime (.ok result)
      | .failed => future.resolve runtime (.error (runtime.exception response.message))
      | .pending | .running =>
          receive raised rest (future.statusUpdate response.status response.message)

def receiveResponse (future : ClientFuture Object Error) :
    Except Error (TaskResponse Data) → Option Error × ClientFuture Object Error
  | .error error => (some (runtime.rpcError error), future)
  | .ok response =>
      if response.success then
        match runtime.deserialize response.result with
        | .error error => (some error, future)
        | .ok result => future.resolve runtime (.ok result)
      else future.resolve runtime (.error (runtime.exception response.error))

/-- `_submit_task`, with the exception that it raises. `streaming` tells whether the future is a
`StreamingFuture`. -/
def submitTask (stub : TaskExecutor Data Error) (streaming : Bool) (taskId : String)
    (fn args kwargs : Object) (future : ClientFuture Object Error) :
    Option Error × ClientFuture Object Error :=
  ClientFuture.handle runtime <|
    match serializeCall runtime taskId fn args kwargs with
    | .error error => (some error, future)
    | .ok request =>
        ClientFuture.handle runtime <|
          if streaming then
            receive runtime (stub.executeStream request).raised
              (stub.executeStream request).items future
          else receiveResponse runtime future (stub.execute request)

end GrpcExecutor

end EventPipeline
