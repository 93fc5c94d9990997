import EventPipeline.Foundation.ByteStream

/-! # Messages of tasks

What is sent between the remote executor and its manager: any object, pickled and compressed.
What pickling, decompressing and calling an object do is left to a runtime. Exceptions are told
apart by the classes that the handlers name.
-/

namespace EventPipeline

/-- The class of an exception. The last one stands for those that are not derived from
`Exception`. -/
inductive ExceptionClass
  | zlibError
  | unpicklingError
  | moduleNotFoundError
  | exception (name : String)
  | baseException (name : String)
deriving DecidableEq, Repr

/-- An exception. Its `str()` is a text, or raises another exception. -/
inductive Thrown
  | readable (exceptionClass : ExceptionClass) (text : String)
  | unreadable (exceptionClass : ExceptionClass) (raised : Thrown)
deriving DecidableEq, Repr

namespace Thrown

def exceptionClass : Thrown → ExceptionClass
  | readable exceptionClass _ | unreadable exceptionClass _ => exceptionClass

def str : Thrown → Except Thrown String
  | readable _ text => .ok text
  | unreadable _ raised => .error raised

def isException (thrown : Thrown) : Bool :=
  match thrown.exceptionClass with
  | .zlibError | .unpicklingError | .moduleNotFoundError | .exception _ => true
  | .baseException _ => false

def valueError (text : String) : Thrown :=
  readable (.exception "ValueError") text

def importError (text : String) : Thrown :=
  readable (.exception "ImportError") text

/-- An exception that `except Exception` catches, and that can be logged. -/
def Caught (thrown : Thrown) : Prop :=
  thrown.isException = true ∧ ∃ text, thrown.str = .ok text

end Thrown

/-- What pickling, compressing and objects do. -/
structure SocketRuntime (Object : Type) where
  /-- `cloudpickle.dumps` -/
  dumps : Object → Except Thrown Bytes
  /-- `cloudpickle.loads` -/
  loads : Bytes → Except Thrown Object
  /-- `zlib.compress` -/
  compress : Bytes → Bytes
  /-- `zlib.decompress` -/
  decompress : Bytes → Except Thrown Bytes
  decompress_compress : ∀ data, decompress (compress data) = .ok data
  decompress_nil : ∃ text, decompress [] = .error (.readable .zlibError text)
  isTaskMessage : Object → Bool
  /-- `task_message.fn(*task_message.args, **task_message.kwargs)` -/
  call : Object → Except Thrown Object
  str : Object → Except Thrown String
  /-- An exception as an object. -/
  object : Thrown → Object
  /-- The object as an exception, if it is one. -/
  thrown? : Object → Option Thrown
  thrown?_object : ∀ thrown, thrown? (object thrown) = some thrown

namespace SocketRuntime

variable {Object : Type} (runtime : SocketRuntime Object)

def serializeObject (obj : Object) : Except Thrown Bytes :=
  (runtime.dumps obj).map runtime.compress

def deserialize (data : Bytes) : Except Thrown (Object × Bool) := do
  let decompressedData ← runtime.decompress data
  let object ← runtime.loads decompressedData
  return (object, runtime.isTaskMessage object)

theorem deserialize_nil : ∃ thrown, runtime.deserialize [] = .error thrown := by
  rcases runtime.decompress_nil with ⟨text, refused⟩
  refine ⟨.readable .zlibError text, ?_⟩
  simp only [deserialize, refused, bind, Except.bind]

theorem serializeObject_ne_nil {obj : Object} {data : Bytes}
    (serialized : runtime.serializeObject obj = .ok data) : data ≠ [] := by
  rintro rfl
  rw [serializeObject] at serialized
  cases dumped : runtime.dumps obj with
  | error thrown =>
      rw [dumped] at serialized
      cases serialized
  | ok pickled =>
      rw [dumped] at serialized
      have empty : runtime.compress pickled = [] := Except.ok.inj serialized
      rcases runtime.decompress_nil with ⟨text, refused⟩
      rw [← empty, runtime.decompress_compress] at refused
      cases refused

theorem isTaskMessage_of_deserialize {data : Bytes} {object : Object} {isTaskMessage : Bool}
    (decoded : runtime.deserialize data = .ok (object, isTaskMessage)) :
    isTaskMessage = runtime.isTaskMessage object := by
  simp only [deserialize, bind, Except.bind, pure, Except.pure] at decoded
  split at decoded
  · cases decoded
  · split at decoded
    · cases decoded
    · cases decoded
      rfl

/-- The object arrives as it was sent. -/
def Carries (object : Object) : Prop :=
  ∃ data, runtime.dumps object = .ok data ∧ runtime.loads data = .ok object

/-- What the manager answers a call with, if it does. -/
def answer? : Except Thrown Object → Option Object
  | .ok result => some result
  | .error thrown =>
      if thrown.isException then
        match thrown.str with
        | .ok _ => some (runtime.object thrown)
        | .error _ => none
      else none

theorem Carries.serialized {runtime : SocketRuntime Object} {object : Object}
    (carries : runtime.Carries object) :
    ∃ data, runtime.serializeObject object = .ok data ∧
      runtime.deserialize data = .ok (object, runtime.isTaskMessage object) := by
  rcases carries with ⟨data, dumped, loaded⟩
  refine ⟨runtime.compress data, ?_, ?_⟩
  · rw [serializeObject, dumped]
    rfl
  · simp only [deserialize, runtime.decompress_compress, loaded, bind, Except.bind, pure,
      Except.pure]

end SocketRuntime

end EventPipeline
