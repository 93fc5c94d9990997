import EventPipeline.Foundation.Arena
import EventPipeline.Foundation.Future
import Mathlib.Data.List.Nodup

/-! # The remote executor

A thread submits calls to a queue and shuts the executor down; a worker thread takes them from
the queue, sends each to the server and resolves its future. The worker tests the shutdown flag
before every read of the queue. Each step is one read or one assignment of what both share.
-/

namespace EventPipeline

abbrev FutureId := Nat

/-- Where `_process_queue` is. -/
inductive WorkerPhase
  | testing
  | getting
  | taken (task : FutureId)
  | sending (task : FutureId)
  | ended
  | failed
deriving DecidableEq, Repr

/-- Where the thread is that uses the executor. -/
inductive SubmitterPhase
  | ready
  | putting (task : FutureId)
  | joining
  | returned
deriving DecidableEq, Repr

structure RemoteExecutor (Value Error : Type) where
  shutdown : Bool := false
  tasks : List FutureId := []
  futures : Arena (Future Value Error) := .empty
  worker : WorkerPhase := .testing
  submitter : SubmitterPhase := .ready

/-- The next step of the submitting thread, or of the worker. -/
inductive RemoteAction
  | submit
  | put
  | cancel (task : FutureId)
  | shutdown
  | join
  | test
  | get
  | timeout
  | start
  | finish
deriving DecidableEq, Repr

namespace RemoteExecutor

variable {Value Error : Type} (queueSize : Nat) (sendTask : FutureId → Except Error Value)

/-- `submit` makes a future, and puts its task into the queue when there is room. -/
def submit (executor : RemoteExecutor Value Error) : RemoteExecutor Value Error :=
  match executor.submitter with
  | .ready =>
      -- otherwise a `RuntimeError` is raised
      if executor.shutdown then executor
      else
        { executor with
          futures := executor.futures.alloc .pending
          submitter := .putting executor.futures.size }
  | _ => executor

def put (executor : RemoteExecutor Value Error) : RemoteExecutor Value Error :=
  match executor.submitter with
  | .putting task =>
      if 0 < queueSize ∧ queueSize ≤ executor.tasks.length then executor
      else { executor with tasks := executor.tasks ++ [task], submitter := .ready }
  | _ => executor

def cancel (executor : RemoteExecutor Value Error) (task : FutureId) :
    RemoteExecutor Value Error :=
  match executor.submitter with
  | .ready => { executor with futures := executor.futures.modify task Future.cancel }
  | _ => executor

/-- `shutdown` sets the flag and then waits for the worker. -/
def setShutdown (executor : RemoteExecutor Value Error) : RemoteExecutor Value Error :=
  match executor.submitter with
  | .ready => { executor with shutdown := true, submitter := .joining }
  | _ => executor

def join (executor : RemoteExecutor Value Error) : RemoteExecutor Value Error :=
  match executor.submitter, executor.worker with
  | .joining, .ended | .joining, .failed => { executor with submitter := .returned }
  | _, _ => executor

/-- `while not self._shutdown`. -/
def test (executor : RemoteExecutor Value Error) : RemoteExecutor Value Error :=
  match executor.worker with
  | .testing => { executor with worker := if executor.shutdown then .ended else .getting }
  | _ => executor

/-- `get` waits while the queue is empty. -/
def get (executor : RemoteExecutor Value Error) : RemoteExecutor Value Error :=
  match executor.worker, executor.tasks with
  | .getting, task :: tasks => { executor with worker := .taken task, tasks }
  | _, _ => executor

/-- `get` raises `queue.Empty`, and the loop goes on. -/
def timeout (executor : RemoteExecutor Value Error) : RemoteExecutor Value Error :=
  match executor.worker, executor.tasks with
  | .getting, [] => { executor with worker := .testing }
  | _, _ => executor

def start (executor : RemoteExecutor Value Error) : RemoteExecutor Value Error :=
  match executor.worker with
  | .taken task =>
      match (executor.futures.get? task).bind Future.setRunningOrNotifyCancel with
      | none => { executor with worker := .failed }
      | some (run, future) =>
          { executor with
            futures := executor.futures.modify task fun _ => future
            worker := if run then .sending task else .testing }
  | _ => executor

/-- `_send_task` has returned or raised, and the future is resolved. -/
def finish (executor : RemoteExecutor Value Error) : RemoteExecutor Value Error :=
  match executor.worker with
  | .sending task =>
      match (executor.futures.get? task).bind (Future.resolve (sendTask task)) with
      | none => { executor with worker := .failed }
      | some future =>
          { executor with
            futures := executor.futures.modify task fun _ => future
            worker := .testing }
  | _ => executor

/-- A step that is not possible changes nothing. -/
def step (executor : RemoteExecutor Value Error) : RemoteAction → RemoteExecutor Value Error
  | .submit => executor.submit
  | .put => executor.put queueSize
  | .cancel task => executor.cancel task
  | .shutdown => executor.setShutdown
  | .join => executor.join
  | .test => executor.test
  | .get => executor.get
  | .timeout => executor.timeout
  | .start => executor.start
  | .finish => executor.finish sendTask

def after (actions : List RemoteAction) : RemoteExecutor Value Error :=
  actions.foldl (step queueSize sendTask) {}

end RemoteExecutor

end EventPipeline
