import EventPipeline.Executors.HadoopJobs

/-! # The Hadoop executor

The methods of the executor hold its lock from the beginning to the end, so that at most one of
them runs at a time. The polling thread takes the lock for its copy of the jobs only. Between any
two commands of the one the other may go on, and whoever has a future may cancel it.
-/

namespace EventPipeline

/-- What the threads share. -/
structure HadoopState (Object Error : Type) where
  shutdown : Bool := false
  jobs : List (FutureId × JobId) := []
  jobResults : JobId → Option JobInfo := fun _ => none
  futures : Arena (Future Object (HadoopError Error)) := .empty

namespace HadoopState

variable {Object Error : Type}

def isDone (state : HadoopState Object Error) (future : FutureId) : Bool :=
  (state.futures.get? future).any Future.done

def isCancelled (state : HadoopState Object Error) (future : FutureId) : Bool :=
  (state.futures.get? future).any fun
    | .cancelled | .cancelledAndNotified => true
    | .pending | .running | .finished _ => false

def track (state : HadoopState Object Error) (job : JobId) (outputPath : String) :
    HadoopState Object Error :=
  { state with jobResults := Function.update state.jobResults job (some { outputPath }) }

def setInfo (state : HadoopState Object Error) (job : JobId) (change : JobInfo → JobInfo) :
    HadoopState Object Error :=
  { state with
    jobResults := Function.update state.jobResults job ((state.jobResults job).map change) }

/-- `set_result` or `set_exception`, with its answer. -/
def resolve (state : HadoopState Object Error) (future : FutureId)
    (outcome : Except (HadoopError Error) Object) : HadoopState Object Error × Bool :=
  match (state.futures.get? future).bind (Future.resolve outcome) with
  | none => (state, false)
  | some resolved => ({ state with futures := state.futures.modify future fun _ => resolved }, true)

/-- The state behind a command, if its answer is a possible one. The cluster gives each job an id
of its own. `awaitResult` waits until the future is done. -/
def exec (state : HadoopState Object Error) :
    (command : HadoopCommand Object Error) → HadoopReply command →
      Option (HadoopState Object Error)
  | .isConnected, _ | .connect, _ | .disconnect, _ | .getOutputPath _, _ | .getJobStatus _, _
  | .killJob _, _ | .pathExists _, _ | .ls _, _ | .load _, _ => some state
  | .submitJob _, .error _ => some state
  | .submitJob _, .ok job => if (state.jobResults job).isNone then some state else none
  | .trackJob job outputPath, _ => some (state.track job outputPath)
  | .jobInfo job, reply => if reply = state.jobResults job then some state else none
  | .setStatus job status, _ => some (state.setInfo job fun info => { info with status })
  | .setError job message, _ =>
      some (state.setInfo job fun info => { info with error := some message })
  | .isShutdown, reply => if reply = state.shutdown then some state else none
  | .setShutdown, _ => some { state with shutdown := true }
  | .jobOf future, reply =>
      if reply = OrderedDict.get future state.jobs then some state else none
  | .setJob future job, _ =>
      some { state with jobs := OrderedDict.insert future job state.jobs }
  | .jobs, reply => if reply = state.jobs then some state else none
  | .newFuture, reply =>
      if reply = state.futures.size then
        some { state with futures := state.futures.alloc .pending }
      else none
  | .isDone future, reply => if reply = state.isDone future then some state else none
  | .isCancelled future, reply => if reply = state.isCancelled future then some state else none
  | .cancelFuture future, _ =>
      some { state with futures := state.futures.modify future Future.cancel }
  | .setResult future result, reply =>
      let (after, answer) := state.resolve future (.ok result)
      if reply = answer then some after else none
  | .setException future error, reply =>
      let (after, answer) := state.resolve future (.error error)
      if reply = answer then some after else none
  | .awaitResult future, _ => if state.isDone future then some state else none

end HadoopState

inductive HadoopCall (Object : Type)
  | submit (fn : HadoopFunction Object) (args : List Object) (kwargs : List (String × Object))
  | submitBatch (fns : List (HadoopFunction Object)) (argsList : List (BatchArguments Object))
  | cancel (future : FutureId)
  | shutdown (wait : Bool)

inductive HadoopReturn
  | futures (futures : List FutureId)
  | bool (value : Bool)
  | none
deriving DecidableEq, Repr

def HadoopCall.attempt {Object Error : Type} :
    HadoopCall Object → HadoopAttempt Object Error HadoopReturn
  | .submit fn args kwargs => do
      let future ← Hadoop.submit fn args kwargs
      return .futures [future]
  | .submitBatch fns argsList => do
      let futures ← Hadoop.submitBatch fns argsList
      return .futures futures
  | .cancel future => do
      let cancelled ← Hadoop.cancel future
      return .bool cancelled
  | .shutdown wait => do
      Hadoop.shutdown wait
      return .none

/-- A method that runs, with the exchanges that it has had. -/
structure RunningCall (Object Error : Type) where
  call : HadoopCall Object
  log : List (HadoopExchange Object Error) := []
  routine : HadoopRoutine Object Error (Except (HadoopError Error) HadoopReturn)

structure ReturnedCall (Object Error : Type) where
  call : HadoopCall Object
  result : Except (HadoopError Error) HadoopReturn

/-- Where `_poll_jobs` is. While it goes through its copy of the jobs, the exchanges of this pass
are kept. -/
inductive Poller (Object Error : Type)
  | testing
  | locking
  | passing (entries : List (FutureId × JobId)) (log : List (HadoopExchange Object Error))
      (routine : HadoopRoutine Object Error (Except (HadoopError Error) Unit))
  | ended

structure HadoopExecutor (Object Error : Type) where
  state : HadoopState Object Error := {}
  poller : Poller Object Error := .testing
  /-- The exchanges of the passes that have ended. -/
  pollerLog : List (HadoopExchange Object Error) := []
  running : Option (RunningCall Object Error) := none
  returned : List (ReturnedCall Object Error) := []

namespace HadoopExecutor

variable {Object Error : Type} (str : HadoopError Error → String)

/-- The futures that the methods have returned. -/
def handedOut (executor : HadoopExecutor Object Error) : List FutureId :=
  executor.returned.flatMap fun call =>
    match call.result with
    | .ok (.futures futures) => futures
    | .ok (.bool _) | .ok .none | .error _ => []

inductive Step : HadoopExecutor Object Error → Option FutureId → HadoopExecutor Object Error → Prop
  | call {executor} (call : HadoopCall Object) (free : executor.running = none) :
      Step executor none
        { executor with running := some { call, routine := call.attempt.run } }
  | advance {executor} {call log} {command : HadoopCommand Object Error} {next}
      {reply : HadoopReply command} {state}
      (running : executor.running = some ⟨call, log, .send command next⟩)
      (ran : executor.state.exec command reply = some state) :
      Step executor none
        { executor with
          state
          running := some ⟨call, log ++ [⟨command, reply⟩], next reply⟩ }
  | finish {executor} {call log result}
      (running : executor.running = some ⟨call, log, .done result⟩) :
      Step executor none
        { executor with
          running := none
          returned := executor.returned ++ [⟨call, result⟩] }
  /-- `while not self._shutdown` -/
  | test {executor} (testing : executor.poller = .testing) :
      Step executor none
        { executor with poller := if executor.state.shutdown then .ended else .locking }
  /-- `with self._lock`. Without jobs the thread sleeps, and the loop goes on. -/
  | copy {executor} (locking : executor.poller = .locking) (free : executor.running = none) :
      Step executor none
        { executor with
          poller :=
            if executor.state.jobs = [] then .testing
            else .passing executor.state.jobs []
              (Hadoop.pollJobs str executor.state.jobs).run }
  | poll {executor} {entries log} {command : HadoopCommand Object Error} {next}
      {reply : HadoopReply command} {state}
      (passing : executor.poller = .passing entries log (.send command next))
      (ran : executor.state.exec command reply = some state) :
      Step executor none
        { executor with
          state
          poller := .passing entries (log ++ [⟨command, reply⟩]) (next reply) }
  /-- The pass has ended, or an exception has left it. -/
  | sleep {executor} {entries log result}
      (passing : executor.poller = .passing entries log (.done result)) :
      Step executor none
        { executor with poller := .testing, pollerLog := executor.pollerLog ++ log }
  | cancel {executor} (future : FutureId) (handed : future ∈ executor.handedOut) :
      Step executor (some future)
        { executor with
          state :=
            { executor.state with
              futures := executor.state.futures.modify future Future.cancel } }

/-- What can come of an executor when nobody cancels one of the futures that are kept. -/
inductive Run (kept : FutureId → Prop) (first : HadoopExecutor Object Error) :
    HadoopExecutor Object Error → Prop
  | refl : Run kept first first
  | tail {middle last cancelled} (before : Run kept first middle)
      (step : Step str middle cancelled last)
      (keeps : ∀ future, cancelled = some future → ¬ kept future) : Run kept first last

def Reachable (executor : HadoopExecutor Object Error) : Prop :=
  Run str (fun _ => False) {} executor

def pollLog (executor : HadoopExecutor Object Error) : List (HadoopExchange Object Error) :=
  match executor.poller with
  | .passing _ log _ => executor.pollerLog ++ log
  | .testing | .locking | .ended => executor.pollerLog

end HadoopExecutor

end EventPipeline
