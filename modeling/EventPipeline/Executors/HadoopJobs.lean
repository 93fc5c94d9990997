import EventPipeline.Executors.RemoteExecutor
import EventPipeline.Foundation.OrderedDict
import EventPipeline.Foundation.Routine
import Mathlib.Logic.Function.Basic

/-! # Jobs on a Hadoop cluster

The connector submits jobs and keeps what it knows of them, and the executor keeps the futures
with their jobs. A polling thread asks for the states of the jobs and resolves the futures. All of
them are routines: what the cluster and its file system answer is left open.
-/

namespace EventPipeline

abbrev JobId := String

/-- The constants of `concurrent.futures` that the connector uses for jobs. -/
inductive JobStatus
  | pending
  | running
  | finished
  | cancelled
  | cancelledAndNotified
deriving DecidableEq, Repr

def JobStatus.text : JobStatus → String
  | .pending => "PENDING"
  | .running => "RUNNING"
  | .finished => "FINISHED"
  | .cancelled => "CANCELLED"
  | .cancelledAndNotified => "CANCELLED_AND_NOTIFIED"

def JobStatus.isOpen : JobStatus → Bool
  | .pending | .running => true
  | .finished | .cancelled | .cancelledAndNotified => false

/-- `status_mapping.get(hadoop_status, RUNNING)` -/
def statusMapping (hadoopStatus : String) : JobStatus :=
  if hadoopStatus = "NEW" ∨ hadoopStatus = "INITED" then .pending
  else if hadoopStatus = "RUNNING" then .running
  else if hadoopStatus = "SUCCEEDED" ∨ hadoopStatus = "FAILED" then .finished
  else if hadoopStatus = "KILLED" then .cancelled
  else if hadoopStatus = "ERROR" then .finished
  else .running

/-- The states of a job for which an error is recorded. -/
def isFailure (hadoopStatus : String) : Bool :=
  hadoopStatus = "FAILED" ∨ hadoopStatus = "ERROR"

/-- An entry of `_job_results`, as far as it is read. -/
structure JobInfo where
  status : JobStatus := .pending
  outputPath : String
  error : Option String := none
deriving DecidableEq, Repr

/-- The exceptions that the code raises, and those of the libraries. -/
inductive HadoopError (Error : Type)
  | hadoopJobError (message : String)
  | runtimeError (message : String)
  | keyError (message : String)
  | typeError (message : String)
  | connectionError (message : String)
  | invalidStateError
  | raised (error : Error)
deriving DecidableEq

/-- What is submitted. Only instances of `EventBase` are accepted. -/
structure HadoopFunction (Object : Type) where
  object : Object
  isEvent : Bool := true
  name? : Option String := none

structure JobConfig (Object : Type) where
  function : Object
  args : List Object := []
  kwargs : List (String × Object) := []
  jobName : String

/-- An entry of `args_list`. -/
inductive BatchArguments (Object : Type)
  | tuple (items : List Object)
  | dict (items : List (String × Object))
  | other (object : Object)

/-- What the threads do with the cluster, with the entries of the connector and of the executor,
and with futures. -/
inductive HadoopCommand (Object Error : Type)
  | isConnected
  | connect
  | disconnect
  | submitJob (config : JobConfig Object)
  | getOutputPath (job : JobId)
  | getJobStatus (job : JobId)
  | killJob (job : JobId)
  | pathExists (path : String)
  | ls (path : String)
  | load (path : String)
  | trackJob (job : JobId) (outputPath : String)
  | jobInfo (job : JobId)
  | setStatus (job : JobId) (status : JobStatus)
  | setError (job : JobId) (message : String)
  | isShutdown
  | setShutdown
  | jobOf (future : FutureId)
  | setJob (future : FutureId) (job : JobId)
  | jobs
  | newFuture
  | isDone (future : FutureId)
  | isCancelled (future : FutureId)
  | cancelFuture (future : FutureId)
  | setResult (future : FutureId) (result : Object)
  | setException (future : FutureId) (error : HadoopError Error)
  | awaitResult (future : FutureId)

/-- What comes back. Setting a future raises `InvalidStateError` when the answer is `false`. -/
@[reducible] def HadoopReply {Object Error : Type} : HadoopCommand Object Error → Type
  | .isConnected | .isShutdown | .isDone _ | .isCancelled _ => Bool
  | .setResult _ _ | .setException _ _ => Bool
  | .connect | .killJob _ | .pathExists _ => Except Error Bool
  | .submitJob _ => Except Error JobId
  | .getOutputPath _ | .getJobStatus _ => Except Error String
  | .ls _ => Except Error (List String)
  | .load _ => Except Error Object
  | .jobInfo _ => Option JobInfo
  | .jobOf _ => Option JobId
  | .jobs => List (FutureId × JobId)
  | .newFuture => FutureId
  | .disconnect | .trackJob _ _ | .setStatus _ _ | .setError _ _ | .setShutdown | .setJob _ _
  | .cancelFuture _ | .awaitResult _ => Unit

abbrev HadoopExchange (Object Error : Type) : Type :=
  Interaction (@HadoopReply Object Error)

abbrev HadoopRoutine (Object Error Result : Type) : Type :=
  Routine (HadoopCommand Object Error) HadoopReply Result

abbrev HadoopAttempt (Object Error Result : Type) : Type :=
  Fallible (HadoopCommand Object Error) HadoopReply (HadoopError Error) Result

namespace Hadoop

variable {Object Error : Type}

def ask (command : HadoopCommand Object Error) :
    HadoopAttempt Object Error (HadoopReply command) :=
  Fallible.ask command

/-- An answer of the cluster, or the exception that its library raises. -/
def answered {Result : Type} : Except Error Result → HadoopAttempt Object Error Result
  | .ok result => pure result
  | .error error => throw (.raised error)

/-- `set_result` or `set_exception`. -/
def resolved : Bool → HadoopAttempt Object Error Unit
  | true => pure ()
  | false => throw .invalidStateError

/-! ## The connector -/

def ensureConnected : HadoopAttempt Object Error Unit := do
  if !(← ask .isConnected) then
    let connected ← answered (← ask .connect)
    if !connected then
      throw (.connectionError "Cannot submit job: not connected to Hadoop")

def submitJob (config : JobConfig Object) : HadoopAttempt Object Error JobId := do
  ensureConnected
  let job ← answered (← ask (.submitJob config))
  let outputPath ← answered (← ask (.getOutputPath job))
  ask (.trackJob job outputPath)
  return job

def getJobInfo (job : JobId) : HadoopAttempt Object Error JobInfo := do
  match ← ask (.jobInfo job) with
  | none => throw (.keyError s!"Unknown job ID: {job}")
  | some info => return info

/-- When the cluster cannot be asked, the status is the one that is known. -/
def getJobStatus (job : JobId) : HadoopAttempt Object Error JobStatus := do
  let _ ← getJobInfo job
  match ← ask (.getJobStatus job) with
  | .error _ =>
      let info ← getJobInfo job
      return info.status
  | .ok hadoopStatus =>
      ask (.setStatus job (statusMapping hadoopStatus))
      if isFailure hadoopStatus then
        ask (.setError job s!"Job failed with status: {hadoopStatus}")
      return statusMapping hadoopStatus

def isResultFile (file : String) : Bool :=
  "part-00000".toList.isSuffixOf file.toList || "part-r-00000".toList.isSuffixOf file.toList

/-- The first result file of the directory. -/
def chooseFile (outputPath : String) (files : List String) : HadoopAttempt Object Error String :=
  match files.filter isResultFile with
  | [] => throw (.hadoopJobError s!"No result file found in output directory: {outputPath}")
  | file :: _ => pure file

def resultFile (outputPath : String) : HadoopAttempt Object Error String := do
  let file := s!"{outputPath}/part-00000"
  if ← answered (← ask (.pathExists file)) then return file
  let files ← answered (← ask (.ls outputPath))
  chooseFile outputPath files

def readResult (outputPath : String) : HadoopAttempt Object Error Object := do
  let file ← resultFile outputPath
  answered (← ask (.load file))

variable (str : HadoopError Error → String)

/-- `job_info` is the entry itself, so that its error is read when it is tested. -/
def getJobResult (job : JobId) : HadoopAttempt Object Error Object := do
  let _ ← getJobInfo job
  let status ← getJobStatus job
  if status.isOpen then
    let text := status.text
    throw (.runtimeError s!"Job {job} is not yet complete (status: {text})")
  let info ← getJobInfo job
  match info.error with
  | some message => throw (.hadoopJobError message)
  | none =>
      tryCatch (readResult info.outputPath) fun error =>
        let text := str error
        throw (.hadoopJobError s!"Failed to retrieve job result: {text}")

def cancelJob (job : JobId) : HadoopAttempt Object Error Bool := do
  match ← ask (.jobInfo job) with
  | none => return false
  | some info =>
      if info.status.isOpen then
        match ← ask (.killJob job) with
        | .ok true =>
            ask (.setStatus job .cancelled)
            return true
        | .ok false | .error _ => return false
      else return false

/-! ## The polling thread -/

/-- `except HadoopJobError` -/
def catchJobError {Result : Type} (attempt : HadoopAttempt Object Error Result)
    (handler : HadoopError Error → HadoopAttempt Object Error Result) :
    HadoopAttempt Object Error Result :=
  tryCatch attempt fun error =>
    match error with
    | .hadoopJobError message => handler (.hadoopJobError message)
    | other => throw other

def deliver (future : FutureId) (job : JobId) : HadoopAttempt Object Error Unit :=
  catchJobError
    (do
      let result ← getJobResult str job
      resolved (← ask (.setResult future result)))
    fun error => do resolved (← ask (.setException future error))

def checkJob (future : FutureId) (job : JobId) : HadoopAttempt Object Error Unit := do
  match ← getJobStatus job with
  | .finished => deliver str future job
  | .cancelled | .cancelledAndNotified =>
      if !(← ask (.isCancelled future)) then ask (.cancelFuture future)
  | .pending | .running => return

/-- One iteration of the loop of `_poll_jobs` over the jobs. -/
def pollJob (future : FutureId) (job : JobId) : HadoopAttempt Object Error Unit := do
  if ← ask (.isDone future) then return
  tryCatch (checkJob str future job) fun error => do
    if !(← ask (.isDone future)) then
      resolved (← ask (.setException future error))

/-- The loop over the jobs. -/
def pollJobs : List (FutureId × JobId) → HadoopAttempt Object Error Unit
  | [] => return
  | (future, job) :: rest => do
      pollJob str future job
      pollJobs rest

/-! ## The methods of the executor -/

def submitFor (future : FutureId) (config : JobConfig Object) :
    HadoopAttempt Object Error Unit :=
  tryCatch
    (do
      let job ← submitJob config
      ask (.setJob future job))
    fun error => do resolved (← ask (.setException future error))

def checkOpen : HadoopAttempt Object Error Unit := do
  if ← ask .isShutdown then
    throw (.runtimeError "Cannot schedule new futures after shutdown")

def submit (fn : HadoopFunction Object) (args : List Object) (kwargs : List (String × Object)) :
    HadoopAttempt Object Error FutureId := do
  checkOpen
  if !fn.isEvent then throw (.typeError "Tasks must be EventBase instances")
  let future ← ask .newFuture
  submitFor future
    { function := fn.object, args, kwargs, jobName := fn.name?.getD "anonymous_task" }
  return future

def batchConfig (argsList : List (BatchArguments Object)) (index : Nat)
    (fn : HadoopFunction Object) : JobConfig Object :=
  let jobName := fn.name?.getD s!"batch_task_{index}"
  match argsList[index]? with
  | some (.tuple args) => { function := fn.object, args, jobName }
  | some (.dict kwargs) => { function := fn.object, kwargs, jobName }
  | some (.other object) => { function := fn.object, args := [object], jobName }
  | none => { function := fn.object, jobName }

def submitAll (argsList : List (BatchArguments Object)) :
    Nat → List (HadoopFunction Object) → HadoopAttempt Object Error (List FutureId)
  | _, [] => return []
  | index, fn :: fns => do
      let future ← ask .newFuture
      submitFor future (batchConfig argsList index fn)
      let futures ← submitAll argsList (index + 1) fns
      return future :: futures

def submitBatch (fns : List (HadoopFunction Object)) (argsList : List (BatchArguments Object)) :
    HadoopAttempt Object Error (List FutureId) := do
  checkOpen
  if fns.any fun fn => !fn.isEvent then
    throw (.typeError "All tasks must be EventBase instances")
  submitAll argsList 0 fns

def cancel (future : FutureId) : HadoopAttempt Object Error Bool := do
  match ← ask (.jobOf future) with
  | none => return false
  | some job => cancelJob job

/-- `future.result()` for each of the futures. What it returns or raises is only logged. -/
def awaitAll : List (FutureId × JobId) → HadoopAttempt Object Error Unit
  | [] => return
  | (future, _) :: rest => do
      ask (.awaitResult future)
      awaitAll rest

def shutdown (wait : Bool) : HadoopAttempt Object Error Unit := do
  ask .setShutdown
  if wait then awaitAll (← ask .jobs)
  ask .disconnect

end Hadoop

end EventPipeline
