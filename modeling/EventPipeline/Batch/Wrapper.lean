import EventPipeline.Batch.Monitor

/-! # Wrappers and the messages of a batch

A wrapper runs a pipeline in a process of its own and reports to the queue of its batch.
The handler that it connects to the signals of its process is kept by a weak reference
only and is gone when `_connect_signals` returns, so that no signals are forwarded.
-/

namespace EventPipeline

inductive PipelineExecutionState
  | initialized
  | initializing
  | running
  | completed
  | failed
  | finished
deriving DecidableEq, Repr

/-- The type of a lifecycle event, with what the monitor reads of its message. -/
inductive LifecycleEvent
  | wrapperStarted
  | pipelineExecutionStart (pipeline : PipelineId)
  | pipelineExecutionEnd (executionContext : Option ContextRef)
  | wrapperFailed (error : PyError)
  | wrapperFinished (hadException : Bool)
deriving DecidableEq, Repr

/-- A message of type `wrapper_lifecycle`. -/
structure LifecycleMessage where
  event : LifecycleEvent
  pipelineId : PipelineId
  executionState : PipelineExecutionState
deriving DecidableEq, Repr

/-- A pipeline that is run by a wrapper. `started` is what `start(force_rerun=True)` does: it
raises, or it returns the execution context, of which it is known whether the latest context
failed. `firstError` is what `get_first_error_execution_node` does afterwards: it raises, or
it finds a node or none. -/
structure PipelineWrapper where
  pipeline : PipelineId
  started : Except PyError (Option (Except PyError Bool))
  firstError : Except PyError Bool
  logger : Bool
deriving DecidableEq, Repr

namespace PipelineWrapper

/-- `_send_wrapper_lifecycle_event` -/
def message (wrapper : PipelineWrapper) (state : PipelineExecutionState)
    (event : LifecycleEvent) : LifecycleMessage :=
  ⟨event, wrapper.pipeline, state⟩

/-- `_handle_pipeline_execution` behind the start of the pipeline: the messages, the state
that it ends in, and the exception that it keeps. When a failure is logged, the node is asked
for its task, which nodes do not have. -/
def handleResult (wrapper : PipelineWrapper) :
    List LifecycleMessage × PipelineExecutionState × Option PyError :=
  let failure := fun error =>
    ([wrapper.message .failed (.wrapperFailed error)], .failed, some error)
  let success := fun context =>
    ([wrapper.message .completed (.pipelineExecutionEnd context)], .completed, none)
  match wrapper.started with
  | .error error => failure error
  | .ok none => success none
  | .ok (some (.error error)) => failure error
  | .ok (some (.ok true)) =>
      match wrapper.firstError with
      | .error error => failure error
      | .ok found =>
          if wrapper.logger && found then
            failure (.attributeError "'EventExecutionContext' object has no attribute 'task'")
          else
            ([], .failed, none)
  | .ok (some (.ok false)) => success (some ⟨wrapper.pipeline, .ok false⟩)

/-- The messages of `run`, every one of which reaches the queue: `put` does not raise as long as the
manager process of the queue is there. -/
def run (wrapper : PipelineWrapper) : List LifecycleMessage :=
  let (messages, _, exception) := wrapper.handleResult
  wrapper.message .initializing .wrapperStarted ::
    wrapper.message .running (.pipelineExecutionStart wrapper.pipeline) ::
    messages ++ [wrapper.message .finished (.wrapperFinished exception.isSome)]

def succeeded (wrapper : PipelineWrapper) : Bool :=
  wrapper.handleResult.2.1 = .completed

end PipelineWrapper

/-! ## Steps of the process -/

/-- A message on the queue of a batch. -/
inductive Message
  | pipelineSignal (message : SignalMessage SignalValue)
  | wrapperLifecycle (message : LifecycleMessage)
deriving DecidableEq, Repr

inductive MonitorAction
  | create (batchClass fieldBatchOps : Nat)
  | begin
  | receive (message : Message)
  | shutdown
deriving DecidableEq, Repr

/-- What happens in the process: a monitor acts, or something else emits a signal, such as a
pipeline that runs in this process. -/
inductive ProcessStep
  | monitor (id : MonitorId) (action : MonitorAction) (now : Time)
  | emission (signal : MonitoredSignal) (sender : Sender)
      (kwargs : List (String × SignalValue)) (now : Time)
deriving DecidableEq, Repr

namespace Process

/-- The signals that `import_string` finds. -/
def importSignal (name : String) : Option MonitoredSignal :=
  [.pipelineExecutionStart, .pipelineExecutionEnd, .pipelineMetricsUpdated,
    .batchPipelineStarted, .batchPipelineFinished].find? fun signal => signal.name = name

/-- `construct_signal` and `_handle_wrapper_lifecycle_event`: the emission that a message
leads to. Other signals have no monitors among their listeners. -/
def emissionOf (monitor : Monitor) :
    Message → Option (MonitoredSignal × Sender × List (String × SignalValue))
  | .pipelineSignal message =>
      if message.sender.truthy then
        (importSignal message.signal).map fun signal => (signal, message.sender, message.kwargs)
      else
        none
  | .wrapperLifecycle message =>
      match message.event with
      | .pipelineExecutionStart pipeline =>
          some (.pipelineExecutionStart, monitor.sender, [("pipeline", .pipeline pipeline)])
      | .pipelineExecutionEnd context =>
          some (.pipelineExecutionEnd, monitor.sender,
            [("execution_context", (context.map SignalValue.executionContext).getD .none)])
      | .wrapperStarted | .wrapperFailed _ | .wrapperFinished _ => none

def batchStarted (monitor : Monitor) : List (String × SignalValue) :=
  [("batch", .logged), ("total_pipelines", .number monitor.metrics.totalPipelines),
    ("timestamp", .logged)]

def batchFinished : List (String × SignalValue) :=
  [("batch", .logged), ("metrics", .logged), ("success_rate", .logged),
    ("total_duration", .logged), ("timestamp", .logged)]

def begun (monitor : Monitor) (now : Time) : Monitor :=
  { monitor with
    batchStartedEmitted := true
    metrics := { monitor.metrics with
      startTime := some now
      totalPipelines := if monitor.fieldBatchOps = 0 then 1 else monitor.fieldBatchOps } }

/-- What a monitor emits when it acts. A thread starts once, takes messages as long as it
runs, and ends with a shutdown. -/
def emissionAt (monitor : Monitor) (now : Time) :
    MonitorAction → Option (MonitoredSignal × Sender × List (String × SignalValue))
  | .create _ _ => none
  | .begin =>
      if monitor.batchStartedEmitted then none
      else some (.batchPipelineStarted, monitor.sender, batchStarted (begun monitor now))
  | .receive message => if monitor.running then emissionOf monitor message else none
  | .shutdown =>
      if monitor.running then some (.batchPipelineFinished, monitor.sender, batchFinished)
      else none

def emitAt (process : Process) (now : Time) :
    Option (MonitoredSignal × Sender × List (String × SignalValue)) → Process
  | none => process
  | some (signal, sender, kwargs) => process.emit signal sender kwargs now

/-- The rest of `shutdown`, behind the emission. -/
def closeMonitor (process : Process) (id : MonitorId) (monitor : Monitor) : Process :=
  let cleaned :=
    if monitor.signalsConnected then process.cleanupSignalListeners id monitor else process
  match cleaned.monitors id with
  | none => cleaned
  | some monitor =>
      cleaned.setMonitor id { monitor with signalsConnected := false, shutdownFlag := true }

def act (process : Process) (id : MonitorId) (action : MonitorAction) (now : Time) : Process :=
  match process.monitors id with
  | none =>
      match action with
      | .create batchClass fieldBatchOps =>
          let monitor : Monitor := { batchClass, fieldBatchOps }
          (process.setMonitor id monitor).setupSignalListeners id monitor
      | .begin | .receive _ | .shutdown => process
  | some monitor =>
      let emission := emissionAt monitor now action
      match action with
      | .create _ _ => process
      | .begin =>
          if monitor.batchStartedEmitted then process
          else (process.setMonitor id (begun monitor now)).emitAt now emission
      | .receive _ => process.emitAt now emission
      | .shutdown =>
          if monitor.running then (process.emitAt now emission).closeMonitor id monitor
          else process

def step (process : Process) : ProcessStep → Process
  | .monitor id action now => process.act id action now
  | .emission signal sender kwargs now => process.emit signal sender kwargs now

def after (steps : List ProcessStep) : Process :=
  steps.foldl step {}

end Process

end EventPipeline
