import EventPipeline.Exceptions
import EventPipeline.Signal.Forwarding

/-! # Monitors of batches

The monitor of a batch counts the pipelines that start and end. It learns of them through
signals that it emits itself when it takes a message from the queue of its batch. The
signals are objects of the process, and so are their listeners.
-/

namespace EventPipeline

abbrev PipelineId := Nat

abbrev MonitorId := Nat

/-- A reading of the clock. Readings are never zero. -/
abbrev Time := Int

structure PipelineExecutionMetrics where
  totalPipelines : Nat := 0
  started : Nat := 0
  completed : Nat := 0
  failed : Nat := 0
  active : Nat := 0
  startTime : Option Time := none
  endTime : Option Time := none
  executionDurations : List Time := []
deriving DecidableEq, Repr

/-- An execution context, as far as the monitor reads it: its pipeline, and whether the
latest context of the list failed. -/
structure ContextRef where
  pipeline : PipelineId
  latestFailed : Except PyError Bool
deriving DecidableEq, Repr

/-- The values of the arguments of signals. Those that are only logged are `logged`. -/
inductive SignalValue
  | none
  | pipeline (pipeline : PipelineId)
  | executionContext (context : ContextRef)
  | number (value : Nat)
  | logged
deriving DecidableEq, Repr

/-! ## Handlers -/

structure Monitor where
  batchClass : Nat
  fieldBatchOps : Nat
  metrics : PipelineExecutionMetrics := {}
  activePipelines : List PipelineId := []
  pipelineStartTimes : List (PipelineId × Time) := []
  signalsConnected : Bool := true
  batchStartedEmitted : Bool := false
  shutdownFlag : Bool := false
deriving DecidableEq, Repr

inductive Handler
  | onPipelineStarted
  | onPipelineEnded
  | onMetricsUpdated
  | onBatchStarted
  | onBatchFinished
deriving DecidableEq, Repr

namespace Monitor

def running (monitor : Monitor) : Bool :=
  monitor.batchStartedEmitted && !monitor.shutdownFlag

def sender (monitor : Monitor) : Sender :=
  .object monitor.batchClass true

/-- The metrics are emitted in turn, which is only logged. -/
def onPipelineStarted (monitor : Monitor) (kwargs : List (String × SignalValue)) (now : Time) :
    Monitor :=
  match OrderedDict.get "pipeline" kwargs with
  | some (.pipeline pipeline) =>
      let active := addNew monitor.activePipelines pipeline
      { monitor with
        activePipelines := active
        pipelineStartTimes := OrderedDict.insert pipeline now monitor.pipelineStartTimes
        metrics := { monitor.metrics with
          started := monitor.metrics.started + 1
          active := active.length } }
  | _ => monitor

/-- Without an execution context the handler raises before it changes anything. -/
def onPipelineEnded (monitor : Monitor) (kwargs : List (String × SignalValue)) (now : Time) :
    Monitor :=
  match OrderedDict.get "execution_context" kwargs with
  | some (.executionContext context) =>
      let active := monitor.activePipelines.filter (· ≠ context.pipeline)
      let durations :=
        match OrderedDict.get context.pipeline monitor.pipelineStartTimes with
        | some startTime => monitor.metrics.executionDurations ++ [now - startTime]
        | none => monitor.metrics.executionDurations
      let success :=
        match context.latestFailed with
        | .ok failed => !failed
        | .error _ => (OrderedDict.get "exception" kwargs).isNone
      { monitor with
        activePipelines := active
        pipelineStartTimes :=
          monitor.pipelineStartTimes.filter fun entry => entry.1 ≠ context.pipeline
        metrics := { monitor.metrics with
          executionDurations := durations
          completed := monitor.metrics.completed + if success then 1 else 0
          failed := monitor.metrics.failed + if success then 0 else 1
          active := active.length } }
  | _ => monitor

def onBatchStarted (monitor : Monitor) (kwargs : List (String × SignalValue)) (now : Time) :
    Monitor :=
  match monitor.metrics.startTime with
  | some _ => monitor
  | none =>
      { monitor with
        metrics := { monitor.metrics with
          startTime := some now
          totalPipelines :=
            match OrderedDict.get "total_pipelines" kwargs with
            | some (.number total) => total
            | _ => 1 } }

def onBatchFinished (monitor : Monitor) (now : Time) : Monitor :=
  match monitor.metrics.endTime with
  | some _ => monitor
  | none => { monitor with metrics := { monitor.metrics with endTime := some now } }

/-- What a handler changes. `_on_metrics_updated` only logs. -/
def handle (monitor : Monitor) (handler : Handler) (kwargs : List (String × SignalValue))
    (now : Time) : Monitor :=
  match handler with
  | .onPipelineStarted => monitor.onPipelineStarted kwargs now
  | .onPipelineEnded => monitor.onPipelineEnded kwargs now
  | .onMetricsUpdated => monitor
  | .onBatchStarted => monitor.onBatchStarted kwargs now
  | .onBatchFinished => monitor.onBatchFinished now

end Monitor

/-! ## The process -/

abbrev MonitorListener := MonitorId × Handler

inductive MonitoredSignal
  | pipelineExecutionStart
  | pipelineExecutionEnd
  | pipelineMetricsUpdated
  | batchPipelineStarted
  | batchPipelineFinished
deriving DecidableEq, Repr

def Handler.signal : Handler → MonitoredSignal
  | .onPipelineStarted => .pipelineExecutionStart
  | .onPipelineEnded => .pipelineExecutionEnd
  | .onMetricsUpdated => .pipelineMetricsUpdated
  | .onBatchStarted => .batchPipelineStarted
  | .onBatchFinished => .batchPipelineFinished

namespace MonitoredSignal

def name : MonitoredSignal → String
  | .pipelineExecutionStart => "pipeline_execution_start"
  | .pipelineExecutionEnd => "pipeline_execution_end"
  | .pipelineMetricsUpdated => "pipeline_metrics_updated"
  | .batchPipelineStarted => "batch_pipeline_started"
  | .batchPipelineFinished => "batch_pipeline_finished"

def provideArgs : MonitoredSignal → List String
  | .pipelineExecutionStart => ["pipeline"]
  | .pipelineExecutionEnd => ["execution_context"]
  | .pipelineMetricsUpdated =>
      ["batch_id", "metrics", "active_count", "completion_rate", "timestamp"]
  | .batchPipelineStarted => ["batch", "total_pipelines", "timestamp"]
  | .batchPipelineFinished => ["batch", "metrics", "success_rate", "total_duration", "timestamp"]

def initial (signal : MonitoredSignal) : SoftSignal MonitorListener where
  name := signal.name
  provideArgs := signal.provideArgs
  distinct := by cases signal <;> decide

end MonitoredSignal

/-- The monitors of a process, and its signals. Listeners that are not monitors are left out:
they do not change monitors. -/
structure Process where
  monitors : MonitorId → Option Monitor := fun _ => none
  signals : MonitoredSignal → SoftSignal MonitorListener := MonitoredSignal.initial

namespace Process

def setMonitor (process : Process) (id : MonitorId) (monitor : Monitor) : Process :=
  { process with monitors := Function.update process.monitors id (some monitor) }

def setSignal (process : Process) (signal : MonitoredSignal)
    (value : SoftSignal MonitorListener) : Process :=
  { process with signals := Function.update process.signals signal value }

def call (process : Process) (now : Time)
    (call : SoftSignal.Invocation MonitorListener SignalValue) : Process :=
  match process.monitors call.listener.1 with
  | none => process
  | some monitor =>
      process.setMonitor call.listener.1 (monitor.handle call.listener.2 call.kwargs now)

/-- The effect of an emission. An exception is logged where the message is processed. -/
def emit (process : Process) (signal : MonitoredSignal) (sender : Sender)
    (kwargs : List (String × SignalValue)) (now : Time) : Process :=
  match (process.signals signal).emit (fun _ => true) sender kwargs with
  | .error _ => process
  | .ok calls => calls.foldl (fun process call => process.call now call) process

def connect (process : Process) (signal : MonitoredSignal) (sender : Sender)
    (listener : MonitorListener) : Process :=
  process.setSignal signal ((process.signals signal).connect sender listener)

def disconnect (process : Process) (signal : MonitoredSignal) (sender : Sender)
    (listener : MonitorListener) : Process :=
  process.setSignal signal ((process.signals signal).disconnect sender listener)

def setupSignalListeners (process : Process) (id : MonitorId) (monitor : Monitor) : Process :=
  ((((process.connect .pipelineExecutionStart .none (id, .onPipelineStarted)).connect
    .pipelineExecutionEnd .none (id, .onPipelineEnded)).connect
    .pipelineMetricsUpdated monitor.sender (id, .onMetricsUpdated)).connect
    .batchPipelineStarted monitor.sender (id, .onBatchStarted)).connect
    .batchPipelineFinished monitor.sender (id, .onBatchFinished)

/-- `_cleanup_signal_listeners`: the class of the batch is the sender throughout. -/
def cleanupSignalListeners (process : Process) (id : MonitorId) (monitor : Monitor) : Process :=
  ((((process.disconnect .pipelineExecutionStart monitor.sender (id, .onPipelineStarted)).disconnect
    .pipelineExecutionEnd monitor.sender (id, .onPipelineEnded)).disconnect
    .batchPipelineStarted monitor.sender (id, .onBatchStarted)).disconnect
    .batchPipelineFinished monitor.sender (id, .onBatchFinished)).disconnect
    .pipelineMetricsUpdated monitor.sender (id, .onMetricsUpdated)

end Process

end EventPipeline
