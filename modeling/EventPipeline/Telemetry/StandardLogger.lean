import EventPipeline.Result.Refinement

/-! # The standard telemetry logger

The logger keeps the metrics of the events in a result set. An event is looked up by its name and
its task; the look-up raises when it finds no metric, or more than one. A metric is a mutable
object that is stored under its own identity only, so that assigning to it changes one entry.
-/

namespace EventPipeline

/-- `uuid.uuid4()` gives a new identifier each time. -/
structure IdentitySource where
  identity : Nat → String
  injective : Function.Injective identity

inductive MetricStatus
  | pending
  | failed
  | completed
deriving DecidableEq, Repr

structure EventMetrics (Time : Type) where
  id : String
  eventName : String
  taskId : String
  startTime : Time
  endTime : Option Time := none
  status : MetricStatus := .pending
  error : Option String := none
  retryCount : Nat := 0
  processId : Option Int := none
  pipelineId : Option String := none
deriving DecidableEq, Repr

instance {Time : Type} : ObjectIdentity (EventMetrics Time) where
  id := EventMetrics.id
  truthy := fun _ => true
  connector := fun _ => none
  objectImportStr := fun _ => "nexus.telemetry.logger.EventMetrics"

/-! ## Looking up -/

/-- What `ResultSet.get` raises, with its filters and the number of results. -/
inductive LookupError
  | keyError (filters : List (String × String))
  | multiValueError (filters : List (String × String)) (found : Nat)
deriving DecidableEq, Repr

namespace ResultContent

variable {Entity : Type}

/-- `_matches_filters` for filters that name plain attributes. -/
def matchesFilters (getattr : Entity → String → Option String) (filters : List (String × String))
    (result : Entity) : Bool :=
  filters.all fun filter => getattr result filter.1 == some filter.2

variable [ObjectIdentity Entity]

/-- `filter` for filters other than the identity alone. -/
def filter (getattr : Entity → String → Option String) (content : ResultContent Entity)
    (filters : List (String × String)) : ResultContent Entity :=
  (content.iter.filter (matchesFilters getattr filters)).foldl store []

def get (getattr : Entity → String → Option String) (content : ResultContent Entity)
    (filters : List (String × String)) : Except LookupError Entity :=
  match (content.filter getattr filters).iter with
  | [] => .error (.keyError filters)
  | [result] => .ok result
  | results => .error (.multiValueError filters results.length)

end ResultContent

/-! ## The logger -/

structure StandardTelemetryLogger (Time : Type) where
  metrics : ResultContent (EventMetrics Time) := []
  publishers : List (EventMetrics Time → Except String Unit) := []
  /-- The messages of `logger.error`. -/
  logged : List String := []
  /-- How many identifiers have been generated. -/
  generated : Nat := 0

namespace EventMetrics

variable {Time : Type}

/-- The attributes that the logger looks up. -/
def getattr (metric : EventMetrics Time) : String → Option String
  | "event_name" => some metric.eventName
  | "task_id" => some metric.taskId
  | _ => none

end EventMetrics

namespace StandardTelemetryLogger

variable {Time : Type}

def startEvent (source : IdentitySource) (logger : StandardTelemetryLogger Time) (now : Time)
    (eventName taskId : String) (processId : Option Int) (pipelineId : Option String) :
    StandardTelemetryLogger Time :=
  { logger with
    metrics := logger.metrics.store
      { id := source.identity logger.generated, eventName := eventName, taskId := taskId,
        startTime := now, processId := processId, pipelineId := pipelineId }
    generated := logger.generated + 1 }

/-- `self._metrics.get(event_name=name, task_id=task_id)` -/
def getMetric (logger : StandardTelemetryLogger Time) (name taskId : String) :
    Except LookupError (EventMetrics Time) :=
  logger.metrics.get EventMetrics.getattr [("event_name", name), ("task_id", taskId)]

/-- Assign to the attributes of a metric. -/
def modifyMetric (logger : StandardTelemetryLogger Time) (metric : EventMetrics Time)
    (update : EventMetrics Time → EventMetrics Time) : StandardTelemetryLogger Time :=
  { logger with
    metrics := logger.metrics.map fun entry =>
      if entry.1 = metric.id then (entry.1, update entry.2) else entry }

/-- `"failed" if error else "completed"` -/
def endStatus : Option String → MetricStatus
  | none | some "" => .completed
  | some _ => .failed

/-- The assignments of `end_event`. -/
def ended (now : Time) (error : Option String) (metric : EventMetrics Time) :
    EventMetrics Time :=
  { metric with endTime := some now, status := endStatus error, error := error }

def publish (logger : StandardTelemetryLogger Time) (metric : EventMetrics Time) :
    StandardTelemetryLogger Time :=
  { logger with
    logged := logger.logged ++ logger.publishers.filterMap fun publisher =>
      match publisher metric with
      | .ok () => none
      | .error error => some ("Failed to publish metrics: " ++ error) }

/-- Several metrics are logged as an error. A `KeyError` is neither of the exceptions that are
handled. -/
def endEvent (logger : StandardTelemetryLogger Time) (now : Time) (taskId name : String)
    (error : Option String) : StandardTelemetryLogger Time × Except LookupError Unit :=
  match logger.getMetric name taskId with
  | .ok metric =>
      ((logger.modifyMetric metric (ended now error)).publish (ended now error metric), .ok ())
  | .error (.multiValueError _ _) =>
      ({ logger with
        logged := logger.logged ++
          ["Multiple metrics found for event_name='" ++ name ++ "' and task_id='" ++ taskId ++
            "'. This suggests you may be using the wrong logger type. " ++
            "Consider using DefaultBatchTelemetryLogger for batch processing."] }, .ok ())
  | .error raised => (logger, .error raised)

def retried (metric : EventMetrics Time) : EventMetrics Time :=
  { metric with retryCount := metric.retryCount + 1 }

def recordRetry (logger : StandardTelemetryLogger Time) (taskId name : String) :
    StandardTelemetryLogger Time × Except LookupError Unit :=
  match logger.getMetric name taskId with
  | .ok metric => (logger.modifyMetric metric retried, .ok ())
  | .error raised => (logger, .error raised)

end StandardTelemetryLogger

end EventPipeline
