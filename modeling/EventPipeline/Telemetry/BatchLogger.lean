import EventPipeline.Telemetry.Pairing
import Mathlib.Data.List.Induction

/-! # The batch telemetry logger

The logger keeps one result set of metrics for each pipeline. What it records for a pipeline is
what the standard logger would record for the calls of this pipeline alone; they differ in what
they raise.
-/

namespace EventPipeline

variable {Time : Type}

/-! ## What a logger records -/

def TelemetryCall.starts : TelemetryCall → Nat
  | startEvent _ _ _ _ => 1
  | recordRetry _ _ | endEvent _ _ _ => 0

namespace EventMetrics

/-- The metric without the identity that was generated for it. -/
def anonymous (metric : EventMetrics Time) : EventMetrics Time :=
  { metric with id := "" }

def updateOnly (name taskId : String) (update : EventMetrics Time → EventMetrics Time)
    (metrics : List (EventMetrics Time)) : List (EventMetrics Time) :=
  match metrics.filter (isOf name taskId) with
  | [_] => metrics.map fun metric => if metric.isOf name taskId then update metric else metric
  | _ => metrics

def record (now : Time) (metrics : List (EventMetrics Time)) :
    TelemetryCall → List (EventMetrics Time)
  | .startEvent eventName taskId processId pipelineId =>
      metrics ++ [{ id := "", eventName, taskId, startTime := now, processId, pipelineId }]
  | .recordRetry taskId name =>
      updateOnly name taskId StandardTelemetryLogger.retried metrics
  | .endEvent taskId name error =>
      updateOnly name taskId (StandardTelemetryLogger.ended now error) metrics

theorem length_updateOnly (name taskId : String)
    (update : EventMetrics Time → EventMetrics Time) (metrics : List (EventMetrics Time)) :
    (updateOnly name taskId update metrics).length = metrics.length := by
  rw [updateOnly]
  split
  · exact List.length_map _
  · rfl

theorem length_record (now : Time) (metrics : List (EventMetrics Time)) (call : TelemetryCall) :
    (record now metrics call).length = metrics.length + call.starts := by
  cases call with
  | startEvent => exact List.length_append
  | recordRetry | endEvent => exact length_updateOnly _ _ _ metrics

theorem eq_nil_of_record {now : Time} {metrics : List (EventMetrics Time)}
    {call : TelemetryCall} (empty : record now metrics call = []) : metrics = [] := by
  have length := length_record now metrics call
  rw [empty, List.length_nil] at length
  exact List.length_eq_zero_iff.mp (by omega)

def recorded (calls : List (Time × TelemetryCall)) : List (EventMetrics Time) :=
  calls.foldl (fun metrics call => record call.1 metrics call.2) []

end EventMetrics

/-! ## The logger -/

structure DefaultBatchTelemetryLogger (Time : Type) where
  metrics : List (Option String × ResultContent (EventMetrics Time)) := []
  publishers : List (EventMetrics Time → Except String Unit) := []
  logged : List String := []
  generated : Nat := 0

inductive BatchLookupError
  | keyError (pipelineId : Option String)
  | lookup (raised : LookupError)
deriving DecidableEq, Repr

namespace DefaultBatchTelemetryLogger

/-- `self._metrics.setdefault(pipeline_id, ResultSet([])).add(...)` -/
def startEvent (source : IdentitySource) (logger : DefaultBatchTelemetryLogger Time) (now : Time)
    (eventName taskId : String) (processId : Option Int) (pipelineId : Option String) :
    DefaultBatchTelemetryLogger Time :=
  let pipelineMetrics := (OrderedDict.get pipelineId logger.metrics).getD []
  let metric : EventMetrics Time :=
    { id := source.identity logger.generated, eventName, taskId, startTime := now, processId,
      pipelineId }
  { logger with
    metrics := OrderedDict.insert pipelineId (pipelineMetrics.store metric) logger.metrics
    generated := logger.generated + 1 }

/-- `pipeline_metrics.get(event_name=name, task_id=task_id)` -/
def getMetric (pipelineMetrics : ResultContent (EventMetrics Time)) (name taskId : String) :
    Except LookupError (EventMetrics Time) :=
  pipelineMetrics.get EventMetrics.getattr [("event_name", name), ("task_id", taskId)]

def modifyMetric (logger : DefaultBatchTelemetryLogger Time) (pipelineId : Option String)
    (pipelineMetrics : ResultContent (EventMetrics Time)) (metric : EventMetrics Time)
    (update : EventMetrics Time → EventMetrics Time) : DefaultBatchTelemetryLogger Time :=
  { logger with
    metrics := OrderedDict.insert pipelineId
      (pipelineMetrics.map fun entry =>
        if entry.1 = metric.id then (entry.1, update entry.2) else entry) logger.metrics }

def publish (logger : DefaultBatchTelemetryLogger Time) (metric : EventMetrics Time) :
    DefaultBatchTelemetryLogger Time :=
  { logger with
    logged := logger.logged ++ logger.publishers.filterMap fun publisher =>
      match publisher metric with
      | .ok () => none
      | .error error => some ("Failed to publish metrics: " ++ error) }

/-- A pipeline that is not known is logged as an error. Nothing that the look-up raises is
handled. -/
def endEvent (logger : DefaultBatchTelemetryLogger Time) (now : Time) (taskId name : String)
    (error : Option String) (pipelineId : Option String) :
    DefaultBatchTelemetryLogger Time × Except BatchLookupError Unit :=
  match OrderedDict.get pipelineId logger.metrics with
  | none =>
      ({ logger with
        logged := logger.logged ++
          ["No metrics found for pipeline_id='" ++ pipelineId.getD "None" ++
            "'. Make sure start_event was called before end_event."] }, .ok ())
  | some pipelineMetrics =>
      match getMetric pipelineMetrics name taskId with
      | .ok metric =>
          let metrics := StandardTelemetryLogger.ended now error metric
          ((logger.modifyMetric pipelineId pipelineMetrics metric
            (StandardTelemetryLogger.ended now error)).publish metrics, .ok ())
      | .error raised => (logger, .error (.lookup raised))

def recordRetry (logger : DefaultBatchTelemetryLogger Time) (taskId name : String)
    (pipelineId : Option String) :
    DefaultBatchTelemetryLogger Time × Except BatchLookupError Unit :=
  match OrderedDict.get pipelineId logger.metrics with
  | none => (logger, .error (.keyError pipelineId))
  | some pipelineMetrics =>
      match getMetric pipelineMetrics name taskId with
      | .ok metric =>
          (logger.modifyMetric pipelineId pipelineMetrics metric StandardTelemetryLogger.retried,
            .ok ())
      | .error raised => (logger, .error (.lookup raised))

def getMetrics (logger : DefaultBatchTelemetryLogger Time) (pipelineId : Option String) :
    Except BatchLookupError (ResultContent (EventMetrics Time)) :=
  match OrderedDict.get pipelineId logger.metrics with
  | none => .error (.keyError pipelineId)
  | some pipelineMetrics => .ok pipelineMetrics

end DefaultBatchTelemetryLogger

/-! ## Calls -/

inductive BatchCall
  | startEvent (eventName taskId : String) (processId : Option Int) (pipelineId : Option String)
  | recordRetry (taskId name : String) (pipelineId : Option String)
  | endEvent (taskId name : String) (error : Option String) (pipelineId : Option String)
deriving DecidableEq, Repr

namespace BatchCall

def pipelineId : BatchCall → Option String
  | startEvent _ _ _ pipelineId | recordRetry _ _ pipelineId | endEvent _ _ _ pipelineId =>
      pipelineId

def standard : BatchCall → TelemetryCall
  | startEvent eventName taskId processId pipelineId =>
      .startEvent eventName taskId processId pipelineId
  | recordRetry taskId name _ => .recordRetry taskId name
  | endEvent taskId name error _ => .endEvent taskId name error

def only (pipelineId : Option String) (calls : List (Time × BatchCall)) :
    List (Time × TelemetryCall) :=
  (calls.filter fun call => call.2.pipelineId = pipelineId).map fun call =>
    (call.1, call.2.standard)

end BatchCall

namespace DefaultBatchTelemetryLogger

def step (source : IdentitySource) (logger : DefaultBatchTelemetryLogger Time) (now : Time) :
    BatchCall → DefaultBatchTelemetryLogger Time × Except BatchLookupError Unit
  | .startEvent eventName taskId processId pipelineId =>
      (logger.startEvent source now eventName taskId processId pipelineId, .ok ())
  | .recordRetry taskId name pipelineId => logger.recordRetry taskId name pipelineId
  | .endEvent taskId name error pipelineId => logger.endEvent now taskId name error pipelineId

def after (source : IdentitySource) (publishers : List (EventMetrics Time → Except String Unit))
    (calls : List (Time × BatchCall)) : DefaultBatchTelemetryLogger Time :=
  calls.foldl (fun logger call => (logger.step source call.1 call.2).1)
    { publishers := publishers }

def metricsOf (logger : DefaultBatchTelemetryLogger Time) (pipelineId : Option String) :
    ResultContent (EventMetrics Time) :=
  (OrderedDict.get pipelineId logger.metrics).getD []

def part (logger : DefaultBatchTelemetryLogger Time) (pipelineId : Option String) :
    StandardTelemetryLogger Time where
  metrics := logger.metricsOf pipelineId
  publishers := logger.publishers
  logged := logger.logged
  generated := logger.generated

/-- What a call returns or raises, where the standard logger has recorded these metrics of the
pipeline. Only the batch logger looks up the pipeline, and only the standard logger handles the
exception for several metrics. -/
def replyFor (standard : StandardTelemetryLogger Time) : BatchCall → Except BatchLookupError Unit
  | .startEvent _ _ _ _ => .ok ()
  | .recordRetry taskId name pipelineId =>
      if standard.metrics.iter = [] then .error (.keyError pipelineId)
      else ((standard.getMetric name taskId).map fun _ => ()).mapError .lookup
  | .endEvent taskId name _ _ =>
      if standard.metrics.iter = [] then .ok ()
      else ((standard.getMetric name taskId).map fun _ => ()).mapError .lookup

end DefaultBatchTelemetryLogger

/-! ## The standard logger records -/

namespace StandardTelemetryLogger

variable {source : IdentitySource} {logger : StandardTelemetryLogger Time} {name taskId : String}

theorem generated_step (now : Time) (call : TelemetryCall) :
    (logger.step source now call).1.generated = logger.generated + call.starts := by
  cases call with
  | startEvent eventName taskId processId pipelineId => rfl
  | recordRetry taskId name =>
      rw [step, recordRetry]
      split <;> rfl
  | endEvent taskId name error =>
      rw [step, endEvent]
      split <;> rfl

theorem Sound.of_le (sound : Sound source logger) {other : StandardTelemetryLogger Time}
    (same : other.metrics = logger.metrics) (later : logger.generated ≤ other.generated) :
    Sound source other where
  keyed := same ▸ sound.keyed
  nodup := same ▸ sound.nodup
  generated := by
    intro key member
    rcases sound.generated key (same ▸ member) with ⟨number, earlier, identity⟩
    exact ⟨number, Nat.lt_of_lt_of_le earlier later, identity⟩
  status := same ▸ sound.status
  last := same ▸ sound.last

theorem filter_anonymous (metrics : List (EventMetrics Time)) :
    (metrics.map EventMetrics.anonymous).filter (EventMetrics.isOf name taskId) =
      (metrics.filter (EventMetrics.isOf name taskId)).map EventMetrics.anonymous :=
  List.filter_map

theorem updateOnly_of_ne_one {update : EventMetrics Time → EventMetrics Time}
    {metrics : List (EventMetrics Time)}
    (other : ∀ metric, metrics.filter (EventMetrics.isOf name taskId) ≠ [metric]) :
    EventMetrics.updateOnly name taskId update (metrics.map EventMetrics.anonymous) =
      metrics.map EventMetrics.anonymous := by
  rw [EventMetrics.updateOnly, filter_anonymous]
  cases found : metrics.filter (EventMetrics.isOf name taskId) with
  | nil => rfl
  | cons first rest =>
      cases rest with
      | nil => exact absurd found (other first)
      | cons second rest => rfl

theorem Sound.anonymous_modifyMetric (sound : Sound source logger)
    {metric : EventMetrics Time} {update : EventMetrics Time → EventMetrics Time}
    (found : logger.metrics.iter.filter (EventMetrics.isOf name taskId) = [metric])
    (commutes : ∀ metric : EventMetrics Time,
      (update metric).anonymous = update metric.anonymous) :
    (logger.modifyMetric metric update).metrics.iter.map EventMetrics.anonymous =
      EventMetrics.updateOnly name taskId update
        (logger.metrics.iter.map EventMetrics.anonymous) := by
  have ⟨member, own⟩ := Sound.mem_of_found found
  rw [EventMetrics.updateOnly, filter_anonymous, found, sound.iter_modifyMetric]
  simp only [List.map_cons, List.map_nil, List.map_map]
  apply List.map_congr_left
  intro other stored
  have same : other.id = metric.id ↔ other.isOf name taskId = true := by
    constructor
    · intro same
      rw [sound.eq_of_id_eq member stored same]
      exact own
    · intro event
      have among : other ∈ logger.metrics.iter.filter (EventMetrics.isOf name taskId) :=
        List.mem_filter.mpr ⟨stored, event⟩
      rw [found, List.mem_singleton] at among
      rw [among]
  rw [Function.comp_apply, Function.comp_apply]
  by_cases event : other.isOf name taskId = true
  · rw [if_pos (same.mpr event), if_pos (show other.anonymous.isOf name taskId = true from event)]
    exact commutes other
  · rw [if_neg fun id => event (same.mp id),
      if_neg (show ¬ other.anonymous.isOf name taskId = true from event)]

theorem Sound.anonymous_step (sound : Sound source logger) (now : Time) (call : TelemetryCall) :
    (logger.step source now call).1.metrics.iter.map EventMetrics.anonymous =
      EventMetrics.record now (logger.metrics.iter.map EventMetrics.anonymous) call := by
  cases call with
  | startEvent eventName taskId processId pipelineId =>
      rw [StandardTelemetryLogger.step, sound.iter_startEvent, List.map_append]
      rfl
  | recordRetry taskId name =>
      rw [StandardTelemetryLogger.step, StandardTelemetryLogger.recordRetry, EventMetrics.record]
      rcases found : logger.metrics.iter.filter (EventMetrics.isOf name taskId) with
        _ | ⟨metric, _ | ⟨second, rest⟩⟩
      · rw [sound.getMetric_of_none found, updateOnly_of_ne_one (by simp [found])]
      · rw [sound.getMetric_of_one found]
        exact sound.anonymous_modifyMetric found fun _ => rfl
      · rw [sound.getMetric_of_several found, updateOnly_of_ne_one (by simp [found])]
  | endEvent taskId name error =>
      rw [StandardTelemetryLogger.step, StandardTelemetryLogger.endEvent, EventMetrics.record]
      rcases found : logger.metrics.iter.filter (EventMetrics.isOf name taskId) with
        _ | ⟨metric, _ | ⟨second, rest⟩⟩
      · rw [sound.getMetric_of_none found, updateOnly_of_ne_one (by simp [found])]
      · rw [sound.getMetric_of_one found]
        exact sound.anonymous_modifyMetric found fun _ => rfl
      · rw [sound.getMetric_of_several found, updateOnly_of_ne_one (by simp [found])]

/-- What a look-up returns or raises, by the number of metrics that it finds. -/
def lookupReply (name taskId : String) (found : Nat) : Except LookupError Unit :=
  match found with
  | 0 => .error (.keyError [("event_name", name), ("task_id", taskId)])
  | 1 => .ok ()
  | several => .error (.multiValueError [("event_name", name), ("task_id", taskId)] several)

theorem Sound.getMetric_reply (sound : Sound source logger) (name taskId : String) :
    (logger.getMetric name taskId).map (fun _ => ()) =
      lookupReply name taskId ((logger.metrics.iter.map EventMetrics.anonymous).filter
        (EventMetrics.isOf name taskId)).length := by
  rw [filter_anonymous, List.length_map]
  rcases found : logger.metrics.iter.filter (EventMetrics.isOf name taskId) with
    _ | ⟨metric, _ | ⟨second, rest⟩⟩
  · rw [sound.getMetric_of_none found]
    rfl
  · rw [sound.getMetric_of_one found]
    rfl
  · rw [sound.getMetric_of_several found]
    rfl

theorem anonymous_after (source : IdentitySource)
    (publishers : List (EventMetrics Time → Except String Unit))
    (calls : List (Time × TelemetryCall)) :
    (after source publishers calls).metrics.iter.map EventMetrics.anonymous =
      EventMetrics.recorded calls := by
  induction calls using List.reverseRecOn with
  | nil => rfl
  | append_singleton calls call induction =>
      have sound := sound_after source publishers calls
      rw [EventMetrics.recorded, List.foldl_append, ← EventMetrics.recorded, ← induction, after,
        List.foldl_append, ← after]
      exact sound.anonymous_step call.1 call.2

end StandardTelemetryLogger

/-! ## The batch logger records for each pipeline -/

namespace DefaultBatchTelemetryLogger

variable {source : IdentitySource} {logger : DefaultBatchTelemetryLogger Time}

theorem metrics_part_of_get {pipelineId : Option String}
    {pipelineMetrics : ResultContent (EventMetrics Time)}
    (known : OrderedDict.get pipelineId logger.metrics = some pipelineMetrics) :
    (logger.part pipelineId).metrics = pipelineMetrics := by
  rw [part, metricsOf, known, Option.getD_some]

theorem metrics_part_of_none {pipelineId : Option String}
    (unknown : OrderedDict.get pipelineId logger.metrics = none) :
    (logger.part pipelineId).metrics = [] := by
  rw [part, metricsOf, unknown, Option.getD_none]

theorem getMetric_part {pipelineId : Option String}
    {pipelineMetrics : ResultContent (EventMetrics Time)}
    (known : OrderedDict.get pipelineId logger.metrics = some pipelineMetrics)
    (name taskId : String) :
    (logger.part pipelineId).getMetric name taskId = getMetric pipelineMetrics name taskId := by
  rw [StandardTelemetryLogger.getMetric, metrics_part_of_get known, getMetric]

theorem getMetric_of_empty {standard : StandardTelemetryLogger Time} (name taskId : String)
    (empty : standard.metrics = []) :
    standard.getMetric name taskId =
      .error (.keyError [("event_name", name), ("task_id", taskId)]) := by
  rw [StandardTelemetryLogger.getMetric, empty]
  rfl

theorem metricsOf_modifyMetric {pipelineId : Option String}
    {pipelineMetrics : ResultContent (EventMetrics Time)}
    (known : OrderedDict.get pipelineId logger.metrics = some pipelineMetrics)
    (metric : EventMetrics Time) (update : EventMetrics Time → EventMetrics Time) :
    (logger.modifyMetric pipelineId pipelineMetrics metric update).metricsOf pipelineId =
      ((logger.part pipelineId).modifyMetric metric update).metrics := by
  rw [modifyMetric, metricsOf, OrderedDict.get_insert, if_pos rfl, Option.getD_some,
    StandardTelemetryLogger.modifyMetric, metrics_part_of_get known]

theorem metricsOf_step_same (now : Time) (call : BatchCall) :
    (logger.step source now call).1.metricsOf call.pipelineId =
      ((logger.part call.pipelineId).step source now call.standard).1.metrics := by
  cases call with
  | startEvent eventName taskId processId pipelineId =>
      rw [step, startEvent, metricsOf]
      exact congrArg (Option.getD · []) ((OrderedDict.get_insert _ _ _ _).trans (if_pos rfl))
  | recordRetry taskId name pipelineId =>
      rw [step, recordRetry, BatchCall.standard, StandardTelemetryLogger.step,
        StandardTelemetryLogger.recordRetry, BatchCall.pipelineId]
      cases known : OrderedDict.get pipelineId logger.metrics with
      | none =>
          have empty := metrics_part_of_none known
          rw [getMetric_of_empty name taskId empty]
          rfl
      | some pipelineMetrics =>
          rw [getMetric_part known]
          cases found : getMetric pipelineMetrics name taskId with
          | ok metric =>
              simp only [found]
              exact metricsOf_modifyMetric known metric _
          | error raised =>
              simp only [found]
              rfl
  | endEvent taskId name error pipelineId =>
      rw [step, endEvent, BatchCall.standard, StandardTelemetryLogger.step,
        StandardTelemetryLogger.endEvent, BatchCall.pipelineId]
      cases known : OrderedDict.get pipelineId logger.metrics with
      | none =>
          have empty := metrics_part_of_none known
          rw [getMetric_of_empty name taskId empty]
          rfl
      | some pipelineMetrics =>
          rw [getMetric_part known]
          cases found : getMetric pipelineMetrics name taskId with
          | ok metric =>
              simp only [found]
              exact metricsOf_modifyMetric known metric _
          | error raised =>
              simp only [found]
              cases raised <;> rfl

theorem metricsOf_step_other (now : Time) {call : BatchCall} {pipelineId : Option String}
    (other : pipelineId ≠ call.pipelineId) :
    (logger.step source now call).1.metricsOf pipelineId = logger.metricsOf pipelineId := by
  have inserted : ∀ content : ResultContent (EventMetrics Time),
      (OrderedDict.get pipelineId
        (OrderedDict.insert call.pipelineId content logger.metrics)).getD [] =
          logger.metricsOf pipelineId := by
    intro content
    rw [OrderedDict.get_insert, if_neg other.symm, metricsOf]
  cases call with
  | startEvent eventName taskId processId pipelineId => exact inserted _
  | recordRetry taskId name pipelineId =>
      rw [step, recordRetry]
      split
      · rfl
      · split
        · exact inserted _
        · rfl
  | endEvent taskId name error pipelineId =>
      rw [step, endEvent]
      split
      · rfl
      · split
        · exact inserted _
        · rfl

theorem generated_step (now : Time) (call : BatchCall) :
    (logger.step source now call).1.generated = logger.generated + call.standard.starts := by
  cases call with
  | startEvent eventName taskId processId pipelineId => rfl
  | recordRetry taskId name pipelineId =>
      rw [step, recordRetry]
      split
      · rfl
      · split <;> rfl
  | endEvent taskId name error pipelineId =>
      rw [step, endEvent]
      split
      · rfl
      · split <;> rfl

theorem known_step (now : Time) {call : BatchCall} {pipelineId : Option String}
    (known : OrderedDict.get pipelineId (logger.step source now call).1.metrics ≠ none) :
    OrderedDict.get pipelineId logger.metrics ≠ none ∨
      ∃ eventName taskId processId,
        call = .startEvent eventName taskId processId pipelineId := by
  have inserted : ∀ {content before : ResultContent (EventMetrics Time)} {other : Option String},
      OrderedDict.get other logger.metrics = some before →
      OrderedDict.get pipelineId (OrderedDict.insert other content logger.metrics) ≠ none →
      OrderedDict.get pipelineId logger.metrics ≠ none := by
    intro content before other there later
    rw [OrderedDict.get_insert] at later
    split at later
    · rename_i same
      rw [← same, there]
      exact Option.some_ne_none before
    · exact later
  cases call with
  | startEvent eventName taskId processId other =>
      rw [step, startEvent, OrderedDict.get_insert] at known
      split at known
      · rename_i same
        exact .inr ⟨eventName, taskId, processId, by rw [same]⟩
      · exact .inl known
  | recordRetry taskId name other =>
      left
      rw [step, recordRetry] at known
      split at known
      · exact known
      · rename_i there
        split at known
        · exact inserted there known
        · exact known
  | endEvent taskId name error other =>
      left
      rw [step, endEvent] at known
      split at known
      · exact known
      · rename_i there
        split at known
        · exact inserted there known
        · exact known

structure Sound (source : IdentitySource) (logger : DefaultBatchTelemetryLogger Time) : Prop where
  part : ∀ pipelineId, (logger.part pipelineId).Sound source
  known : ∀ pipelineId, OrderedDict.get pipelineId logger.metrics ≠ none →
    (logger.metricsOf pipelineId).iter ≠ []

theorem Sound.initial (publishers : List (EventMetrics Time → Except String Unit)) :
    Sound source { publishers := publishers } where
  part := fun _ => (StandardTelemetryLogger.Sound.initial publishers).of_eq rfl rfl
  known := fun _ known => absurd rfl known

theorem Sound.anonymous_step (sound : Sound source logger) (now : Time) (call : BatchCall)
    (pipelineId : Option String) :
    ((logger.step source now call).1.metricsOf pipelineId).iter.map EventMetrics.anonymous =
      if call.pipelineId = pipelineId then
        EventMetrics.record now ((logger.metricsOf pipelineId).iter.map EventMetrics.anonymous)
          call.standard
      else (logger.metricsOf pipelineId).iter.map EventMetrics.anonymous := by
  by_cases own : call.pipelineId = pipelineId
  · subst own
    rw [if_pos rfl, metricsOf_step_same]
    exact (sound.part call.pipelineId).anonymous_step now call.standard
  · rw [if_neg own, metricsOf_step_other now fun same => own same.symm]

theorem Sound.step (sound : Sound source logger) (now : Time) (call : BatchCall) :
    Sound source (logger.step source now call).1 := by
  constructor
  · intro pipelineId
    by_cases own : pipelineId = call.pipelineId
    · subst own
      apply ((sound.part call.pipelineId).step now call.standard).of_le
      · exact metricsOf_step_same now call
      · rw [StandardTelemetryLogger.generated_step]
        exact Nat.le_of_eq (generated_step now call).symm
    · apply (sound.part pipelineId).of_le
      · exact metricsOf_step_other now own
      · exact Nat.le_trans (Nat.le_add_right _ _) (Nat.le_of_eq (generated_step now call).symm)
  · intro pipelineId known empty
    have recorded := sound.anonymous_step now call pipelineId
    rw [empty, List.map_nil] at recorded
    rcases known_step now known with earlier | ⟨eventName, taskId, processId, rfl⟩
    · have some := sound.known pipelineId earlier
      split at recorded
      · exact some (List.map_eq_nil_iff.mp (EventMetrics.eq_nil_of_record recorded.symm))
      · exact some (List.map_eq_nil_iff.mp recorded.symm)
    · rw [BatchCall.pipelineId, if_pos rfl] at recorded
      exact List.append_ne_nil_of_right_ne_nil _ (List.cons_ne_nil _ _) recorded.symm

theorem sound_after (source : IdentitySource)
    (publishers : List (EventMetrics Time → Except String Unit))
    (calls : List (Time × BatchCall)) : Sound source (after source publishers calls) := by
  induction calls using List.reverseRecOn with
  | nil => exact .initial publishers
  | append_singleton calls call induction =>
      rw [after, List.foldl_append]
      exact induction.step call.1 call.2

theorem anonymous_after (source : IdentitySource)
    (publishers : List (EventMetrics Time → Except String Unit))
    (calls : List (Time × BatchCall)) (pipelineId : Option String) :
    ((after source publishers calls).metricsOf pipelineId).iter.map EventMetrics.anonymous =
      EventMetrics.recorded (BatchCall.only pipelineId calls) := by
  induction calls using List.reverseRecOn with
  | nil => rfl
  | append_singleton calls call induction =>
      have stepped := (sound_after source publishers calls).anonymous_step call.1 call.2 pipelineId
      rw [after, List.foldl_append, ← after, BatchCall.only, List.filter_append, List.map_append,
        ← BatchCall.only, EventMetrics.recorded, List.foldl_append, ← EventMetrics.recorded,
        ← induction]
      refine stepped.trans ?_
      by_cases own : call.2.pipelineId = pipelineId
      · simp [own]
      · simp [own]

section Replies

variable {otherSource : IdentitySource} {standard : StandardTelemetryLogger Time}

theorem Sound.reply_step (sound : Sound source logger) (alike : standard.Sound otherSource)
    (now : Time) {call : BatchCall}
    (recorded : (logger.metricsOf call.pipelineId).iter.map EventMetrics.anonymous =
      standard.metrics.iter.map EventMetrics.anonymous) :
    (logger.step source now call).2 = replyFor standard call := by
  have empty_iff : standard.metrics.iter = [] ↔
      OrderedDict.get call.pipelineId logger.metrics = none := by
    rw [← @List.map_eq_nil_iff _ _ EventMetrics.anonymous, ← recorded, List.map_eq_nil_iff]
    constructor
    · intro empty
      by_contra known
      exact sound.known call.pipelineId known empty
    · intro unknown
      rw [metricsOf, unknown]
      rfl
  have nonempty : ∀ pipelineMetrics,
      OrderedDict.get call.pipelineId logger.metrics = some pipelineMetrics →
      standard.metrics.iter ≠ [] := by
    intro pipelineMetrics known empty
    rw [empty_iff.mp empty] at known
    cases known
  have found : ∀ name taskId pipelineMetrics,
      OrderedDict.get call.pipelineId logger.metrics = some pipelineMetrics →
      (getMetric pipelineMetrics name taskId).map (fun _ => ()) =
        (standard.getMetric name taskId).map fun _ => () := by
    intro name taskId pipelineMetrics known
    rw [alike.getMetric_reply, ← recorded, ← getMetric_part known,
      (sound.part call.pipelineId).getMetric_reply]
    rfl
  cases call with
  | startEvent eventName taskId processId pipelineId => rfl
  | recordRetry taskId name pipelineId =>
      rw [DefaultBatchTelemetryLogger.step, recordRetry, replyFor]
      rw [BatchCall.pipelineId] at empty_iff nonempty found
      cases known : OrderedDict.get pipelineId logger.metrics with
      | none => rw [if_pos (empty_iff.mpr known)]
      | some pipelineMetrics =>
          rw [if_neg (nonempty pipelineMetrics known), ← found name taskId pipelineMetrics known]
          simp only
          cases getMetric pipelineMetrics name taskId <;> rfl
  | endEvent taskId name error pipelineId =>
      rw [DefaultBatchTelemetryLogger.step, endEvent, replyFor]
      rw [BatchCall.pipelineId] at empty_iff nonempty found
      cases known : OrderedDict.get pipelineId logger.metrics with
      | none => rw [if_pos (empty_iff.mpr known)]
      | some pipelineMetrics =>
          rw [if_neg (nonempty pipelineMetrics known), ← found name taskId pipelineMetrics known]
          simp only
          cases getMetric pipelineMetrics name taskId <;> rfl

/-- Behind any calls, the batch logger has the metrics of each pipeline that a standard logger has
behind the calls for this pipeline, and the next call returns or raises what follows from what
that logger finds. -/
theorem agrees_with_standard (source otherSource : IdentitySource)
    (publishers otherPublishers : List (EventMetrics Time → Except String Unit))
    (calls : List (Time × BatchCall)) :
    (∀ pipelineId,
      ((after source publishers calls).metricsOf pipelineId).iter.map EventMetrics.anonymous =
        (StandardTelemetryLogger.after otherSource otherPublishers
          (BatchCall.only pipelineId calls)).metrics.iter.map EventMetrics.anonymous) ∧
      ∀ now call, ((after source publishers calls).step source now call).2 =
        replyFor (StandardTelemetryLogger.after otherSource otherPublishers
          (BatchCall.only call.pipelineId calls)) call := by
  have alike : ∀ pipelineId,
      ((after source publishers calls).metricsOf pipelineId).iter.map EventMetrics.anonymous =
        (StandardTelemetryLogger.after otherSource otherPublishers
          (BatchCall.only pipelineId calls)).metrics.iter.map EventMetrics.anonymous := by
    intro pipelineId
    rw [anonymous_after, StandardTelemetryLogger.anonymous_after]
  refine ⟨alike, fun now call => ?_⟩
  exact (sound_after source publishers calls).reply_step
    (StandardTelemetryLogger.sound_after otherSource otherPublishers _) now
    (alike call.pipelineId)

end Replies

end DefaultBatchTelemetryLogger

end EventPipeline
