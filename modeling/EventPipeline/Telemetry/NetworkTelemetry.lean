import EventPipeline.Foundation.OrderedDict

/-! # Network telemetry

The metrics of network operations, under the identity of the message that is sent, and the calls
that the publishers get when an operation ends. A publisher that raises is logged, so that all of
them are called.
-/

namespace EventPipeline

structure NetworkMetrics where
  taskId : String
  host : String
  port : Int
  startTime : Int
  endTime : Option Int := none
  bytesSent : Nat := 0
  bytesReceived : Nat := 0
  error : Option String := none
  operation : String := "remote_call"
deriving DecidableEq, Repr

/-- The dictionary that is handed to the publishers. -/
structure NetworkReport where
  taskId : String
  host : String
  port : Int
  operation : String
  latency : Int
  bytesSent : Nat
  bytesReceived : Nat
  error : Option String
deriving DecidableEq, Repr

namespace NetworkMetrics

def latency (metrics : NetworkMetrics) : Int :=
  match metrics.endTime with
  | none => 0
  | some endTime => if endTime = 0 then 0 else endTime - metrics.startTime

def report (metrics : NetworkMetrics) : NetworkReport where
  taskId := metrics.taskId
  host := metrics.host
  port := metrics.port
  operation := metrics.operation
  latency := metrics.latency
  bytesSent := metrics.bytesSent
  bytesReceived := metrics.bytesReceived
  error := metrics.error

end NetworkMetrics

abbrev PublisherId := Nat

/-- The telemetry with the calls of `publish_network_metrics` so far, and the readings of the
clock. -/
structure NetworkTelemetry where
  metrics : List (String × NetworkMetrics) := []
  publishers : List PublisherId := []
  published : List (PublisherId × NetworkReport) := []
  clock : Nat → Int := fun _ => 0
  readings : Nat := 0

namespace NetworkTelemetry

def startOperation (telemetry : NetworkTelemetry) (taskId host : String) (port : Int) :
    NetworkTelemetry :=
  let metrics : NetworkMetrics :=
    { taskId, host, port, startTime := telemetry.clock telemetry.readings }
  { telemetry with
    metrics := OrderedDict.insert taskId metrics telemetry.metrics
    readings := telemetry.readings + 1 }

def endOperation (telemetry : NetworkTelemetry) (taskId : String) (bytesSent bytesReceived : Nat)
    (error : Option String) : NetworkTelemetry :=
  match OrderedDict.get taskId telemetry.metrics with
  | none => telemetry
  | some metrics =>
      let ended : NetworkMetrics :=
        { metrics with
          endTime := some (telemetry.clock telemetry.readings)
          bytesSent
          bytesReceived
          error }
      { telemetry with
        metrics := OrderedDict.insert taskId ended telemetry.metrics
        published := telemetry.published ++
          telemetry.publishers.map fun publisher => (publisher, ended.report)
        readings := telemetry.readings + 1 }

def callsTo (publisher : PublisherId) (calls : List (PublisherId × NetworkReport)) :
    List NetworkReport :=
  (calls.filter fun call => call.1 = publisher).map Prod.snd

/-- Every registered publisher has got exactly one call, and the numbers of bytes are stored and
published. -/
structure ReportedOnce (before after : NetworkTelemetry) (taskId : String)
    (sent received : Nat) : Prop where
  stored : ∃ metrics, OrderedDict.get taskId after.metrics = some metrics ∧
    metrics.bytesSent = sent ∧ metrics.bytesReceived = received
  published : ∃ calls, after.published = before.published ++ calls ∧
    ∀ publisher ∈ before.publishers, ∃ report, callsTo publisher calls = [report] ∧
      report.bytesSent = sent ∧ report.bytesReceived = received

/-! ## Operations and their reports -/

/-- Since `before`, the publishers have been called with the reports, and the metrics of the task
are these. -/
structure Reports (before after : NetworkTelemetry) (taskId : String)
    (reports : List NetworkReport) (metrics : NetworkMetrics) : Prop where
  publishers : after.publishers = before.publishers
  stored : OrderedDict.get taskId after.metrics = some metrics
  published : after.published = before.published ++ reports.flatMap fun report =>
    before.publishers.map fun publisher => (publisher, report)

theorem reports_startOperation (telemetry : NetworkTelemetry) (taskId host : String)
    (port : Int) :
    ∃ metrics, Reports telemetry (telemetry.startOperation taskId host port) taskId [] metrics ∧
      metrics.bytesSent = 0 ∧ metrics.bytesReceived = 0 := by
  refine ⟨{ taskId, host, port, startTime := telemetry.clock telemetry.readings },
    ⟨rfl, ?_, ?_⟩, rfl, rfl⟩
  · rw [startOperation, OrderedDict.get_insert, if_pos rfl]
  · simp [startOperation]

section Ending

variable {before after : NetworkTelemetry} {taskId : String} {reports : List NetworkReport}
  {metrics : NetworkMetrics}

theorem Reports.endOperation (traced : Reports before after taskId reports metrics)
    (sent received : Nat) (error : Option String) :
    ∃ ended, Reports before (after.endOperation taskId sent received error) taskId
        (reports ++ [NetworkMetrics.report ended]) ended ∧
      ended.bytesSent = sent ∧ ended.bytesReceived = received := by
  refine ⟨{ metrics with
    endTime := some (after.clock after.readings), bytesSent := sent,
    bytesReceived := received, error := error }, ⟨?_, ?_, ?_⟩, rfl, rfl⟩
  · simp only [NetworkTelemetry.endOperation, traced.stored]
    exact traced.publishers
  · simp only [NetworkTelemetry.endOperation, traced.stored]
    rw [OrderedDict.get_insert, if_pos rfl]
  · simp only [NetworkTelemetry.endOperation, traced.stored, traced.publishers]
    rw [traced.published]
    simp

theorem callsTo_append (publisher : PublisherId)
    (first second : List (PublisherId × NetworkReport)) :
    callsTo publisher (first ++ second) = callsTo publisher first ++ callsTo publisher second := by
  simp [callsTo]

theorem callsTo_map (publisher : PublisherId) (publishers : List PublisherId)
    (report : NetworkReport) :
    callsTo publisher (publishers.map fun other => (other, report)) =
      List.replicate (publishers.count publisher) report := by
  induction publishers with
  | nil => rfl
  | cons other rest induction =>
      rw [List.map_cons, ← List.singleton_append, callsTo_append, induction, List.count_cons]
      by_cases same : other = publisher
      · simp [callsTo, same, List.replicate_succ]
      · simp [callsTo, same]

theorem length_callsTo (publisher : PublisherId) (publishers : List PublisherId)
    (reports : List NetworkReport) :
    (callsTo publisher (reports.flatMap fun report =>
      publishers.map fun other => (other, report))).length =
        reports.length * publishers.count publisher := by
  induction reports with
  | nil => simp [callsTo]
  | cons report rest induction =>
      rw [List.flatMap_cons, callsTo_append, callsTo_map, List.length_append, induction,
        List.length_replicate, List.length_cons, Nat.succ_mul, Nat.add_comm]

/-- Each publisher gets one call exactly if there is one report and each is registered once, or
if there is no publisher. -/
theorem Reports.reportedOnce_iff (traced : Reports before after taskId reports metrics)
    {sent received : Nat} :
    ReportedOnce before after taskId sent received ↔
      (metrics.bytesSent = sent ∧ metrics.bytesReceived = received) ∧
      (before.publishers = [] ∨ before.publishers.Nodup ∧
        ∃ report, reports = [report] ∧ report.bytesSent = sent ∧
          report.bytesReceived = received) := by
  constructor
  · rintro ⟨⟨stored, found, bytes⟩, calls, called, each⟩
    rw [traced.stored, Option.some.injEq] at found
    subst found
    refine ⟨bytes, ?_⟩
    rw [traced.published, List.append_cancel_left_eq] at called
    subst called
    have once : ∀ publisher ∈ before.publishers,
        reports.length * before.publishers.count publisher = 1 := by
      intro publisher member
      rcases each publisher member with ⟨report, single, -⟩
      rw [← length_callsTo, single, List.length_singleton]
    cases registered : before.publishers with
    | nil => exact .inl rfl
    | cons publisher rest =>
        right
        have member : publisher ∈ before.publishers := registered ▸ List.mem_cons_self
        rcases List.length_eq_one_iff.mp (Nat.eq_one_of_mul_eq_one_right (once publisher member))
          with ⟨report, rfl⟩
        rcases each publisher member with ⟨shown, single, counted⟩
        have count := once publisher member
        rw [List.length_singleton, Nat.one_mul] at count
        rw [List.flatMap_singleton, callsTo_map, count] at single
        cases single
        refine ⟨?_, report, rfl, counted⟩
        rw [← registered, List.nodup_iff_count_le_one]
        intro other
        by_cases present : other ∈ before.publishers
        · have counted := once other present
          rw [List.length_singleton, Nat.one_mul] at counted
          exact Nat.le_of_eq counted
        · rw [List.count_eq_zero_of_not_mem present]
          exact Nat.zero_le 1
  · rintro ⟨bytes, registered⟩
    refine ⟨⟨metrics, traced.stored, bytes⟩, _, traced.published, fun publisher member => ?_⟩
    rcases registered with none | ⟨nodup, report, rfl, counted⟩
    · rw [none] at member
      cases member
    · refine ⟨report, ?_, counted⟩
      rw [List.flatMap_singleton, callsTo_map, List.count_eq_one_of_mem nodup member]
      rfl

end Ending

end NetworkTelemetry

end EventPipeline
