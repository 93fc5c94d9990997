import EventPipeline.Batch.Accounting
import EventPipeline.Batch.Repeated
import Mathlib.Algebra.Order.Field.Basic
import Mathlib.Algebra.Order.Field.Rat
import Mathlib.Tactic.NormNum

/-! # The completion rate of a batch

The monitor takes the number of batch fields for the number of pipelines, before any
pipeline is made. The number of pipelines is that of the rounds in which there is data.
-/

namespace EventPipeline

def PipelineExecutionMetrics.completionRate (metrics : PipelineExecutionMetrics) : Rat :=
  if 0 < metrics.totalPipelines then
    ((metrics.completed + metrics.failed : Nat) : Rat) / metrics.totalPipelines * 100
  else 0

/-- A call of `execute` with what its monitor sees: the pipelines of its wrappers are those
that the call configures, and the monitor knows the batch operations. -/
structure MonitoredCall (Object : Type) where
  interpreter : Interpreter Object
  processing : BatchProcessing Object
  batch : BatchPipeline Object
  state : BatchState Object
  batched : batch.operationsOf processing state ≠ []
  run : BatchRun
  executed : ∃ fuel call, batch.executeAgain interpreter processing fuel state = some call ∧
    run.wrappers.length = call.pipelines.length
  fields : run.fieldBatchOps = (batch.operationsOf processing state).length

/-- After every message at most all pipelines have ended, and in the end exactly all. -/
structure ProgressWithinTotal (run : BatchRun) : Prop where
  each : ∀ front, front <+: run.messages → ∃ monitor,
    (run.processAfter front).monitors run.monitor = some monitor ∧
      monitor.metrics.completed + monitor.metrics.failed ≤ monitor.metrics.totalPipelines ∧
      monitor.metrics.completionRate ≤ 100
  final : ∃ monitor, (run.processAfter run.messages).monitors run.monitor = some monitor ∧
    monitor.metrics.completionRate = 100

namespace PipelineExecutionMetrics

variable {metrics : PipelineExecutionMetrics}

theorem completionRate_le_iff (positive : 0 < metrics.totalPipelines) :
    metrics.completionRate ≤ 100 ↔
      metrics.completed + metrics.failed ≤ metrics.totalPipelines := by
  have total : (0 : Rat) < metrics.totalPipelines := by exact_mod_cast positive
  rw [completionRate, if_pos positive, mul_le_iff_le_one_left (by norm_num), div_le_one total]
  exact_mod_cast Iff.rfl

theorem completionRate_eq_iff (positive : 0 < metrics.totalPipelines) :
    metrics.completionRate = 100 ↔
      metrics.completed + metrics.failed = metrics.totalPipelines := by
  have total : (metrics.totalPipelines : Rat) ≠ 0 := by
    exact_mod_cast Nat.pos_iff_ne_zero.mp positive
  rw [completionRate, if_pos positive, mul_eq_right₀ (by norm_num), div_eq_one_iff_eq total]
  exact_mod_cast Iff.rfl

end PipelineExecutionMetrics

/-! ## The total -/

theorem Monitor.receive_totalPipelines (monitor : Monitor) (message : LifecycleMessage)
    (now : Time) :
    (monitor.receive message now).metrics.totalPipelines = monitor.metrics.totalPipelines := by
  unfold Monitor.receive
  split
  · unfold Monitor.onPipelineStarted
    split <;> rfl
  · unfold Monitor.onPipelineEnded
    split <;> rfl
  · rfl
  · rfl
  · rfl

namespace BatchRun

variable (run : BatchRun)

/-- What the monitor takes for the number of pipelines. -/
def estimatedTotal : Nat :=
  if run.fieldBatchOps = 0 then 1 else run.fieldBatchOps

theorem estimatedTotal_pos : 0 < run.estimatedTotal := by
  unfold estimatedTotal
  split <;> omega

/-- The total is the estimate as long as the monitor runs. -/
structure Estimated (left : List (PipelineWrapper × List LifecycleMessage)) (process : Process) :
    Prop where
  progress : run.Progress left process
  total : ∀ monitor, process.monitors run.monitor = some monitor →
    monitor.metrics.totalPipelines = run.estimatedTotal

theorem Estimated.take {before after : List (PipelineWrapper × List LifecycleMessage)}
    {wrapper : PipelineWrapper} {message : LifecycleMessage × Time}
    {rest : List LifecycleMessage} {process : Process}
    (estimated : run.Estimated (before ++ (wrapper, message.1 :: rest) :: after) process) :
    run.Estimated (before ++ (wrapper, rest) :: after) (run.take process message) := by
  refine ⟨estimated.progress.take, fun later foundLater => ?_⟩
  rcases estimated.progress.counts with ⟨monitor, found, running, _⟩
  have received := receive_monitors estimated.progress.wired found running message.1 message.2
  rw [BatchRun.take, received, Option.some_inj] at foundLater
  rw [← foundLater, Monitor.receive_totalPipelines]
  exact estimated.total monitor found

theorem estimated_initial :
    run.Estimated (run.wrappers.map fun wrapper => (wrapper, wrapper.run))
      (run.processAfter []) := by
  refine ⟨run.progress_initial, fun monitor found => ?_⟩
  rw [run.initial_monitors, Option.some_inj] at found
  rw [← found]
  rfl

/-- The wrappers that report the end of their pipeline. -/
def reports : Nat :=
  run.wrappers.countP PipelineWrapper.reportsEnd

theorem metrics_early {front : List (LifecycleMessage × Time)} (early : front <+: run.messages) :
    ∃ monitor, (run.processAfter front).monitors run.monitor = some monitor ∧
      monitor.metrics.completed + monitor.metrics.failed ≤ run.reports ∧
      monitor.metrics.totalPipelines = run.estimatedTotal := by
  rcases run.interleaved.holds_prefix (fun estimated => estimated.take) run.estimated_initial
    early with ⟨left, producers, estimated⟩
  rcases estimated.progress.counts with ⟨monitor, found, _, counts⟩
  have total := estimated.total monitor found
  rw [← processAfter_eq] at found
  refine ⟨monitor, found, ?_, total⟩
  have wrappers : left.map Prod.fst = run.wrappers := by
    rw [producers, List.map_map]
    exact List.map_id _
  calc monitor.metrics.completed + monitor.metrics.failed
      = left.countP hasEnded := by rw [counts.completed, counts.failed, Nat.add_zero]
    _ ≤ left.countP (PipelineWrapper.reportsEnd ∘ Prod.fst) := by
        refine List.countP_mono_left fun entry _ ended => ?_
        rw [hasEnded, Bool.and_eq_true] at ended
        exact ended.1
    _ = run.reports := by rw [← List.countP_map, wrappers, reports]

/-- In the end exactly those pipelines are completed that report their end. -/
theorem metrics_final :
    ∃ monitor, (run.processAfter run.messages).monitors run.monitor = some monitor ∧
      monitor.metrics.completed + monitor.metrics.failed = run.reports ∧
      monitor.metrics.totalPipelines = run.estimatedTotal := by
  have estimated := run.interleaved.holds (fun estimated => estimated.take)
    run.estimated_initial
  rw [List.map_map, ← processAfter_eq] at estimated
  rcases estimated.progress.counts with ⟨monitor, found, _, counts⟩
  refine ⟨monitor, found, ?_, estimated.total monitor found⟩
  rw [counts.completed, counts.failed, Nat.add_zero, List.countP_map, reports]
  exact List.countP_congr fun wrapper _ => by simp [hasEnded]

end BatchRun

theorem progressWithinTotal_iff_estimate (run : BatchRun) :
    ProgressWithinTotal run ↔ run.reports = run.estimatedTotal := by
  have positive := run.estimatedTotal_pos
  constructor
  · intro progress
    rcases progress.final with ⟨monitor, found, rate⟩
    rcases run.metrics_final with ⟨same, foundSame, ended, total⟩
    rw [found, Option.some_inj] at foundSame
    subst foundSame
    rw [PipelineExecutionMetrics.completionRate_eq_iff (total ▸ positive), ended, total] at rate
    exact rate
  · intro equal
    constructor
    · intro front early
      rcases run.metrics_early early with ⟨monitor, found, ended, total⟩
      have within : monitor.metrics.completed + monitor.metrics.failed ≤
          monitor.metrics.totalPipelines := by
        rw [total, ← equal]
        exact ended
      exact ⟨monitor, found, within,
        (PipelineExecutionMetrics.completionRate_le_iff (total ▸ positive)).mpr within⟩
    · rcases run.metrics_final with ⟨monitor, found, ended, total⟩
      refine ⟨monitor, found, ?_⟩
      rw [PipelineExecutionMetrics.completionRate_eq_iff (total ▸ positive), ended, total, equal]

/-- The progress is right exactly when as many pipelines complete as there are batch
fields. -/
theorem MonitoredCall.progressWithinTotal_iff {Object : Type} (monitored : MonitoredCall Object) :
    ProgressWithinTotal monitored.run ↔
      monitored.run.wrappers.countP (fun wrapper => wrapper.started = .ok (some (.ok false))) =
        (monitored.batch.operationsOf monitored.processing monitored.state).length := by
  have fields : monitored.run.fieldBatchOps ≠ 0 := by
    rw [monitored.fields]
    exact List.length_pos_iff.mpr monitored.batched |>.ne'
  rw [progressWithinTotal_iff_estimate, BatchRun.estimatedTotal, if_neg fields,
    monitored.fields]
  rfl

def pairBatch : BatchPipeline String where
  template :=
    { text := "<class 'DummyPipeline'>"
      fields := [{ name := "data", dataType := [.list], batchSize := 1 }]
      nodup := by decide }
  arguments := [("data", .list ["1", "2"])]

def pairWrappers : List PipelineWrapper :=
  [⟨0, .ok (some (.ok false)), .ok false, true⟩, ⟨1, .ok (some (.ok false)), .ok false, true⟩]

def pairRun : BatchRun where
  wrappers := pairWrappers
  distinct := by decide
  monitor := 0
  batchClass := 0
  fieldBatchOps := 1
  created := 1
  began := 2
  messages := (pairWrappers.flatMap PipelineWrapper.run).map fun message => (message, 3)
  interleaved := by
    rw [List.map_map]
    exact Interleaving.sequential (pairWrappers.map fun wrapper => (wrapper, wrapper.run))

def pairCall : MonitoredCall String where
  interpreter := stringInterpreter
  processing := listProcessing stringInterpreter
  batch := pairBatch
  state := {}
  batched := by
    intro empty
    cases empty
  run := pairRun
  executed := ⟨3, _, rfl, rfl⟩
  fields := rfl

/-- The rate of completion goes up to 200. -/
theorem not_progressWithinTotal_pairCall : ¬ProgressWithinTotal pairCall.run := by
  intro progress
  have estimate := (progressWithinTotal_iff_estimate pairRun).mp progress
  exact absurd estimate (by decide)

end EventPipeline
