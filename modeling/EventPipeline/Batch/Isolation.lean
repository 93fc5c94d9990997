import EventPipeline.Batch.Wiring

/-! # Isolation of batches

The monitors of a process share its signals. What a monitor emits for its own batch reaches
the other monitors, too: they are connected to the signals of pipelines for every sender.
-/

namespace EventPipeline

def ProcessStep.owner : ProcessStep → Option MonitorId
  | .monitor id _ _ => some id
  | .emission _ _ _ _ => none

def ProcessStep.now : ProcessStep → Time
  | .monitor _ _ now => now
  | .emission _ _ _ now => now

structure MonitorView where
  metrics : PipelineExecutionMetrics
  activePipelines : List PipelineId
  pipelineStartTimes : List (PipelineId × Time)
deriving DecidableEq, Repr

def Monitor.view (monitor : Monitor) : MonitorView :=
  ⟨monitor.metrics, monitor.activePipelines, monitor.pipelineStartTimes⟩

/-- Every monitor is as if the other steps had not been, and those that have been shut down
do not change their metrics. -/
structure Isolated (steps : List ProcessStep) : Prop where
  own : ∀ id, ((Process.after steps).monitors id).map Monitor.view =
    ((Process.after (steps.filter fun step => step.owner = some id)).monitors id).map
      Monitor.view
  shut : ∀ front rest, front ++ rest = steps → ∀ id monitor,
    (Process.after front).monitors id = some monitor → monitor.shutdownFlag = true →
    ((Process.after steps).monitors id).map Monitor.metrics = some monitor.metrics

namespace Process

def emission (process : Process) :
    ProcessStep → Option (MonitoredSignal × Sender × List (String × SignalValue))
  | .monitor id action now =>
      (process.monitors id).bind fun monitor => emissionAt monitor now action
  | .emission signal sender kwargs _ => some (signal, sender, kwargs)

end Process

namespace Monitor

/-- The handler for the signal changes nothing. -/
def ignores (monitor : Monitor) (signal : MonitoredSignal)
    (kwargs : List (String × SignalValue)) : Bool :=
  match signal with
  | .pipelineExecutionStart =>
      match OrderedDict.get "pipeline" kwargs with
      | some (.pipeline _) => false
      | _ => true
  | .pipelineExecutionEnd =>
      match OrderedDict.get "execution_context" kwargs with
      | some (.executionContext _) => false
      | _ => true
  | .pipelineMetricsUpdated => true
  | .batchPipelineStarted => monitor.metrics.startTime.isSome
  | .batchPipelineFinished => monitor.metrics.endTime.isSome

/-- The emission does not matter to the monitor: it does not reach it, its arguments do not
fit, or the handler ignores it. -/
def undisturbed (monitor : Monitor) (signal : MonitoredSignal) (sender : Sender)
    (kwargs : List (String × SignalValue)) : Bool :=
  monitor.hearings signal sender = 0 || !accepts signal kwargs || monitor.ignores signal kwargs

end Monitor

/-- The step does not matter to the monitors that do not act in it. -/
def Process.Quiet (process : Process) (step : ProcessStep) : Prop :=
  ∀ id monitor, process.monitors id = some monitor → step.owner ≠ some id →
    ∀ signal sender kwargs, process.emission step = some (signal, sender, kwargs) →
      monitor.undisturbed signal sender kwargs = true

/-! ## Handlers that change something -/

/-- A number that grows with every change. -/
def MonitorView.events (view : MonitorView) : Nat :=
  view.metrics.started + view.metrics.completed + view.metrics.failed +
    view.metrics.startTime.toList.length + view.metrics.endTime.toList.length

namespace Monitor

section Handlers

variable {monitor : Monitor} {signal : MonitoredSignal} {kwargs : List (String × SignalValue)}

theorem heeds_start (heeded : monitor.ignores .pipelineExecutionStart kwargs = false) :
    ∃ pipeline, OrderedDict.get "pipeline" kwargs = some (.pipeline pipeline) := by
  change (match OrderedDict.get "pipeline" kwargs with
    | some (.pipeline _) => false
    | _ => true) = false at heeded
  split at heeded
  · exact ⟨_, by assumption⟩
  · cases heeded

theorem heeds_end (heeded : monitor.ignores .pipelineExecutionEnd kwargs = false) :
    ∃ context, OrderedDict.get "execution_context" kwargs =
      some (.executionContext context) := by
  change (match OrderedDict.get "execution_context" kwargs with
    | some (.executionContext _) => false
    | _ => true) = false at heeded
  split at heeded
  · exact ⟨_, by assumption⟩
  · cases heeded

theorem handle_of_ignores (ignored : monitor.ignores signal kwargs = true) (now : Time) :
    monitor.handle signal.handler kwargs now = monitor := by
  cases signal with
  | pipelineExecutionStart =>
      change monitor.onPipelineStarted kwargs now = monitor
      unfold ignores at ignored
      unfold onPipelineStarted
      split
      · rename_i found
        rw [found] at ignored
        cases ignored
      · rfl
  | pipelineExecutionEnd =>
      change monitor.onPipelineEnded kwargs now = monitor
      unfold ignores at ignored
      unfold onPipelineEnded
      split
      · rename_i found
        rw [found] at ignored
        cases ignored
      · rfl
  | pipelineMetricsUpdated => rfl
  | batchPipelineStarted =>
      change monitor.onBatchStarted kwargs now = monitor
      rcases Option.isSome_iff_exists.mp ignored with ⟨time, found⟩
      rw [onBatchStarted, found]
  | batchPipelineFinished =>
      change monitor.onBatchFinished now = monitor
      rcases Option.isSome_iff_exists.mp ignored with ⟨time, found⟩
      rw [onBatchFinished, found]

theorem events_of_heeds (heeded : monitor.ignores signal kwargs = false) (now : Time) :
    monitor.view.events < (monitor.handle signal.handler kwargs now).view.events := by
  cases signal with
  | pipelineExecutionStart =>
      change _ < (monitor.onPipelineStarted kwargs now).view.events
      rcases heeds_start heeded with ⟨pipeline, found⟩
      rw [onPipelineStarted, found]
      simp only [MonitorView.events, view]
      omega
  | pipelineExecutionEnd =>
      change _ < (monitor.onPipelineEnded kwargs now).view.events
      rcases heeds_end heeded with ⟨context, found⟩
      rw [onPipelineEnded, found]
      simp only [MonitorView.events, view]
      split <;> split <;> omega
  | pipelineMetricsUpdated => cases heeded
  | batchPipelineStarted =>
      change _ < (monitor.onBatchStarted kwargs now).view.events
      have none : monitor.metrics.startTime = none := by
        simpa [ignores] using heeded
      rw [onBatchStarted, none]
      simp [MonitorView.events, view, none]
  | batchPipelineFinished =>
      change _ < (monitor.onBatchFinished now).view.events
      have none : monitor.metrics.endTime = none := by
        simpa [ignores] using heeded
      rw [onBatchFinished, none]
      simp [MonitorView.events, view, none]

theorem hear_of_undisturbed {sender : Sender}
    (quiet : monitor.undisturbed signal sender kwargs = true) (now : Time) :
    monitor.hear signal sender kwargs now = monitor := by
  rw [undisturbed, Bool.or_eq_true, Bool.or_eq_true, decide_eq_true_eq, Bool.not_eq_true'] at quiet
  unfold hear
  rcases quiet with (unheard | unfit) | ignored
  · rw [unheard]
    split <;> rfl
  · rw [unfit]
    rfl
  · split
    · exact Function.iterate_fixed (handle_of_ignores ignored now) _
    · rfl

theorem events_le_iterate (monitor : Monitor) (signal : MonitoredSignal)
    (kwargs : List (String × SignalValue)) (now : Time) (times : Nat) :
    monitor.view.events ≤ (Nat.iterate (fun monitor : Monitor =>
      monitor.handle signal.handler kwargs now) times monitor).view.events := by
  induction times generalizing monitor with
  | zero => exact Nat.le_refl _
  | succ times induction =>
      refine Nat.le_trans ?_ (induction _)
      cases heeded : monitor.ignores signal kwargs with
      | true => exact Nat.le_of_eq (congrArg (·.view.events) (handle_of_ignores heeded now).symm)
      | false => exact Nat.le_of_lt (events_of_heeds heeded now)

theorem undisturbed_of_view {sender : Sender} {now : Time}
    (same : (monitor.hear signal sender kwargs now).view = monitor.view) :
    monitor.undisturbed signal sender kwargs = true := by
  by_contra disturbed
  rw [undisturbed, Bool.or_eq_true, Bool.or_eq_true, decide_eq_true_eq, Bool.not_eq_true',
    not_or, not_or, Bool.not_eq_false, Bool.not_eq_true] at disturbed
  rcases disturbed with ⟨⟨heard, fit⟩, heeded⟩
  rcases Nat.exists_eq_succ_of_ne_zero heard with ⟨times, more⟩
  rw [hear, fit, if_pos rfl, more, Function.iterate_succ_apply] at same
  have grown := Nat.lt_of_lt_of_le (events_of_heeds heeded now)
    (events_le_iterate (monitor.handle signal.handler kwargs now) signal kwargs now times)
  rw [same] at grown
  exact Nat.lt_irrefl _ grown

end Handlers

end Monitor

/-! ## Steps of other monitors -/

namespace Process

variable {process : Process} {id : MonitorId} {step : ProcessStep}

def heardBy (now : Time) (monitor : Monitor) :
    Option (MonitoredSignal × Sender × List (String × SignalValue)) → Monitor
  | none => monitor
  | some (signal, sender, kwargs) => monitor.hear signal sender kwargs now

theorem Wired.emitAt_monitors (wired : process.Wired) (now : Time)
    (emission : Option (MonitoredSignal × Sender × List (String × SignalValue)))
    (id : MonitorId) :
    (process.emitAt now emission).monitors id =
      (process.monitors id).map fun monitor => heardBy now monitor emission := by
  rcases emission with _ | ⟨signal, sender, kwargs⟩
  · exact Option.map_id'.symm
  · exact wired.emit_monitors signal sender kwargs now id

theorem closeMonitor_of_ne (process : Process) {id other : MonitorId} (different : other ≠ id)
    {monitor : Monitor} (found : process.monitors id = some monitor) (old : Monitor)
    (same : monitor.status = old.status) :
    (process.closeMonitor id old).monitors other = process.monitors other := by
  rw [closeMonitor_eq process found same, setMonitor_of_ne _ different]
  split <;> rfl

/-! ### What a monitor does -/

section Actions

variable {monitor : Monitor} {message : Message} {now : Time}

theorem act_missing (missing : process.monitors id = none) (action : MonitorAction) (now : Time) :
    process.act id action now =
      match action with
      | .create batchClass fieldBatchOps =>
          (process.setMonitor id { batchClass, fieldBatchOps }).setupSignalListeners id
            { batchClass, fieldBatchOps }
      | .begin | .receive _ | .shutdown => process := by
  cases action <;> simp only [act, missing]

theorem act_begin (found : process.monitors id = some monitor) :
    process.act id .begin now =
      if monitor.batchStartedEmitted then process
      else (process.setMonitor id (begun monitor now)).emitAt now
        (emissionAt monitor now .begin) := by
  simp only [act, found]

theorem act_receive (found : process.monitors id = some monitor) :
    process.act id (.receive message) now =
      process.emitAt now (emissionAt monitor now (.receive message)) := by
  simp only [act, found]

theorem act_shutdown (found : process.monitors id = some monitor) :
    process.act id .shutdown now =
      if monitor.running then
        (process.emitAt now (emissionAt monitor now .shutdown)).closeMonitor id monitor
      else process := by
  simp only [act, found]

theorem act_create (found : process.monitors id = some monitor) {batchClass fieldBatchOps : Nat} :
    process.act id (.create batchClass fieldBatchOps) now = process := by
  simp only [act, found]

theorem emission_monitor (found : process.monitors id = some monitor) (action : MonitorAction) :
    process.emission (.monitor id action now) = emissionAt monitor now action := by
  rw [emission, found, Option.bind_some]

end Actions

/-- A step of somebody else reaches the monitor through what is emitted. -/
theorem Wired.step_foreign (wired : process.Wired) (foreign : step.owner ≠ some id) :
    (process.step step).monitors id =
      (process.monitors id).map fun monitor =>
        heardBy step.now monitor (process.emission step) := by
  cases step with
  | emission signal sender kwargs now =>
      exact wired.emit_monitors signal sender kwargs now id
  | monitor actor action now =>
      have different : id ≠ actor := fun same => foreign (congrArg some same.symm)
      have unchanged : process.monitors id =
          (process.monitors id).map fun monitor => heardBy now monitor none :=
        Option.map_id'.symm
      change (process.act actor action now).monitors id = _
      cases found : process.monitors actor with
      | none =>
          rw [act_missing found, emission, found, Option.bind_none]
          cases action with
          | create batchClass fieldBatchOps =>
              exact (setMonitor_of_ne _ different _).trans unchanged
          | begin => exact unchanged
          | receive message => exact unchanged
          | shutdown => exact unchanged
      | some monitor =>
          rw [emission_monitor found]
          cases action with
          | create batchClass fieldBatchOps =>
              rw [act_create found]
              exact unchanged
          | begin =>
              rw [act_begin found]
              split
              · rename_i started
                rw [emissionAt, if_pos started]
                exact unchanged
              · rw [(wired.begin found now).emitAt_monitors, setMonitor_of_ne _ different]
                rfl
          | receive message =>
              rw [act_receive found]
              exact wired.emitAt_monitors now _ id
          | shutdown =>
              rw [act_shutdown found]
              split
              · rcases emitAt_found process found now (emissionAt monitor now .shutdown)
                  with ⟨later, foundLater, same⟩
                rw [closeMonitor_of_ne _ different foundLater monitor same]
                exact wired.emitAt_monitors now _ id
              · rename_i idle
                rw [emissionAt, if_neg idle]
                exact unchanged

theorem Wired.act_own {other : Process} (wired : process.Wired) (wiredOther : other.Wired)
    (same : process.monitors id = other.monitors id) (action : MonitorAction) (now : Time) :
    (process.act id action now).monitors id = (other.act id action now).monitors id := by
  cases found : process.monitors id with
  | none =>
      have foundOther := same.symm.trans found
      rw [act_missing found, act_missing foundOther]
      cases action with
      | create batchClass fieldBatchOps =>
          exact (setMonitor_self _ _ _).trans (setMonitor_self _ _ _).symm
      | begin => exact same
      | receive message => exact same
      | shutdown => exact same
  | some monitor =>
      have foundOther := same.symm.trans found
      cases action with
      | create batchClass fieldBatchOps =>
          rw [act_create found, act_create foundOther]
          exact same
      | begin =>
          rw [act_begin found, act_begin foundOther]
          split
          · exact same
          · rw [(wired.begin found now).emitAt_monitors,
              (wiredOther.begin foundOther now).emitAt_monitors, setMonitor_self,
              setMonitor_self]
      | receive message =>
          rw [act_receive found, act_receive foundOther, wired.emitAt_monitors,
            wiredOther.emitAt_monitors, same]
      | shutdown =>
          rw [act_shutdown found, act_shutdown foundOther]
          split
          · have emitted := wired.emitAt_monitors now (emissionAt monitor now .shutdown) id
            have emittedOther :=
              wiredOther.emitAt_monitors now (emissionAt monitor now .shutdown) id
            rcases emitAt_found process found now (emissionAt monitor now .shutdown)
              with ⟨later, foundLater, status⟩
            have foundLaterOther : (other.emitAt now
                (emissionAt monitor now .shutdown)).monitors id = some later := by
              rw [emittedOther, ← same, ← emitted, foundLater]
            rw [closeMonitor_eq _ foundLater status, closeMonitor_eq _ foundLaterOther status,
              setMonitor_self, setMonitor_self]
          · exact same

theorem Wired.act_shut (wired : process.Wired) {monitor : Monitor}
    (found : process.monitors id = some monitor) (shut : monitor.shutdownFlag = true)
    (action : MonitorAction) (now : Time) :
    (process.act id action now).monitors id = some monitor := by
  have started := wired.shut id monitor found shut
  have idle : ¬ monitor.running = true := by
    rw [Monitor.running, shut, Bool.not_true, Bool.and_false]
    exact Bool.false_ne_true
  cases action with
  | create batchClass fieldBatchOps => rw [act_create found, found]
  | begin => rw [act_begin found, if_pos started, found]
  | receive message =>
      rw [act_receive found, emissionAt, if_neg idle]
      exact found
  | shutdown => rw [act_shutdown found, if_neg idle, found]

theorem Wired.step_quiet (wired : process.Wired) (quiet : process.Quiet step)
    (foreign : step.owner ≠ some id) :
    (process.step step).monitors id = process.monitors id := by
  rw [wired.step_foreign foreign]
  cases found : process.monitors id with
  | none => rfl
  | some monitor =>
      rw [Option.map_some]
      cases emitted : process.emission step with
      | none => rfl
      | some emission =>
          rcases emission with ⟨signal, sender, kwargs⟩
          exact congrArg some (Monitor.hear_of_undisturbed
            (quiet id monitor found foreign signal sender kwargs emitted) step.now)

theorem Wired.quiet_of_view (wired : process.Wired)
    (same : ∀ id, step.owner ≠ some id → ((process.step step).monitors id).map Monitor.view =
      (process.monitors id).map Monitor.view) : process.Quiet step := by
  intro id monitor found foreign signal sender kwargs emitted
  have here := same id foreign
  rw [wired.step_foreign foreign, found, emitted, Option.map_some, Option.map_some,
    Option.map_some, Option.some.injEq] at here
  exact Monitor.undisturbed_of_view here

/-! ## Runs -/

/-- All steps of a run are quiet. -/
def QuietRun (process : Process) : List ProcessStep → Prop
  | [] => True
  | step :: rest => process.Quiet step ∧ QuietRun (process.step step) rest

theorem quietRun_iff {process : Process} {steps : List ProcessStep} :
    process.QuietRun steps ↔ ∀ front step rest, front ++ step :: rest = steps →
      (front.foldl Process.step process).Quiet step := by
  induction steps generalizing process with
  | nil =>
      refine iff_of_true trivial fun front step rest parts => ?_
      cases List.append_ne_nil_of_right_ne_nil front (List.cons_ne_nil step rest) parts
  | cons first later induction =>
      rw [QuietRun, induction]
      constructor
      · rintro ⟨quiet, quietLater⟩ front step rest parts
        cases front with
        | nil =>
            obtain ⟨rfl, rfl⟩ := List.cons.inj parts
            exact quiet
        | cons head front =>
            obtain ⟨rfl, same⟩ := List.cons.inj parts
            exact quietLater front step rest same
      · intro quiet
        refine ⟨quiet [] first later rfl, fun front step rest parts => ?_⟩
        exact quiet (first :: front) step rest (congrArg (first :: ·) parts)

theorem QuietRun.of_prefix {process : Process} {front steps : List ProcessStep}
    (quiet : process.QuietRun steps) (early : front <+: steps) : process.QuietRun front := by
  rcases early with ⟨rest, rfl⟩
  rw [quietRun_iff] at quiet ⊢
  rintro before step after rfl
  exact quiet before step (after ++ rest) (by simp)

theorem QuietRun.own {process other : Process} {steps : List ProcessStep}
    (quiet : process.QuietRun steps) (wired : process.Wired) (wiredOther : other.Wired)
    (same : process.monitors id = other.monitors id) :
    (steps.foldl Process.step process).monitors id =
      ((steps.filter fun step => step.owner = some id).foldl Process.step other).monitors id := by
  induction steps generalizing process other with
  | nil => exact same
  | cons step rest induction =>
      by_cases own : step.owner = some id
      · rw [List.filter_cons_of_pos (by simpa using own)]
        apply induction quiet.2 (wired.step step) (wiredOther.step step)
        cases step with
        | emission signal sender kwargs now => cases own
        | monitor actor action now =>
            obtain rfl : actor = id := Option.some.inj own
            exact wired.act_own wiredOther same action now
      · rw [List.filter_cons_of_neg (by simpa using own)]
        apply induction quiet.2 (wired.step step) wiredOther
        rw [wired.step_quiet quiet.1 own, same]

theorem QuietRun.shut {process : Process} {steps : List ProcessStep} {monitor : Monitor}
    (quiet : process.QuietRun steps) (wired : process.Wired)
    (found : process.monitors id = some monitor) (shut : monitor.shutdownFlag = true) :
    (steps.foldl Process.step process).monitors id = some monitor := by
  induction steps generalizing process with
  | nil => exact found
  | cons step rest induction =>
      apply induction quiet.2 (wired.step step)
      by_cases own : step.owner = some id
      · cases step with
        | emission signal sender kwargs now => cases own
        | monitor actor action now =>
            obtain rfl : actor = id := Option.some.inj own
            exact wired.act_shut found shut action now
      · rw [wired.step_quiet quiet.1 own, found]

theorem QuietRun.append {process : Process} {front rest : List ProcessStep}
    (quiet : process.QuietRun (front ++ rest)) :
    (front.foldl Process.step process).QuietRun rest := by
  induction front generalizing process with
  | nil => exact quiet
  | cons step front induction => exact induction quiet.2

end Process

section Isolation

variable {steps : List ProcessStep}

theorem isolated_of_quietRun (quiet : Process.QuietRun {} steps) : Isolated steps where
  own id := by
    apply congrArg (Option.map Monitor.view)
    exact quiet.own Process.wired_empty Process.wired_empty rfl
  shut := by
    rintro front rest rfl id monitor found shut
    have unchanged := quiet.append.shut (Process.wired_after front) found shut
    rw [Process.after, List.foldl_append, unchanged]
    rfl

theorem quiet_of_isolated {front : List ProcessStep} {step : ProcessStep}
    (before : Isolated front) (after : Isolated (front ++ [step])) :
    (Process.after front).Quiet step := by
  apply (Process.wired_after front).quiet_of_view
  intro id foreign
  have later := after.own id
  rw [List.filter_append, List.filter_cons_of_neg (by simpa using foreign), List.filter_nil,
    List.append_nil, ← before.own id, Process.after, List.foldl_append] at later
  exact later

end Isolation

/-- Batches stay apart as long as no step emits something that a monitor of another batch
heeds. -/
theorem isolated_iff (steps : List ProcessStep) :
    (∀ front, front <+: steps → Isolated front) ↔ Process.QuietRun {} steps := by
  constructor
  · intro isolated
    rw [Process.quietRun_iff]
    rintro front step rest rfl
    apply quiet_of_isolated
    · exact isolated front (List.prefix_append _ _)
    · exact isolated (front ++ [step]) ⟨rest, by simp⟩
  · intro quiet front early
    exact isolated_of_quietRun (quiet.of_prefix early)

/-- Two batches, and a pipeline of the first that starts. -/
def twoBatches : List ProcessStep :=
  [.monitor 0 (.create 0 1) 1, .monitor 1 (.create 1 1) 1, .monitor 0 .begin 2,
    .monitor 1 .begin 2,
    .monitor 0 (.receive (.wrapperLifecycle ⟨.pipelineExecutionStart 7, 7, .running⟩)) 3]

/-- The monitor of the second batch counts the pipeline. -/
theorem not_isolated_twoBatches : ¬ Isolated twoBatches := by
  intro isolated
  have same := isolated.own 1
  revert same
  decide

end EventPipeline
