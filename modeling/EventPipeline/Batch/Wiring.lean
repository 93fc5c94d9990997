import EventPipeline.Batch.Emission
import Mathlib.Logic.Function.Iterate

/-! # How monitors are connected

A monitor is connected to the signals of pipelines for every sender, and stays so when it
shuts down. To the signals of batches it is connected for the class of its batch.
-/

namespace EventPipeline

def MonitoredSignal.handler : MonitoredSignal → Handler
  | .pipelineExecutionStart => .onPipelineStarted
  | .pipelineExecutionEnd => .onPipelineEnded
  | .pipelineMetricsUpdated => .onMetricsUpdated
  | .batchPipelineStarted => .onBatchStarted
  | .batchPipelineFinished => .onBatchFinished

namespace Monitor

/-- What handlers do not change. -/
structure Status where
  batchClass : Nat
  fieldBatchOps : Nat
  signalsConnected : Bool
  batchStartedEmitted : Bool
  shutdownFlag : Bool

def status (monitor : Monitor) : Status :=
  ⟨monitor.batchClass, monitor.fieldBatchOps, monitor.signalsConnected,
    monitor.batchStartedEmitted, monitor.shutdownFlag⟩

theorem handle_status (monitor : Monitor) (handler : Handler)
    (kwargs : List (String × SignalValue)) (now : Time) :
    (monitor.handle handler kwargs now).status = monitor.status := by
  cases handler with
  | onPipelineStarted =>
      change (monitor.onPipelineStarted kwargs now).status = _
      unfold onPipelineStarted
      split <;> rfl
  | onPipelineEnded =>
      change (monitor.onPipelineEnded kwargs now).status = _
      unfold onPipelineEnded
      split <;> rfl
  | onMetricsUpdated => rfl
  | onBatchStarted =>
      change (monitor.onBatchStarted kwargs now).status = _
      unfold onBatchStarted
      split <;> rfl
  | onBatchFinished =>
      change (monitor.onBatchFinished now).status = _
      unfold onBatchFinished
      split <;> rfl

def connected (monitor : Monitor) (signal : MonitoredSignal) (key : Sender) : Bool :=
  match signal with
  | .pipelineExecutionStart | .pipelineExecutionEnd => key = .genericSender
  | .pipelineMetricsUpdated | .batchPipelineStarted | .batchPipelineFinished =>
      monitor.signalsConnected && key = monitor.sender

/-- How often the emission reaches the monitor. -/
def hearings (monitor : Monitor) (signal : MonitoredSignal) (sender : Sender) : Nat :=
  (if monitor.connected signal sender then 1 else 0) +
    if monitor.connected signal .genericSender then 1 else 0

def accepts (signal : MonitoredSignal) (kwargs : List (String × SignalValue)) : Bool :=
  match signal.initial.bindEmit kwargs with
  | .ok _ => true
  | .error _ => false

def hear (monitor : Monitor) (signal : MonitoredSignal) (sender : Sender)
    (kwargs : List (String × SignalValue)) (now : Time) : Monitor :=
  if accepts signal kwargs then
    Nat.iterate (fun monitor : Monitor => monitor.handle signal.handler kwargs now)
      (monitor.hearings signal sender) monitor
  else
    monitor

theorem connected_of_status {monitor other : Monitor} (same : monitor.status = other.status)
    (signal : MonitoredSignal) (key : Sender) :
    monitor.connected signal key = other.connected signal key := by
  have sender : monitor.sender = other.sender :=
    congrArg (fun status : Status => Sender.object status.batchClass true) same
  have signalsConnected : monitor.signalsConnected = other.signalsConnected :=
    congrArg Status.signalsConnected same
  cases signal <;> simp [connected, sender, signalsConnected]

end Monitor

namespace Process

def wires (process : Process) (id : MonitorId) (signal : MonitoredSignal) (key : Sender) :
    List MonitorListener :=
  match process.monitors id with
  | none => []
  | some monitor => if monitor.connected signal key then [(id, signal.handler)] else []

/-- The signals provide the arguments that they were made for, the monitors are connected as
they should be, and a monitor that is shut down has run. -/
structure Wired (process : Process) : Prop where
  args : ∀ signal, (process.signals signal).provideArgs = signal.provideArgs
  heard : ∀ id signal key, process.heard id signal key = process.wires id signal key
  shut : ∀ id monitor, process.monitors id = some monitor → monitor.shutdownFlag = true →
    monitor.batchStartedEmitted = true

theorem wired_empty : Wired {} where
  args _ := rfl
  heard _ _ _ := rfl
  shut _ _ found := by cases found

section Steps

variable {process next : Process}

theorem Wired.of_status (wired : process.Wired) (signals : next.signals = process.signals)
    (same : ∀ id, (next.monitors id).map Monitor.status =
      (process.monitors id).map Monitor.status) : next.Wired where
  args signal := by
    rw [signals]
    exact wired.args signal
  heard id signal key := by
    have heard : next.heard id signal key = process.heard id signal key := by
      rw [Process.heard, signals, Process.heard]
    have here := same id
    rw [heard, wired.heard, wires, wires]
    cases old : process.monitors id with
    | none =>
        rw [old, Option.map_none, Option.map_eq_none_iff] at here
        rw [here]
    | some monitor =>
        rw [old, Option.map_some, Option.map_eq_some_iff] at here
        rcases here with ⟨new, found, status⟩
        rw [found]
        simp only [Monitor.connected_of_status status]
  shut id monitor found shut := by
    have here := same id
    rw [found, Option.map_some, eq_comm, Option.map_eq_some_iff] at here
    rcases here with ⟨old, foundOld, status⟩
    have started := congrArg Monitor.Status.batchStartedEmitted status
    have flag := congrArg Monitor.Status.shutdownFlag status
    simp only [Monitor.status] at started flag
    rw [← started]
    exact wired.shut id old foundOld (flag.trans shut)

theorem foldl_handle_status (listeners : List MonitorListener) (monitor : Monitor)
    (kwargs : List (String × SignalValue)) (now : Time) :
    (listeners.foldl (fun monitor listener => monitor.handle listener.2 kwargs now)
      monitor).status = monitor.status := by
  induction listeners generalizing monitor with
  | nil => rfl
  | cons listener rest induction => rw [List.foldl_cons, induction, Monitor.handle_status]

theorem emit_status (process : Process) (signal : MonitoredSignal) (sender : Sender)
    (kwargs : List (String × SignalValue)) (now : Time) (id : MonitorId) :
    ((process.emit signal sender kwargs now).monitors id).map Monitor.status =
      (process.monitors id).map Monitor.status := by
  rw [emit_monitors]
  split
  · rw [Option.map_map]
    apply congrArg fun status => (process.monitors id).map status
    funext monitor
    exact foldl_handle_status _ monitor kwargs now
  · rfl

theorem Wired.emit (wired : process.Wired) (signal : MonitoredSignal) (sender : Sender)
    (kwargs : List (String × SignalValue)) (now : Time) :
    (process.emit signal sender kwargs now).Wired :=
  wired.of_status (emit_signals process signal sender kwargs now)
    (emit_status process signal sender kwargs now)

theorem emitAt_status (process : Process) (now : Time)
    (emission : Option (MonitoredSignal × Sender × List (String × SignalValue)))
    (id : MonitorId) :
    ((process.emitAt now emission).monitors id).map Monitor.status =
      (process.monitors id).map Monitor.status := by
  rcases emission with _ | ⟨signal, sender, kwargs⟩
  · rfl
  · exact emit_status process signal sender kwargs now id

theorem emitAt_found (process : Process) {id : MonitorId} {monitor : Monitor}
    (found : process.monitors id = some monitor) (now : Time)
    (emission : Option (MonitoredSignal × Sender × List (String × SignalValue))) :
    ∃ later, (process.emitAt now emission).monitors id = some later ∧
      later.status = monitor.status := by
  have status := emitAt_status process now emission id
  rw [found, Option.map_some, Option.map_eq_some_iff] at status
  exact status

theorem Wired.emitAt (wired : process.Wired) (now : Time)
    (emission : Option (MonitoredSignal × Sender × List (String × SignalValue))) :
    (process.emitAt now emission).Wired := by
  rcases emission with _ | ⟨signal, sender, kwargs⟩
  · exact wired
  · exact wired.emit signal sender kwargs now

theorem provideArgs_connect (signal other : MonitoredSignal) (sender : Sender)
    (listener : MonitorListener) :
    ((process.connect signal sender listener).signals other).provideArgs =
      (process.signals other).provideArgs := by
  simp only [Process.connect, setSignal]
  by_cases same : other = signal
  · subst same
    rw [Function.update_self]
    rfl
  · rw [Function.update_of_ne same]

theorem provideArgs_disconnect (signal other : MonitoredSignal) (sender : Sender)
    (listener : MonitorListener) :
    ((process.disconnect signal sender listener).signals other).provideArgs =
      (process.signals other).provideArgs := by
  simp only [Process.disconnect, setSignal]
  by_cases same : other = signal
  · subst same
    rw [Function.update_self, SoftSignal.provideArgs_disconnect]
  · rw [Function.update_of_ne same]

theorem Wired.setup (wired : process.Wired) {id : MonitorId} (new : process.monitors id = none)
    (batchClass fieldBatchOps : Nat) :
    ((process.setMonitor id { batchClass, fieldBatchOps }).setupSignalListeners id
      { batchClass, fieldBatchOps }).Wired where
  args signal := by
    simp only [setupSignalListeners, provideArgs_connect, setMonitor_signals]
    exact wired.args signal
  heard other signal key := by
    have before : process.heard other signal key = process.wires other signal key :=
      wired.heard other signal key
    have same : (process.setMonitor id { batchClass, fieldBatchOps }).heard other signal key =
        process.heard other signal key := rfl
    simp only [setupSignalListeners, heard_connect, same, before]
    by_cases own : id = other
    · subst own
      have none : process.wires id signal key = [] := by rw [wires, new]
      rw [none]
      simp only [wires, connect_monitors, setMonitor_self]
      cases signal <;> simp [Monitor.connected, Monitor.sender, SoftSignal.senderKey,
        MonitoredSignal.handler, addNew, @eq_comm _ key]
    · have different : other ≠ id := fun equal => own equal.symm
      simp only [own, and_false, if_false, wires, connect_monitors,
        setMonitor_of_ne _ different]
  shut other monitor found shut := by
    simp only [setupSignalListeners, connect_monitors] at found
    by_cases own : other = id
    · subst own
      rw [setMonitor_self, Option.some.injEq] at found
      subst found
      cases shut
    · rw [setMonitor_of_ne _ own] at found
      exact wired.shut other monitor found shut

@[simp] theorem cleanup_monitors (process : Process) (id : MonitorId) (monitor : Monitor) :
    (process.cleanupSignalListeners id monitor).monitors = process.monitors := rfl

theorem heard_cleanup (wired : process.Wired) {id : MonitorId} {monitor : Monitor}
    (found : process.monitors id = some monitor) (other : MonitorId)
    (signal : MonitoredSignal) (key : Sender) :
    (process.cleanupSignalListeners id monitor).heard other signal key =
      if other = id then
        if Monitor.connected { monitor with signalsConnected := false } signal key then
          [(id, signal.handler)]
        else []
      else process.wires other signal key := by
  simp only [cleanupSignalListeners, heard_disconnect, wired.heard]
  by_cases own : other = id
  · subst own
    rw [if_pos rfl]
    simp only [wires, found]
    by_cases generic : key = .genericSender
    · subst generic
      cases signal <;> simp [Monitor.connected, Monitor.sender, MonitoredSignal.handler]
    · by_cases own : monitor.sender = key
      · subst own
        cases signal <;> simp [Monitor.connected, MonitoredSignal.handler, generic]
      · cases signal <;>
          simp [Monitor.connected, generic, own, @eq_comm _ key]
  · rw [if_neg own]
    have kept : ∀ handler : Handler, (process.wires other signal key).filter
        (· ≠ (id, handler)) = process.wires other signal key := by
      intro handler
      apply List.filter_eq_self.mpr
      intro listener member
      have listening : listener.1 = other := by
        rw [← wired.heard] at member
        simpa using (List.mem_filter.mp member).2
      have different : listener ≠ (id, handler) := by
        rintro rfl
        exact own listening.symm
      simpa using different
    simp only [kept, ite_self]

theorem cleanup_of_status (process : Process) (id : MonitorId) {monitor old : Monitor}
    (same : monitor.status = old.status) :
    process.cleanupSignalListeners id old = process.cleanupSignalListeners id monitor := by
  have sender : monitor.sender = old.sender :=
    congrArg (fun status : Monitor.Status => Sender.object status.batchClass true) same
  rw [cleanupSignalListeners, cleanupSignalListeners, sender]

theorem closeMonitor_eq (process : Process) {id : MonitorId} {monitor old : Monitor}
    (found : process.monitors id = some monitor) (same : monitor.status = old.status) :
    process.closeMonitor id old =
      (if monitor.signalsConnected then process.cleanupSignalListeners id monitor
        else process).setMonitor id
        { monitor with signalsConnected := false, shutdownFlag := true } := by
  have signalsConnected : monitor.signalsConnected = old.signalsConnected :=
    congrArg Monitor.Status.signalsConnected same
  unfold closeMonitor
  rw [← signalsConnected, cleanup_of_status process id same]
  cases monitor.signalsConnected with
  | true => simp only [if_true, cleanup_monitors, found]
  | false => simp only [Bool.false_eq_true, if_false, found]

theorem Wired.close (wired : process.Wired) {id : MonitorId} {monitor old : Monitor}
    (found : process.monitors id = some monitor) (same : monitor.status = old.status)
    (running : old.running = true) : (process.closeMonitor id old).Wired := by
  rw [closeMonitor_eq process found same]
  have monitors : (if monitor.signalsConnected then process.cleanupSignalListeners id monitor
      else process).monitors = process.monitors := by
    split <;> rfl
  have left : ∀ other signal key,
      (if monitor.signalsConnected then process.cleanupSignalListeners id monitor
        else process).heard other signal key =
      if other = id then
        if Monitor.connected { monitor with signalsConnected := false } signal key then
          [(id, signal.handler)]
        else []
      else process.wires other signal key := by
    intro other signal key
    split
    · exact heard_cleanup wired found other signal key
    · rename_i disconnected
      have same : { monitor with signalsConnected := false } = monitor := by
        rw [← Bool.not_eq_true _ |>.mp disconnected]
      rw [wired.heard, same]
      split
      · rename_i own
        rw [own, wires, found]
      · rfl
  constructor
  · intro signal
    rw [setMonitor_signals]
    split
    · simp only [cleanupSignalListeners, provideArgs_disconnect]
      exact wired.args signal
    · exact wired.args signal
  · intro other signal key
    apply (left other signal key).trans
    split
    · rename_i own
      subst own
      rw [wires, setMonitor_self]
      cases signal <;> rfl
    · rename_i different
      rw [wires, wires, setMonitor_of_ne _ different, monitors]
  · intro other later foundLater shut
    by_cases own : other = id
    · subst own
      rw [setMonitor_self, Option.some.injEq] at foundLater
      subst foundLater
      have started : monitor.batchStartedEmitted = old.batchStartedEmitted :=
        congrArg Monitor.Status.batchStartedEmitted same
      rw [Monitor.running, Bool.and_eq_true] at running
      exact started.trans running.1
    · rw [setMonitor_of_ne _ own, monitors] at foundLater
      exact wired.shut other later foundLater shut

theorem Wired.begin (wired : process.Wired) {id : MonitorId} {monitor : Monitor}
    (found : process.monitors id = some monitor) (now : Time) :
    (process.setMonitor id (begun monitor now)).Wired where
  args := wired.args
  heard other signal key := by
    apply (wired.heard other signal key).trans
    by_cases own : other = id
    · subst own
      rw [wires, wires, setMonitor_self, found]
      cases signal <;> rfl
    · rw [wires, wires, setMonitor_of_ne _ own]
  shut other later foundLater shut := by
    by_cases own : other = id
    · subst own
      rw [setMonitor_self, Option.some.injEq] at foundLater
      subst foundLater
      rfl
    · rw [setMonitor_of_ne _ own] at foundLater
      exact wired.shut other later foundLater shut

theorem Wired.act (wired : process.Wired) (id : MonitorId) (action : MonitorAction)
    (now : Time) : (process.act id action now).Wired := by
  unfold Process.act
  cases found : process.monitors id with
  | none =>
      cases action with
      | create batchClass fieldBatchOps => exact wired.setup found batchClass fieldBatchOps
      | begin => exact wired
      | receive message => exact wired
      | shutdown => exact wired
  | some monitor =>
      cases action with
      | create batchClass fieldBatchOps => exact wired
      | receive message => exact wired.emitAt now _
      | begin =>
          dsimp only
          split
          · exact wired
          · exact (wired.begin found now).emitAt now _
      | shutdown =>
          dsimp only
          split
          · rename_i running
            rcases emitAt_found process found now (emissionAt monitor now .shutdown)
              with ⟨later, foundLater, same⟩
            exact (wired.emitAt now _).close foundLater same running
          · exact wired

theorem Wired.step (wired : process.Wired) (step : ProcessStep) : (process.step step).Wired := by
  cases step with
  | monitor id action now => exact wired.act id action now
  | emission signal sender kwargs now => exact wired.emit signal sender kwargs now

end Steps

theorem Wired.fits {process : Process} (wired : process.Wired) (signal : MonitoredSignal)
    (kwargs : List (String × SignalValue)) :
    process.fits signal kwargs = Monitor.accepts signal kwargs := by
  have same : (process.signals signal).bindEmit kwargs = signal.initial.bindEmit kwargs := by
    unfold SoftSignal.bindEmit SoftSignal.ownArgs
    rw [wired.args]
    rfl
  rw [Process.fits, same]
  rfl

theorem Wired.emit_monitors {process : Process} (wired : process.Wired)
    (signal : MonitoredSignal) (sender : Sender) (kwargs : List (String × SignalValue))
    (now : Time) (id : MonitorId) :
    (process.emit signal sender kwargs now).monitors id =
      (process.monitors id).map fun monitor => monitor.hear signal sender kwargs now := by
  rw [Process.emit_monitors, wired.fits]
  cases found : process.monitors id with
  | none => simp
  | some monitor =>
      cases accepted : Monitor.accepts signal kwargs with
      | false => simp [Monitor.hear, accepted]
      | true =>
          simp only [reaches, wired.heard, wires, found, Option.map_some, Monitor.hear,
            accepted, Monitor.hearings, if_true]
          cases monitor.connected signal sender <;>
            cases monitor.connected signal .genericSender <;> rfl

theorem Wired.foldl {process : Process} (wired : process.Wired) (steps : List ProcessStep) :
    (steps.foldl Process.step process).Wired := by
  induction steps generalizing process with
  | nil => exact wired
  | cons step rest induction => exact induction (wired.step step)

theorem wired_after (steps : List ProcessStep) : (after steps).Wired :=
  wired_empty.foldl steps

end Process

end EventPipeline
