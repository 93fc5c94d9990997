import EventPipeline.Batch.Wrapper
import Mathlib.Logic.Function.Basic

/-! # What an emission does to a monitor

The handlers of one monitor that an emission reaches are applied to it one after the
other. The handlers of other monitors make no difference.
-/

namespace EventPipeline

namespace Process

def heard (process : Process) (id : MonitorId) (signal : MonitoredSignal) (key : Sender) :
    List MonitorListener :=
  ((process.signals signal).listenersOf key).filter fun listener => listener.1 = id

def reaches (process : Process) (id : MonitorId) (signal : MonitoredSignal) (sender : Sender) :
    List MonitorListener :=
  process.heard id signal sender ++ process.heard id signal .genericSender

def fits (process : Process) (signal : MonitoredSignal) (kwargs : List (String × SignalValue)) :
    Bool :=
  match (process.signals signal).bindEmit kwargs with
  | .ok _ => true
  | .error _ => false

theorem call_monitors (process : Process) (now : Time)
    (invocation : SoftSignal.Invocation MonitorListener SignalValue) (id : MonitorId) :
    (process.call now invocation).monitors id =
      if invocation.listener.1 = id then
        (process.monitors id).map fun monitor =>
          monitor.handle invocation.listener.2 invocation.kwargs now
      else process.monitors id := by
  unfold call
  by_cases same : invocation.listener.1 = id
  · subst same
    cases found : process.monitors invocation.listener.1 with
    | none => simp [found]
    | some monitor => simp [setMonitor]
  · have different : id ≠ invocation.listener.1 := fun equal => same equal.symm
    rw [if_neg same]
    cases process.monitors invocation.listener.1 with
    | none => rfl
    | some monitor => simp [setMonitor, Function.update_of_ne different]

theorem call_signals (process : Process) (now : Time)
    (invocation : SoftSignal.Invocation MonitorListener SignalValue) :
    (process.call now invocation).signals = process.signals := by
  unfold call
  cases process.monitors invocation.listener.1 <;> rfl

theorem foldl_call_signals (process : Process) (now : Time)
    (calls : List (SoftSignal.Invocation MonitorListener SignalValue)) :
    (calls.foldl (fun process call => process.call now call) process).signals =
      process.signals := by
  induction calls generalizing process with
  | nil => rfl
  | cons first rest induction => rw [List.foldl_cons, induction, call_signals]

@[simp] theorem emit_signals (process : Process) (signal : MonitoredSignal) (sender : Sender)
    (kwargs : List (String × SignalValue)) (now : Time) :
    (process.emit signal sender kwargs now).signals = process.signals := by
  unfold emit
  split
  · rfl
  · exact foldl_call_signals process now _

theorem foldl_call_monitors (process : Process) (now : Time) (name : String) (sender : Sender)
    (kwargs : List (String × SignalValue)) (listeners : List MonitorListener)
    (id : MonitorId) :
    ((listeners.map fun listener => (⟨listener, name, sender, kwargs⟩ :
        SoftSignal.Invocation MonitorListener SignalValue)).foldl
      (fun process call => process.call now call) process).monitors id =
      (process.monitors id).map fun monitor =>
        (listeners.filter fun listener => listener.1 = id).foldl
          (fun monitor listener => monitor.handle listener.2 kwargs now) monitor := by
  induction listeners generalizing process with
  | nil => simp
  | cons listener rest induction =>
      rw [List.map_cons, List.foldl_cons, induction, call_monitors]
      by_cases same : listener.1 = id
      · rw [if_pos same, List.filter_cons_of_pos (by simpa using same)]
        cases process.monitors id <;> rfl
      · rw [if_neg same, List.filter_cons_of_neg (by simpa using same)]

theorem reaches_eq (process : Process) (id : MonitorId) (signal : MonitoredSignal)
    (sender : Sender) : process.reaches id signal sender =
      ((process.signals signal).reached sender).filter fun listener => listener.1 = id := by
  rw [SoftSignal.reached, List.filter_append]
  rfl

theorem emit_monitors (process : Process) (signal : MonitoredSignal) (sender : Sender)
    (kwargs : List (String × SignalValue)) (now : Time) (id : MonitorId) :
    (process.emit signal sender kwargs now).monitors id =
      if process.fits signal kwargs then
        (process.monitors id).map fun monitor =>
          (process.reaches id signal sender).foldl
            (fun monitor listener => monitor.handle listener.2 kwargs now) monitor
      else process.monitors id := by
  rw [reaches_eq]
  unfold emit fits
  rw [SoftSignal.emit_eq, List.filter_true]
  cases bound : (process.signals signal).bindEmit kwargs with
  | error error =>
      cases (process.signals signal).reached sender <;> rfl
  | ok kwargs =>
      obtain rfl := (SoftSignal.bindEmit_eq_ok.mp bound).2.2.2
      have folded := foldl_call_monitors process now (process.signals signal).name sender kwargs
        ((process.signals signal).reached sender) id
      cases listeners : (process.signals signal).reached sender with
      | nil =>
          rw [listeners] at folded
          exact folded
      | cons first rest =>
          rw [listeners] at folded
          exact folded

@[simp] theorem setMonitor_signals (process : Process) (id : MonitorId) (monitor : Monitor) :
    (process.setMonitor id monitor).signals = process.signals := rfl

@[simp] theorem setMonitor_self (process : Process) (id : MonitorId) (monitor : Monitor) :
    (process.setMonitor id monitor).monitors id = some monitor := by
  simp [setMonitor]

theorem setMonitor_of_ne (process : Process) {id other : MonitorId} (different : other ≠ id)
    (monitor : Monitor) :
    (process.setMonitor id monitor).monitors other = process.monitors other := by
  simp [setMonitor, Function.update_of_ne different]

/-! ## Connections of a monitor -/

@[simp] theorem connect_monitors (process : Process) (signal : MonitoredSignal) (sender : Sender)
    (listener : MonitorListener) :
    (process.connect signal sender listener).monitors = process.monitors := rfl

@[simp] theorem disconnect_monitors (process : Process) (signal : MonitoredSignal)
    (sender : Sender) (listener : MonitorListener) :
    (process.disconnect signal sender listener).monitors = process.monitors := rfl

theorem heard_connect (process : Process) (signal other : MonitoredSignal) (sender key : Sender)
    (listener : MonitorListener) (id : MonitorId) :
    (process.connect signal sender listener).heard id other key =
      if other = signal ∧ SoftSignal.senderKey sender = key ∧ listener.1 = id then
        addNew (process.heard id other key) listener
      else process.heard id other key := by
  simp only [heard, connect, setSignal]
  by_cases same : other = signal
  · subst same
    rw [Function.update_self, SoftSignal.listenersOf_connect]
    by_cases keyed : SoftSignal.senderKey sender = key
    · rw [if_pos keyed, filter_addNew]
      by_cases own : listener.1 = id
      · rw [if_pos (by simpa using own), if_pos ⟨rfl, keyed, own⟩]
      · rw [if_neg (by simpa using own), if_neg fun all => own all.2.2]
    · rw [if_neg keyed, if_neg fun all => keyed all.2.1]
  · rw [Function.update_of_ne same, if_neg fun all => same all.1]

theorem heard_disconnect (process : Process) (signal other : MonitoredSignal)
    (sender key : Sender) (listener : MonitorListener) (id : MonitorId) :
    (process.disconnect signal sender listener).heard id other key =
      if other = signal ∧ sender = key then
        (process.heard id other key).filter (· ≠ listener)
      else process.heard id other key := by
  simp only [heard, disconnect, setSignal]
  by_cases same : other = signal
  · subst same
    rw [Function.update_self, SoftSignal.listenersOf_disconnect]
    by_cases keyed : sender = key
    · rw [if_pos keyed, if_pos ⟨rfl, keyed⟩, List.filter_filter, List.filter_filter]
      refine List.filter_congr fun other _ => ?_
      exact Bool.and_comm _ _
    · rw [if_neg keyed, if_neg fun all => keyed all.2]
  · rw [Function.update_of_ne same, if_neg fun all => same all.1]

end Process

end EventPipeline
