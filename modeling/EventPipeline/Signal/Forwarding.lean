import EventPipeline.Signal.SoftSignal

/-! # Forwarded signals

The handler that a wrapper connects in the process of its pipeline puts a message on the
queue of the batch. The monitor emits the signal again from the message.
-/

namespace EventPipeline

/-- The signals that can be imported under their import strings. -/
structure SignalModule (Listener : Type) where
  signals : List (SoftSignal Listener)
  distinct : (signals.map SoftSignal.name).Nodup

/-- What the handler reads besides its arguments. -/
structure WrapperContext (Value : Type) where
  pipelineId : Value
  processId : Value
  wrapperId : Value
  now : Value
deriving DecidableEq, Repr

/-- A message of type `pipeline_signal`. `sender` and `signal` are entries of its keyword
arguments, which the monitor takes out first. -/
structure SignalMessage (Value : Type) where
  sender : Sender
  signal : String
  kwargs : List (String × Value)
  wrapperId : Value
  timestamp : Value
  version : String := "1"
deriving DecidableEq, Repr

section Forwarding

variable {Listener : Type} [DecidableEq Listener] {Value : Type}

def SignalModule.importString (signals : SignalModule Listener) (name : String) :
    Except SignalError (SoftSignal Listener) :=
  match signals.signals.find? fun signal => signal.name = name with
  | some signal => .ok signal
  | none => .error (.importError ("Module \"nexus.signal.signals\" does not define a \"" ++ name ++
      "\" attribute/class"))

/-- What the handler adds to the keyword arguments. -/
def WrapperContext.entries (wrapper : WrapperContext Value) : List (String × Value) :=
  [("pipeline_id", wrapper.pipelineId), ("process_id", wrapper.processId),
    ("timestamp", wrapper.now), ("wrapper_id", wrapper.wrapperId)]

/-- The message that `signal_handler` puts on the queue when it is called. -/
def WrapperContext.signalHandler (wrapper : WrapperContext Value)
    (call : SoftSignal.Invocation Listener Value) : SignalMessage Value where
  sender := call.sender
  signal := call.signal
  kwargs := OrderedDict.update call.kwargs wrapper.entries
  wrapperId := wrapper.wrapperId
  timestamp := wrapper.now

/-- `construct_signal`: the calls that it makes. An exception is logged. -/
def SignalModule.constructSignal (signals : SignalModule Listener) (alive : Listener → Bool)
    (message : SignalMessage Value) :
    Except SignalError (List (SoftSignal.Invocation Listener Value)) :=
  if message.sender.truthy then do
    let signal ← signals.importString message.signal
    signal.emit alive message.sender message.kwargs
  else
    .ok []

end Forwarding

/-- A signal of the module that is emitted in the process of a pipeline, with arguments that
it accepts, and calls the handler of the wrapper. -/
structure ForwardedSignal (Listener Value : Type) where
  parent : SignalModule Listener
  signal : SoftSignal Listener
  registered : signal ∈ parent.signals
  sender : Sender
  kwargs : List (String × Value)
  accepted : signal.bindEmit kwargs = .ok kwargs
  handler : Listener
  wrapper : WrapperContext Value

namespace ForwardedSignal

variable {Listener : Type} [DecidableEq Listener] {Value : Type}

def message (forwarded : ForwardedSignal Listener Value) : SignalMessage Value :=
  forwarded.wrapper.signalHandler
    ⟨forwarded.handler, forwarded.signal.name, forwarded.sender, forwarded.kwargs⟩

/-- The listeners of the parent that the signal is for, as often as an emission reaches
them. -/
def live (forwarded : ForwardedSignal Listener Value) (alive : Listener → Bool) :
    List Listener :=
  (forwarded.signal.reached forwarded.sender).filter alive

/-- The monitor calls every listener of the parent once, with the same sender and the same
values of the arguments of the signal. -/
def Survives (forwarded : ForwardedSignal Listener Value) (alive : Listener → Bool) : Prop :=
  ∃ calls, forwarded.parent.constructSignal alive forwarded.message = .ok calls ∧
    (∀ listener, (calls.map SoftSignal.Invocation.listener).count listener =
      if listener ∈ forwarded.live alive then 1 else 0) ∧
    ∀ call ∈ calls, call.signal = forwarded.signal.name ∧ call.sender = forwarded.sender ∧
      ∀ name ∈ forwarded.signal.ownArgs,
        OrderedDict.get name call.kwargs = OrderedDict.get name forwarded.kwargs

/-- No listener is there; or the sender is true, no listener is connected for the sender and
for any sender, and the signal has arguments `timestamp` and `wrapper_id` of its own, with the
values that the handler stores under these names. -/
def Undisturbed (forwarded : ForwardedSignal Listener Value) (alive : Listener → Bool) : Prop :=
  forwarded.live alive = [] ∨
    forwarded.sender.truthy = true ∧ (forwarded.live alive).Nodup ∧
    "timestamp" ∈ forwarded.signal.ownArgs ∧ "wrapper_id" ∈ forwarded.signal.ownArgs ∧
    OrderedDict.get "timestamp" forwarded.kwargs = some forwarded.wrapper.now ∧
    OrderedDict.get "wrapper_id" forwarded.kwargs = some forwarded.wrapper.wrapperId

variable (forwarded : ForwardedSignal Listener Value)

omit [DecidableEq Listener] in
theorem importString_eq :
    forwarded.parent.importString forwarded.signal.name = .ok forwarded.signal := by
  unfold SignalModule.importString
  have found : forwarded.parent.signals.find? (fun signal =>
      signal.name = forwarded.signal.name) = some forwarded.signal := by
    cases result : forwarded.parent.signals.find? fun signal =>
        signal.name = forwarded.signal.name with
    | none =>
        have missing := List.find?_eq_none.mp result forwarded.signal forwarded.registered
        exact absurd (by simp) missing
    | some other =>
        have same : other.name = forwarded.signal.name := by simpa using List.find?_some result
        have member := List.mem_of_find?_eq_some result
        rw [List.inj_on_of_nodup_map forwarded.parent.distinct member forwarded.registered same]
  rw [found]

omit [DecidableEq Listener] in
/-- The arguments of the message fit the signal only when it has arguments `timestamp` and
`wrapper_id` of its own. -/
theorem bindEmit_message : forwarded.signal.bindEmit forwarded.message.kwargs =
      .ok forwarded.message.kwargs ↔
    "timestamp" ∈ forwarded.signal.ownArgs ∧ "wrapper_id" ∈ forwarded.signal.ownArgs := by
  rcases SoftSignal.bindEmit_eq_ok.mp forwarded.accepted with ⟨free, complete, known, _⟩
  have keys : ∀ name, name ∈ OrderedDict.keys forwarded.message.kwargs ↔
      name ∈ OrderedDict.keys forwarded.kwargs ∨
        name ∈ ["pipeline_id", "process_id", "timestamp", "wrapper_id"] := by
    intro name
    exact OrderedDict.mem_keys_update
  rw [SoftSignal.bindEmit_eq_ok]
  constructor
  · rintro ⟨_, _, fits, _⟩
    have stamp := fits "timestamp" ((keys _).mpr (.inr (by decide)))
    have wrapper := fits "wrapper_id" ((keys _).mpr (.inr (by decide)))
    exact ⟨by simpa using stamp, by simpa using wrapper⟩
  · rintro ⟨stamp, wrapper⟩
    refine ⟨fun name member => ?_, fun name own => ?_, fun name member => ?_, rfl⟩
    · rcases (keys name).mp member with given | added
      · exact free name given
      · have apart : ∀ name ∈ ["pipeline_id", "process_id", "timestamp", "wrapper_id"],
            name ∉ ["self", "sender", "listener_ref", "signal"] := by decide
        exact apart name added
    · exact (keys name).mpr (.inl (complete name own))
    · rcases (keys name).mp member with given | added
      · exact known name given
      · simp only [List.mem_cons, List.not_mem_nil, or_false] at added
        rcases added with rfl | rfl | rfl | rfl
        · simp
        · simp
        · exact List.mem_append_left _ stamp
        · exact List.mem_append_left _ wrapper

omit [DecidableEq Listener] in
theorem get_message (name : String) :
    OrderedDict.get name forwarded.message.kwargs =
      (OrderedDict.get name forwarded.wrapper.entries).or
        (OrderedDict.get name forwarded.kwargs) := by
  refine OrderedDict.get_update name ?_
  simp [OrderedDict.keys, WrapperContext.entries]

omit [DecidableEq Listener] in
theorem constructSignal_eq (alive : Listener → Bool) :
    forwarded.parent.constructSignal alive forwarded.message =
      if forwarded.sender.truthy then
        forwarded.signal.emit alive forwarded.sender forwarded.message.kwargs
      else .ok [] := by
  have imported := forwarded.importString_eq
  unfold SignalModule.constructSignal
  simp only [message, WrapperContext.signalHandler, imported, bind, Except.bind]

/-- The calls of an emission with the arguments of the message. -/
def calls (alive : Listener → Bool) : List (SoftSignal.Invocation Listener Value) :=
  (forwarded.live alive).map fun listener =>
    ⟨listener, forwarded.signal.name, forwarded.sender, forwarded.message.kwargs⟩

omit [DecidableEq Listener] in
theorem map_listener_calls (alive : Listener → Bool) :
    (forwarded.calls alive).map SoftSignal.Invocation.listener = forwarded.live alive := by
  simp [calls, Function.comp_def]

omit [DecidableEq Listener] in
/-- With a listener there, the message is emitted when the sender is true and the arguments
fit. -/
theorem constructSignal_eq_ok {alive : Listener → Bool} (heard : forwarded.live alive ≠ [])
    {made : List (SoftSignal.Invocation Listener Value)} :
    forwarded.parent.constructSignal alive forwarded.message = .ok made ↔
      if forwarded.sender.truthy then
        "timestamp" ∈ forwarded.signal.ownArgs ∧ "wrapper_id" ∈ forwarded.signal.ownArgs ∧
          made = forwarded.calls alive
      else made = [] := by
  rw [constructSignal_eq]
  split
  · rw [SoftSignal.emit_eq, ← and_assoc, ← bindEmit_message]
    split
    · rename_i none
      exact absurd none heard
    · cases fits : forwarded.signal.bindEmit forwarded.message.kwargs with
      | error error => simp [bind, Except.bind]
      | ok bound =>
          obtain rfl := (SoftSignal.bindEmit_eq_ok.mp fits).2.2.2
          simp [bind, Except.bind, pure, Except.pure, calls, live, eq_comm]
  · rw [Except.ok.injEq, eq_comm]

omit [DecidableEq Listener] in
theorem get_message_of_ne {name : String} (own : name ∈ forwarded.signal.ownArgs)
    (stamp : name ≠ "timestamp") (wrapper : name ≠ "wrapper_id") :
    OrderedDict.get name forwarded.message.kwargs = OrderedDict.get name forwarded.kwargs := by
  have distinct := forwarded.signal.distinct
  rw [List.nodup_append] at distinct
  have provided : name ∈ forwarded.signal.provideArgs := (List.mem_filter.mp own).1
  have pipeline : name ≠ "pipeline_id" := distinct.2.2 name provided _ (by simp)
  have process : name ≠ "process_id" := distinct.2.2 name provided _ (by simp)
  rw [get_message]
  simp [OrderedDict.get, WrapperContext.entries, pipeline.symm, process.symm, stamp.symm,
    wrapper.symm]

/-- Signals survive the trip exactly when nobody listens or nothing is in the way. -/
theorem survives_iff (alive : Listener → Bool) :
    forwarded.Survives alive ↔ forwarded.Undisturbed alive := by
  by_cases heard : forwarded.live alive = []
  · refine iff_of_true ⟨[], ?_, ?_, ?_⟩ (.inl heard)
    · rw [constructSignal_eq, SoftSignal.emit_eq]
      rw [live] at heard
      rw [heard]
      split <;> rfl
    · simp [heard]
    · simp
  rw [Undisturbed, or_iff_right heard]
  rcases List.exists_mem_of_ne_nil _ heard with ⟨first, firstLive⟩
  constructor
  · rintro ⟨made, emitted, counts, same⟩
    rw [forwarded.constructSignal_eq_ok heard] at emitted
    split at emitted
    · rename_i truthy
      rcases emitted with ⟨stamp, wrapper, rfl⟩
      have values := (same _ (List.mem_map_of_mem firstLive)).2.2
      rw [map_listener_calls] at counts
      refine ⟨truthy, List.nodup_iff_count_eq_one.mpr fun listener member => ?_, stamp, wrapper,
        ?_, ?_⟩
      · rw [counts listener, if_pos member]
      · rw [← values _ stamp, get_message]
        rfl
      · rw [← values _ wrapper, get_message]
        rfl
    · have once := counts first
      rw [emitted, if_pos firstLive] at once
      cases once
  · rintro ⟨truthy, nodup, stamp, wrapper, stampSame, wrapperSame⟩
    refine ⟨forwarded.calls alive, (forwarded.constructSignal_eq_ok heard).mpr ?_,
      fun listener => ?_, ?_⟩
    · rw [if_pos truthy]
      exact ⟨stamp, wrapper, rfl⟩
    · rw [map_listener_calls, nodup.count]
    · rintro call member
      rcases List.mem_map.mp member with ⟨listener, _, rfl⟩
      refine ⟨rfl, rfl, fun name own => ?_⟩
      by_cases stamped : name = "timestamp"
      · rw [get_message, stamped, stampSame]
        rfl
      · by_cases wrapped : name = "wrapper_id"
        · rw [get_message, wrapped, wrapperSame]
          rfl
        · exact forwarded.get_message_of_ne own stamped wrapped

end ForwardedSignal

/-! ## The signals of the repository -/

/-- The names of the signals, with the names of their arguments. -/
def nexusSignals : List (String × List String) := [
  ("pipeline_pre_init", ["args", "kwargs"]),
  ("pipeline_post_init", ["pipeline"]),
  ("pipeline_shutdown", ["pipeline", "execution_context"]),
  ("pipeline_stop", ["pipeline", "execution_context"]),
  ("pipeline_execution_start", ["pipeline"]),
  ("pipeline_execution_end", ["execution_context"]),
  ("event_init", ["event", "init_kwargs"]),
  ("event_execution_init", ["event", "execution_context", "executor", "call_kwargs"]),
  ("event_execution_start", ["event", "execution_context"]),
  ("event_execution_end", ["event", "execution_context"]),
  ("event_execution_retry",
    ["event", "execution_context", "task_id", "backoff", "retry_count", "max_attempts"]),
  ("event_execution_retry_done", ["event", "execution_context", "task_id", "max_attempts"]),
  ("event_execution_cancelled", ["task_profiles", "execution_context", "state"]),
  ("event_execution_aborted", ["task_profiles", "execution_context", "state"]),
  ("batch_pipeline_started", ["batch", "total_pipelines", "timestamp"]),
  ("batch_pipeline_finished",
    ["batch", "metrics", "success_rate", "total_duration", "timestamp"]),
  ("pipeline_metrics_updated",
    ["batch_id", "metrics", "active_count", "completion_rate", "timestamp"])]

theorem ForwardedSignal.undisturbed_nexus_iff {Listener Value : Type} [DecidableEq Listener]
    (forwarded : ForwardedSignal Listener Value)
    (listed : (forwarded.signal.name, forwarded.signal.provideArgs) ∈ nexusSignals)
    (alive : Listener → Bool) :
    forwarded.Undisturbed alive ↔ forwarded.live alive = [] := by
  have without : ∀ entry ∈ nexusSignals, "wrapper_id" ∉ entry.2 := by decide
  refine or_iff_left fun disturbed => ?_
  exact without _ listed (List.mem_filter.mp disturbed.2.2.2.1).1

/-- `pipeline_execution_start` with one listener for any sender. -/
def startSignal : SoftSignal Nat where
  name := "pipeline_execution_start"
  provideArgs := ["pipeline"]
  distinct := by decide
  listeners := [(.genericSender, [7])]

def forwardedStart : ForwardedSignal Nat String where
  parent := ⟨[startSignal], by decide⟩
  signal := startSignal
  registered := by simp
  sender := .object 0 true
  kwargs := [("pipeline", "first")]
  accepted := by rfl
  handler := 3
  wrapper := ⟨"first", "42", "wrapper_42_1000", "1000.5"⟩

/-- The listener is not called. -/
theorem not_survives_forwardedStart : ¬forwardedStart.Survives fun _ => true := by
  rintro ⟨calls, emitted, _⟩
  have refused : forwardedStart.parent.constructSignal (fun _ => true) forwardedStart.message =
      .error (.typeError "got an unexpected keyword argument 'timestamp'") := by rfl
  rw [refused] at emitted
  cases emitted

end EventPipeline
