import EventPipeline.Foundation.Loop
import EventPipeline.Foundation.OrderedDict

/-! # Soft signals

A signal keeps the listeners that are connected for each sender and calls them when it is
emitted. Listeners that are connected without a sender are kept under `GenericSender` and
are called for every sender. The set of the listeners of a sender is the list of them
without repetitions.
-/

namespace EventPipeline

/-- The sender of a signal: `None`, the class `GenericSender`, or another object with its
truth value. -/
inductive Sender
  | none
  | genericSender
  | object (id : Nat) (truthy : Bool)
deriving DecidableEq, Repr

def Sender.truthy : Sender → Bool
  | .none => false
  | .genericSender => true
  | .object _ truthy => truthy

/-- The exception of a call with the wrong arguments. -/
inductive SignalError
  | typeError (message : String)
  | importError (message : String)
  | attributeError (message : String)
deriving DecidableEq, Repr

/-- A signal with its listeners. The names of the arguments that it provides are those given
to the constructor; `sender` and `signal` are added to them. `inspect.Signature` refuses a
name that is given twice. -/
structure SoftSignal (Listener : Type) where
  name : String
  provideArgs : List String
  distinct : (provideArgs ++ ["pipeline_id", "process_id"]).Nodup
  listeners : List (Sender × List Listener) := []

namespace SoftSignal

variable {Listener : Type} [DecidableEq Listener] {Value : Type}

def instanceImportStr (signal : SoftSignal Listener) : String :=
  "nexus.signal.signals." ++ signal.name

/-- `sender=None` connects for any sender. -/
def senderKey : Sender → Sender
  | .none => .genericSender
  | sender => sender

def listenersOf (signal : SoftSignal Listener) (sender : Sender) : List Listener :=
  (OrderedDict.get sender signal.listeners).getD []

def connect (signal : SoftSignal Listener) (sender : Sender) (listener : Listener) :
    SoftSignal Listener :=
  { signal with
    listeners := OrderedDict.insert (senderKey sender)
      (addNew (signal.listenersOf (senderKey sender)) listener) signal.listeners }

/-- The sender is looked up as it is given. -/
def disconnect (signal : SoftSignal Listener) (sender : Sender) (listener : Listener) :
    SoftSignal Listener :=
  match OrderedDict.get sender signal.listeners with
  | none => signal
  | some listeners =>
      match listeners.filter (· ≠ listener) with
      | [] =>
          { signal with listeners := signal.listeners.filter fun entry => entry.1 ≠ sender }
      | others => { signal with listeners := OrderedDict.insert sender others signal.listeners }

/-- The sender is looked up as it is given. -/
def clean (signal : SoftSignal Listener) (sender : Sender) : SoftSignal Listener :=
  { signal with listeners := signal.listeners.filter fun entry => entry.1 ≠ sender }

/-- The arguments of the signal besides `sender` and `signal`. -/
def ownArgs (signal : SoftSignal Listener) : List String :=
  signal.provideArgs.filter fun name => name ∉ ["sender", "signal"]

/-- `_emit_signature.bind(signal=self, sender=sender, **kwargs)`. The names of the parameters
of the methods on the way cannot be passed on. -/
def bindEmit (signal : SoftSignal Listener) (kwargs : List (String × Value)) :
    Except SignalError (List (String × Value)) :=
  match kwargs.find? fun entry => entry.1 ∈ ["self", "sender", "listener_ref", "signal"] with
  | some (name, _) => .error (.typeError ("got multiple values for argument '" ++ name ++ "'"))
  | none =>
      match signal.ownArgs.find? fun name => name ∉ OrderedDict.keys kwargs with
      | some name => .error (.typeError ("missing a required argument: '" ++ name ++ "'"))
      | none =>
          match kwargs.find? fun entry =>
              entry.1 ∉ signal.ownArgs ++ ["pipeline_id", "process_id"] with
          | some (name, _) =>
              .error (.typeError ("got an unexpected keyword argument '" ++ name ++ "'"))
          | none => .ok kwargs

/-- A call of a listener. -/
structure Invocation (Listener Value : Type) where
  listener : Listener
  signal : String
  sender : Sender
  kwargs : List (String × Value)
deriving DecidableEq, Repr

/-- `_execute_listeners`: a listener that is still alive is called. -/
def executeListeners (signal : SoftSignal Listener) (alive : Listener → Bool)
    (sender : Sender) (kwargs : List (String × Value)) (listener : Listener) :
    Except SignalError (Option (Invocation Listener Value)) :=
  if alive listener then do
    let bound ← signal.bindEmit kwargs
    return some ⟨listener, signal.name, sender, bound⟩
  else
    .ok none

/-- The listeners that an emission goes through. -/
def reached (signal : SoftSignal Listener) (sender : Sender) : List Listener :=
  signal.listenersOf sender ++ signal.listenersOf .genericSender

/-- The calls that an emission makes. -/
def emit (signal : SoftSignal Listener) (alive : Listener → Bool) (sender : Sender)
    (kwargs : List (String × Value)) : Except SignalError (List (Invocation Listener Value)) := do
  let calls ← (signal.reached sender).mapM (signal.executeListeners alive sender kwargs)
  return calls.filterMap id

omit [DecidableEq Listener] in
theorem bindEmit_eq_ok {signal : SoftSignal Listener} {kwargs bound : List (String × Value)} :
    signal.bindEmit kwargs = .ok bound ↔
      (∀ name ∈ OrderedDict.keys kwargs, name ∉ ["self", "sender", "listener_ref", "signal"]) ∧
      (∀ name ∈ signal.ownArgs, name ∈ OrderedDict.keys kwargs) ∧
      (∀ name ∈ OrderedDict.keys kwargs,
        name ∈ signal.ownArgs ++ ["pipeline_id", "process_id"]) ∧ bound = kwargs := by
  unfold bindEmit
  split
  · rename_i name value found
    have member := List.mem_of_find?_eq_some found
    have reserved := List.find?_some found
    refine iff_of_false (fun same => by cases same) fun accepted => ?_
    exact accepted.1 name (List.mem_map_of_mem member) (by simpa using reserved)
  · rename_i free
    rw [List.find?_eq_none] at free
    have free : ∀ name ∈ OrderedDict.keys kwargs,
        name ∉ ["self", "sender", "listener_ref", "signal"] := by
      refine List.forall_mem_map.mpr fun entry member => ?_
      simpa using free entry member
    rw [and_iff_right free]
    split
    · rename_i name found
      have member := List.mem_of_find?_eq_some found
      have missing := List.find?_some found
      refine iff_of_false (fun same => by cases same) fun accepted => ?_
      exact absurd (accepted.1 name member) (by simpa using missing)
    · rename_i complete
      rw [List.find?_eq_none] at complete
      have complete : ∀ name ∈ signal.ownArgs, name ∈ OrderedDict.keys kwargs := by
        simpa using complete
      rw [and_iff_right complete]
      split
      · rename_i name value found
        have member := List.mem_of_find?_eq_some found
        have unexpected := List.find?_some found
        refine iff_of_false (fun same => by cases same) fun accepted => ?_
        exact absurd (accepted.1 name (List.mem_map_of_mem member)) (by simpa using unexpected)
      · rename_i known
        rw [List.find?_eq_none] at known
        have known : ∀ name ∈ OrderedDict.keys kwargs,
            name ∈ signal.ownArgs ++ ["pipeline_id", "process_id"] := by
          refine List.forall_mem_map.mpr fun entry member => ?_
          simpa only [decide_eq_true_eq, not_not] using known entry member
        rw [and_iff_right known, Except.ok.injEq, eq_comm]

omit [DecidableEq Listener] in
/-- An emission calls every listener that is alive, unless the arguments do not fit. -/
theorem emit_eq (signal : SoftSignal Listener) (alive : Listener → Bool) (sender : Sender)
    (kwargs : List (String × Value)) :
    signal.emit alive sender kwargs =
      match (signal.reached sender).filter alive with
      | [] => .ok []
      | live => do
          let bound ← signal.bindEmit kwargs
          return live.map fun listener => ⟨listener, signal.name, sender, bound⟩ := by
  unfold emit
  cases fits : signal.bindEmit kwargs with
  | error error =>
      induction signal.reached sender with
      | nil => rfl
      | cons listener rest induction =>
          by_cases here : alive listener = true
          · simp [List.mapM_cons, executeListeners, here, fits, bind, Except.bind]
          · have passed : signal.executeListeners alive sender kwargs listener = .ok none := by
              simp [executeListeners, here]
            rw [List.filter_cons_of_neg here, ← induction, List.mapM_cons, passed]
            cases rest.mapM (signal.executeListeners alive sender kwargs) <;> rfl
  | ok bound =>
      have calls : (signal.reached sender).mapM (signal.executeListeners alive sender kwargs) =
          .ok ((signal.reached sender).map fun listener =>
            if alive listener then some ⟨listener, signal.name, sender, bound⟩ else none) := by
        refine mapM_eq_ok fun listener _ => ?_
        unfold executeListeners
        split
        · simp [fits, bind, Except.bind, pure, Except.pure]
        · rfl
      rw [calls]
      have live : (((signal.reached sender).map fun listener =>
          if alive listener then some (⟨listener, signal.name, sender, bound⟩ :
            Invocation Listener Value) else none).filterMap id) =
          ((signal.reached sender).filter alive).map fun listener =>
            ⟨listener, signal.name, sender, bound⟩ := by
        induction signal.reached sender with
        | nil => rfl
        | cons listener rest induction =>
            by_cases here : alive listener = true <;> simpa [here] using induction
      simp only [bind, Except.bind, pure, Except.pure, live]
      split
      · rename_i none
        rw [none]
        rfl
      · rfl

/-! ## Connections -/

theorem listenersOf_connect (signal : SoftSignal Listener) (sender key : Sender)
    (listener : Listener) : (signal.connect sender listener).listenersOf key =
      if senderKey sender = key then addNew (signal.listenersOf key) listener
      else signal.listenersOf key := by
  unfold connect listenersOf
  rw [OrderedDict.get_insert]
  split
  · rename_i same
    rw [same, Option.getD_some]
  · rfl

theorem listenersOf_disconnect (signal : SoftSignal Listener) (sender key : Sender)
    (listener : Listener) : (signal.disconnect sender listener).listenersOf key =
      if sender = key then (signal.listenersOf key).filter (· ≠ listener)
      else signal.listenersOf key := by
  unfold disconnect listenersOf
  split
  · rename_i none
    split
    · rename_i same
      rw [← same, none]
      rfl
    · rfl
  · rename_i listeners found
    split
    · rename_i empty
      rw [OrderedDict.get_filter_ne]
      by_cases same : sender = key
      · subst same
        rw [if_pos rfl, if_pos rfl, found, Option.getD_some, empty]
        rfl
      · rw [if_neg fun equal => same equal.symm, if_neg same]
    · rw [OrderedDict.get_insert]
      by_cases same : sender = key
      · subst same
        rw [if_pos rfl, if_pos rfl, found, Option.getD_some, Option.getD_some]
      · rw [if_neg same, if_neg same]

omit [DecidableEq Listener] in
theorem listenersOf_clean (signal : SoftSignal Listener) (sender key : Sender) :
    (signal.clean sender).listenersOf key =
      if key = sender then [] else signal.listenersOf key := by
  unfold clean listenersOf
  rw [OrderedDict.get_filter_ne]
  split
  · rfl
  · rfl

theorem provideArgs_disconnect (signal : SoftSignal Listener) (sender : Sender)
    (listener : Listener) :
    (signal.disconnect sender listener).provideArgs = signal.provideArgs := by
  unfold disconnect
  split
  · rfl
  · split <;> rfl

end SoftSignal

end EventPipeline
