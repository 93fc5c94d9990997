import EventPipeline.Signal.SoftSignal
import Mathlib.Data.List.Induction

/-! # Subscriptions

A listener should hear a sender when it has been connected for it, or for any sender, and this has
not been undone since. Connecting for any sender is kept under `GenericSender`; disconnecting and
cleaning look up `None` as it is given.
-/

namespace EventPipeline

inductive SubscriptionAction (Listener : Type)
  | connect (sender : Sender) (listener : Listener)
  | disconnect (sender : Sender) (listener : Listener)
  | clean (sender : Sender)
deriving DecidableEq, Repr

section Subscriptions

variable {Listener : Type} [DecidableEq Listener]

/-- The listener has been connected with this argument, and then neither disconnected nor cleaned
with it. -/
def registered (actions : List (SubscriptionAction Listener)) (argument : Sender)
    (listener : Listener) : Bool :=
  actions.foldl (fun registered action =>
    match action with
    | .connect sender connected =>
        if sender = argument ∧ connected = listener then true else registered
    | .disconnect sender disconnected =>
        if sender = argument ∧ disconnected = listener then false else registered
    | .clean sender => if sender = argument then false else registered) false

/-- The listener has been connected with `None` or `GenericSender`, and then neither disconnected
nor cleaned with `GenericSender`. -/
def keptGenerically (actions : List (SubscriptionAction Listener)) (listener : Listener) : Bool :=
  actions.foldl (fun kept action =>
    match action with
    | .connect sender connected =>
        if (sender = .none ∨ sender = .genericSender) ∧ connected = listener then true else kept
    | .disconnect sender disconnected =>
        if sender = .genericSender ∧ disconnected = listener then false else kept
    | .clean sender => if sender = .genericSender then false else kept) false

namespace SoftSignal

def step (signal : SoftSignal Listener) :
    SubscriptionAction Listener → SoftSignal Listener
  | .connect sender listener => signal.connect sender listener
  | .disconnect sender listener => signal.disconnect sender listener
  | .clean sender => signal.clean sender

/-- The signal, made anew, after some calls. -/
def after (signal : SoftSignal Listener) (actions : List (SubscriptionAction Listener)) :
    SoftSignal Listener :=
  actions.foldl step { signal with listeners := [] }

/-- What is logged and collected for a call: what the listener returns, or the exception that it
raises. -/
abbrev Response (Error Value : Type) := Except Error Value

/-- `_execute_listeners` with what the listener does. -/
def executeAndRespond {Value Error Answer : Type} (signal : SoftSignal Listener)
    (truthy : Listener → Bool)
    (behaviour : Invocation Listener Value → Except Error Answer) (sender : Sender)
    (kwargs : List (String × Value)) (listener : Listener) :
    Except SignalError (List (Listener × Response Error Answer)) := do
  match ← signal.executeListeners truthy sender kwargs listener with
  | none => return []
  | some call =>
      match behaviour call with
      | .ok answer => return [(listener, .ok answer)]
      | .error error => return [(listener, .error error)]

/-- What `emit` returns. -/
def emitAndRespond {Value Error Answer : Type} (signal : SoftSignal Listener)
    (truthy : Listener → Bool)
    (behaviour : Invocation Listener Value → Except Error Answer) (sender : Sender)
    (kwargs : List (String × Value)) :
    Except SignalError (List (Listener × Response Error Answer)) := do
  let responses ← (signal.reached sender).mapM
    (signal.executeAndRespond truthy behaviour sender kwargs)
  return responses.flatten

/-- How often a listener should be called. -/
def registrations (actions : List (SubscriptionAction Listener)) (sender : Sender)
    (listener : Listener) : Nat :=
  (registered actions sender listener).toNat +
    if sender = .none then 0 else (registered actions .none listener).toNat

/-- An emission after the calls reaches each listener once for each of its registrations. -/
def FollowsRegistrations {Value Error Answer : Type} (signal : SoftSignal Listener)
    (truthy : Listener → Bool)
    (behaviour : Invocation Listener Value → Except Error Answer)
    (actions : List (SubscriptionAction Listener)) (sender : Sender)
    (kwargs : List (String × Value)) : Prop :=
  ∃ responses,
    (signal.after actions).emitAndRespond truthy behaviour sender kwargs = .ok responses ∧
      ∀ listener, (responses.map Prod.fst).count listener = registrations actions sender listener

/-- A listener with the truth value true is registered for any sender exactly when it is kept so,
and, for an emission with the sender `GenericSender`, exactly when it is registered for that; a
listener with the truth value false is not registered. -/
def KeptAsRegistered (truthy : Listener → Bool) (actions : List (SubscriptionAction Listener))
    (sender : Sender) : Prop :=
  ∀ listener,
    if truthy listener then
      keptGenerically actions listener = registered actions .none listener ∧
        (sender = .genericSender →
          registered actions .genericSender listener = registered actions .none listener)
    else registered actions sender listener = false ∧ registered actions .none listener = false

/-! ## The listeners that are kept -/

theorem after_concat (signal : SoftSignal Listener)
    (front : List (SubscriptionAction Listener)) (action : SubscriptionAction Listener) :
    signal.after (front ++ [action]) = (signal.after front).step action := by
  rw [after, List.foldl_append]
  rfl

theorem nodup_listenersOf_after (signal : SoftSignal Listener)
    (actions : List (SubscriptionAction Listener)) (key : Sender) :
    ((signal.after actions).listenersOf key).Nodup := by
  induction actions using List.reverseRecOn with
  | nil => exact List.nodup_nil
  | append_singleton front action induction =>
      rw [after_concat]
      cases action with
      | connect sender listener =>
          rw [step, listenersOf_connect]
          split
          · exact nodup_addNew induction listener
          · exact induction
      | disconnect sender listener =>
          rw [step, listenersOf_disconnect]
          split
          · exact induction.filter _
          · exact induction
      | clean sender =>
          rw [step, listenersOf_clean]
          split
          · exact List.nodup_nil
          · exact induction

theorem listenersOf_none_after (signal : SoftSignal Listener)
    (actions : List (SubscriptionAction Listener)) :
    (signal.after actions).listenersOf .none = [] := by
  induction actions using List.reverseRecOn with
  | nil => rfl
  | append_singleton front action induction =>
      rw [after_concat]
      cases action with
      | connect sender listener =>
          have other : senderKey sender ≠ .none := by
            cases sender <;> simp [senderKey]
          rw [step, listenersOf_connect, if_neg other]
          exact induction
      | disconnect sender listener =>
          rw [step, listenersOf_disconnect, induction]
          split <;> rfl
      | clean sender =>
          rw [step, listenersOf_clean, induction]
          split <;> rfl

/-! ## Registrations, by the last call -/

omit [DecidableEq Listener] in
theorem senderKey_eq_object {sender : Sender} {id : Nat} {truth : Bool} :
    senderKey sender = .object id truth ↔ sender = .object id truth := by
  cases sender <;> simp [senderKey]

omit [DecidableEq Listener] in
theorem senderKey_eq_genericSender {sender : Sender} :
    senderKey sender = .genericSender ↔ sender = .none ∨ sender = .genericSender := by
  cases sender <;> simp [senderKey]

theorem registered_connect (front : List (SubscriptionAction Listener)) (sender argument : Sender)
    (connected listener : Listener) :
    registered (front ++ [.connect sender connected]) argument listener =
      if sender = argument ∧ connected = listener then true
      else registered front argument listener := by
  rw [registered, List.foldl_append]
  rfl

theorem registered_disconnect (front : List (SubscriptionAction Listener))
    (sender argument : Sender) (disconnected listener : Listener) :
    registered (front ++ [.disconnect sender disconnected]) argument listener =
      if sender = argument ∧ disconnected = listener then false
      else registered front argument listener := by
  rw [registered, List.foldl_append]
  rfl

theorem registered_clean (front : List (SubscriptionAction Listener)) (sender argument : Sender)
    (listener : Listener) :
    registered (front ++ [.clean sender]) argument listener =
      if sender = argument then false else registered front argument listener := by
  rw [registered, List.foldl_append]
  rfl

theorem keptGenerically_connect (front : List (SubscriptionAction Listener)) (sender : Sender)
    (connected listener : Listener) :
    keptGenerically (front ++ [.connect sender connected]) listener =
      if (sender = .none ∨ sender = .genericSender) ∧ connected = listener then true
      else keptGenerically front listener := by
  rw [keptGenerically, List.foldl_append]
  rfl

theorem keptGenerically_disconnect (front : List (SubscriptionAction Listener)) (sender : Sender)
    (disconnected listener : Listener) :
    keptGenerically (front ++ [.disconnect sender disconnected]) listener =
      if sender = .genericSender ∧ disconnected = listener then false
      else keptGenerically front listener := by
  rw [keptGenerically, List.foldl_append]
  rfl

theorem keptGenerically_clean (front : List (SubscriptionAction Listener)) (sender : Sender)
    (listener : Listener) :
    keptGenerically (front ++ [.clean sender]) listener =
      if sender = .genericSender then false else keptGenerically front listener := by
  rw [keptGenerically, List.foldl_append]
  rfl

theorem mem_listenersOf_connect (signal : SoftSignal Listener) (sender key : Sender)
    (connected listener : Listener) :
    listener ∈ (signal.step (.connect sender connected)).listenersOf key ↔
      (senderKey sender = key ∧ connected = listener) ∨ listener ∈ signal.listenersOf key := by
  rw [step, listenersOf_connect]
  by_cases same : senderKey sender = key
  · rw [if_pos same, mem_addNew, and_iff_right same, or_comm, eq_comm]
  · rw [if_neg same, or_iff_right fun both => same both.1]

theorem mem_listenersOf_disconnect (signal : SoftSignal Listener) (sender key : Sender)
    (disconnected listener : Listener) :
    listener ∈ (signal.step (.disconnect sender disconnected)).listenersOf key ↔
      ¬(sender = key ∧ disconnected = listener) ∧ listener ∈ signal.listenersOf key := by
  rw [step, listenersOf_disconnect]
  by_cases same : sender = key
  · rw [if_pos same, List.mem_filter, decide_eq_true_eq, and_iff_right same, and_comm, ne_comm]
  · rw [if_neg same, and_iff_right fun both => same both.1]

theorem mem_listenersOf_clean (signal : SoftSignal Listener) (sender key : Sender)
    (listener : Listener) :
    listener ∈ (signal.step (.clean sender)).listenersOf key ↔
      sender ≠ key ∧ listener ∈ signal.listenersOf key := by
  rw [step, listenersOf_clean]
  by_cases same : key = sender
  · simp [same]
  · rw [if_neg same, and_iff_right (Ne.symm same)]

theorem mem_listenersOf_object (signal : SoftSignal Listener)
    (actions : List (SubscriptionAction Listener)) (id : Nat) (truth : Bool)
    (listener : Listener) :
    listener ∈ (signal.after actions).listenersOf (.object id truth) ↔
      registered actions (.object id truth) listener = true := by
  induction actions using List.reverseRecOn with
  | nil => exact iff_of_false List.not_mem_nil Bool.false_ne_true
  | append_singleton front action induction =>
      rw [after_concat]
      cases action with
      | connect sender connected =>
          rw [mem_listenersOf_connect, registered_connect, senderKey_eq_object, induction]
          split <;> simp_all
      | disconnect sender disconnected =>
          rw [mem_listenersOf_disconnect, registered_disconnect, induction]
          split <;> simp_all
      | clean sender =>
          rw [mem_listenersOf_clean, registered_clean, induction]
          split <;> simp_all

theorem mem_listenersOf_genericSender (signal : SoftSignal Listener)
    (actions : List (SubscriptionAction Listener)) (listener : Listener) :
    listener ∈ (signal.after actions).listenersOf .genericSender ↔
      keptGenerically actions listener = true := by
  induction actions using List.reverseRecOn with
  | nil => exact iff_of_false List.not_mem_nil Bool.false_ne_true
  | append_singleton front action induction =>
      rw [after_concat]
      cases action with
      | connect sender connected =>
          rw [mem_listenersOf_connect, keptGenerically_connect, senderKey_eq_genericSender,
            induction]
          split <;> simp_all
      | disconnect sender disconnected =>
          rw [mem_listenersOf_disconnect, keptGenerically_disconnect, induction]
          split <;> simp_all
      | clean sender =>
          rw [mem_listenersOf_clean, keptGenerically_clean, induction]
          split <;> simp_all

/-! ## Emission -/

theorem provideArgs_after (signal : SoftSignal Listener)
    (actions : List (SubscriptionAction Listener)) :
    (signal.after actions).provideArgs = signal.provideArgs := by
  induction actions using List.reverseRecOn with
  | nil => rfl
  | append_singleton front action induction =>
      rw [after_concat, ← induction]
      cases action with
      | connect sender listener => rfl
      | disconnect sender listener => exact provideArgs_disconnect _ sender listener
      | clean sender => rfl

theorem bindEmit_after {Value : Type} (signal : SoftSignal Listener)
    (actions : List (SubscriptionAction Listener)) (kwargs : List (String × Value)) :
    (signal.after actions).bindEmit kwargs = signal.bindEmit kwargs := by
  unfold bindEmit ownArgs
  rw [provideArgs_after]

omit [DecidableEq Listener] in
/-- With arguments that fit, every listener with the truth value true is called, whatever the
others do. -/
theorem emitAndRespond_eq {Value Error Answer : Type} {signal : SoftSignal Listener}
    {kwargs bound : List (String × Value)} (accepted : signal.bindEmit kwargs = .ok bound)
    (truthy : Listener → Bool)
    (behaviour : Invocation Listener Value → Except Error Answer) (sender : Sender) :
    signal.emitAndRespond truthy behaviour sender kwargs =
      .ok (((signal.reached sender).filter truthy).map fun listener =>
        (listener, behaviour ⟨listener, signal.name, sender, bound⟩)) := by
  have responses : (signal.reached sender).mapM
      (signal.executeAndRespond truthy behaviour sender kwargs) =
        .ok ((signal.reached sender).map fun listener =>
          if truthy listener then
            [(listener, behaviour ⟨listener, signal.name, sender, bound⟩)]
          else []) := by
    apply mapM_eq_ok
    intro listener _
    unfold executeAndRespond executeListeners
    by_cases alive : truthy listener = true
    · simp only [alive, if_true, accepted, bind, Except.bind, pure, Except.pure]
      cases behaviour ⟨listener, signal.name, sender, bound⟩ <;> rfl
    · simp only [alive, bind, Except.bind, pure, Except.pure]
      rfl
  rw [emitAndRespond, responses]
  change Except.ok _ = _
  apply congrArg Except.ok
  induction signal.reached sender with
  | nil => rfl
  | cons listener rest induction =>
      by_cases alive : truthy listener = true
      · simp [alive, induction]
      · simp [alive, induction]

theorem count_listenersOf_genericSender (signal : SoftSignal Listener)
    (actions : List (SubscriptionAction Listener)) (listener : Listener) :
    ((signal.after actions).listenersOf .genericSender).count listener =
      (keptGenerically actions listener).toNat := by
  rw [List.Nodup.count (nodup_listenersOf_after signal actions _)]
  simp only [mem_listenersOf_genericSender]
  cases keptGenerically actions listener <;> rfl

theorem count_listenersOf_object (signal : SoftSignal Listener)
    (actions : List (SubscriptionAction Listener)) (id : Nat) (truth : Bool)
    (listener : Listener) :
    ((signal.after actions).listenersOf (.object id truth)).count listener =
      (registered actions (.object id truth) listener).toNat := by
  rw [List.Nodup.count (nodup_listenersOf_after signal actions _)]
  simp only [mem_listenersOf_object]
  cases registered actions (.object id truth) listener <;> rfl

theorem count_reached (signal : SoftSignal Listener)
    (actions : List (SubscriptionAction Listener)) (sender : Sender) (listener : Listener) :
    ((signal.after actions).reached sender).count listener =
      match sender with
      | .none => (keptGenerically actions listener).toNat
      | .genericSender =>
          (keptGenerically actions listener).toNat + (keptGenerically actions listener).toNat
      | .object id truth =>
          (registered actions (.object id truth) listener).toNat +
            (keptGenerically actions listener).toNat := by
  rw [reached, List.count_append, count_listenersOf_genericSender]
  cases sender with
  | none => rw [listenersOf_none_after, List.count_nil, Nat.zero_add]
  | genericSender => rw [count_listenersOf_genericSender]
  | object id truth => rw [count_listenersOf_object]

omit [DecidableEq Listener] in
theorem toNat_eq_toNat {first second : Bool} : first.toNat = second.toNat ↔ first = second := by
  cases first <;> cases second <;> decide

omit [DecidableEq Listener] in
theorem toNat_add_toNat_eq {first second third : Bool} :
    first.toNat + first.toNat = second.toNat + third.toNat ↔ first = third ∧ second = third := by
  cases first <;> cases second <;> cases third <;> decide

theorem count_reached_eq_registrations (signal : SoftSignal Listener)
    (actions : List (SubscriptionAction Listener)) (sender : Sender) (listener : Listener) :
    ((signal.after actions).reached sender).count listener =
        registrations actions sender listener ↔
      keptGenerically actions listener = registered actions .none listener ∧
        (sender = .genericSender →
          registered actions .genericSender listener = registered actions .none listener) := by
  rw [count_reached, registrations]
  cases sender with
  | none => simp [toNat_eq_toNat]
  | genericSender => simp [toNat_add_toNat_eq]
  | object id truth => simp [toNat_eq_toNat]

theorem registrations_eq_zero (actions : List (SubscriptionAction Listener)) (sender : Sender)
    (listener : Listener) :
    registrations actions sender listener = 0 ↔
      registered actions sender listener = false ∧
        registered actions .none listener = false := by
  rw [registrations]
  cases sender with
  | none => simp
  | genericSender => simp
  | object id truth => simp

/-- An emission with arguments that the signal accepts follows the registrations exactly when what
is kept for any sender is what is registered so. -/
theorem followsRegistrations_iff {Value Error Answer : Type} {signal : SoftSignal Listener}
    {kwargs bound : List (String × Value)} (accepted : signal.bindEmit kwargs = .ok bound)
    (truthy : Listener → Bool)
    (behaviour : Invocation Listener Value → Except Error Answer)
    (actions : List (SubscriptionAction Listener)) (sender : Sender) :
    FollowsRegistrations signal truthy behaviour actions sender kwargs ↔
      KeptAsRegistered truthy actions sender := by
  have fits : (signal.after actions).bindEmit kwargs = .ok bound := by
    rw [bindEmit_after, accepted]
  have called : FollowsRegistrations signal truthy behaviour actions sender kwargs ↔
      ∀ listener, (((signal.after actions).reached sender).filter truthy).count listener =
        registrations actions sender listener := by
    unfold FollowsRegistrations
    rw [emitAndRespond_eq fits]
    simp only [Except.ok.injEq, exists_eq_left', List.map_map, Function.comp_def, List.map_id']
  rw [called]
  apply forall_congr'
  intro listener
  by_cases alive : truthy listener = true
  · rw [List.count_filter alive, if_pos alive]
    exact count_reached_eq_registrations signal actions sender listener
  · have skipped : (((signal.after actions).reached sender).filter truthy).count listener = 0 := by
      rw [List.count_eq_zero, List.mem_filter]
      exact fun both => alive both.2
    rw [skipped, if_neg alive, eq_comm]
    exact registrations_eq_zero actions sender listener

end SoftSignal

end Subscriptions

namespace SoftSignal

theorem nodup_pipelinePostInit : (["pipeline"] ++ ["pipeline_id", "process_id"]).Nodup := by
  decide

def pipelinePostInit : SoftSignal Nat where
  name := "pipeline_post_init"
  provideArgs := ["pipeline"]
  distinct := nodup_pipelinePostInit

theorem followsRegistrations_object :
    FollowsRegistrations pipelinePostInit (fun _ => true)
      (fun call => if call.listener = 7 then Except.error "failed" else .ok ())
      [.connect (.object 1 true) 7, .connect .none 8] (.object 1 true) [("pipeline", ())] := by
  apply (followsRegistrations_iff rfl _ _ _ _).mpr
  intro listener
  constructor
  · simp [keptGenerically, registered]
  · exact fun generic => nomatch generic

/-- `disconnect(None, listener)` leaves the listener connected. -/
theorem not_followsRegistrations_none :
    pipelinePostInit.bindEmit [("pipeline", ())] = .ok [("pipeline", ())] ∧
      ¬FollowsRegistrations pipelinePostInit (fun _ => true)
        (fun _ => (.ok () : Except String Unit))
        [.connect .none 7, .disconnect .none 7] (.object 1 true) [("pipeline", ())] := by
  constructor
  · rfl
  · rintro ⟨responses, emitted, each⟩
    obtain rfl : [(7, .ok ())] = responses := Except.ok.inj emitted
    exact absurd (each 7) (by decide)

end SoftSignal

end EventPipeline
