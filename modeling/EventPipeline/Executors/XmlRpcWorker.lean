import EventPipeline.Executors.XmlRpc

/-! # What a worker of the XML-RPC executor does

A worker sends its task once and resolves the future with what the manager has answered, unless
the exception to report cannot be shown in the log.
-/

namespace EventPipeline

open Routine

variable {Object : Type}

namespace XMLRPCExecutor

/-! ## The outcome of a task -/

/-- What the manager has answered. -/
def replyOf (log : List (XmlRpcInteraction Object)) : Option (Except XmlRpcError Bytes) :=
  log.findSome? fun
    | ⟨.execute _, reply⟩ => some reply
    | ⟨.resolve _, _⟩ => none

def tried (log : List (XmlRpcInteraction Object)) : Bool :=
  log.any fun
    | ⟨.execute _, _⟩ => false
    | ⟨.resolve _, _⟩ => true

def lastReport (thrown : Thrown) : Option Thrown :=
  if thrown.isException then
    match thrown.str with
    | .ok _ => some thrown
    | .error _ => none
  else none

/-- What the two handlers report: the exception, or else what its `str()` has raised. -/
def reported (thrown : Thrown) : Option Thrown :=
  if thrown.isException then
    match thrown.str with
    | .ok _ => some thrown
    | .error raised => lastReport raised
  else none

/-- What comes of an exception of the proxy. -/
def errorOutcome : XmlRpcError → Option (Except Thrown Object)
  | .fault text => some (.error (plainException ("RPC error: " ++ text)))
  | .protocolError text => some (.error (plainException ("Protocol error: " ++ text)))
  | .raised thrown => (reported thrown).map .error

variable (runtime : SocketRuntime Object)

/-- What comes of the bytes that the manager has sent back. -/
def responseOutcome (response : Bytes) : Option (Except Thrown Object) :=
  match runtime.deserialize response with
  | .ok (result, _) => some (outcomeOf runtime result)
  | .error thrown => errorOutcome (.raised thrown)

/-- What the future of the task is resolved with, by the answer of the manager. -/
def delivery (taskMessage : Object) (reply : Option (Except XmlRpcError Bytes)) :
    Option (Except Thrown Object) :=
  match runtime.serializeObject taskMessage with
  | .error thrown => errorOutcome (.raised thrown)
  | .ok _ =>
      match reply with
      | none => none
      | some (.error error) => errorOutcome error
      | some (.ok response) => responseOutcome runtime response

/-! ## What a worker does -/

/-- A worker sends the task once, and resolves the future with what has come of it. What it does
when the future was already done leads to nothing. -/
def workerContract (taskMessage : Object) : Contract (@XmlRpcReply Object) where
  allows log
    | .execute data => log = [] ∧ runtime.serializeObject taskMessage = .ok data
    | .resolve outcome =>
        tried log = true ∨ delivery runtime taskMessage (replyOf log) = some outcome
  relies _ _ := True

/-- The task was sent, if it could be serialized. -/
def Asked (taskMessage : Object) (log : List (XmlRpcInteraction Object)) : Prop :=
  ∀ data, runtime.serializeObject taskMessage = .ok data → (replyOf log).isSome = true

/-- The worker has resolved the future, or there is nothing to resolve it with. -/
def Through (taskMessage : Object) (log : List (XmlRpcInteraction Object)) : Prop :=
  tried log = true ∨ delivery runtime taskMessage (replyOf log) = none

section Logs

variable {log : List (XmlRpcInteraction Object)}

theorem tried_resolve (outcome : Except Thrown Object) (answer : Bool) :
    tried (log ++ [⟨.resolve outcome, answer⟩]) = true := by
  simp [tried]

theorem replyOf_resolve (outcome : Except Thrown Object) (answer : Bool) :
    replyOf (log ++ [⟨.resolve outcome, answer⟩]) = replyOf log := by
  simp [replyOf, List.findSome?_append]

theorem Asked.append {runtime : SocketRuntime Object} {taskMessage : Object}
    (log : List (XmlRpcInteraction Object)) (exchange : XmlRpcInteraction Object)
    (asked : Asked runtime taskMessage log) :
    Asked runtime taskMessage (log ++ [exchange]) := by
  intro data serialized
  rw [replyOf, List.findSome?_append, Option.isSome_or]
  exact Bool.or_eq_true_iff.mpr (.inl (asked data serialized))

end Logs

section Worker

variable {runtime} {taskMessage : Object} {log : List (XmlRpcInteraction Object)}
  {ends : List (XmlRpcInteraction Object) → Except XmlRpcError Unit → Prop}

theorem keeps_attempted {First : Type} {answer : Except Thrown First}
    {rest : First → XmlRpcAttempt Object Unit}
    (returned : ∀ value, answer = .ok value →
      (rest value).run.Keeps (workerContract runtime taskMessage) ends log)
    (raised : ∀ thrown, answer = .error thrown → ends log (.error (.raised thrown))) :
    (attempted answer >>= rest).run.Keeps (workerContract runtime taskMessage) ends log := by
  cases answer with
  | ok value => exact returned value rfl
  | error thrown => exact raised thrown rfl

theorem keeps_resolve {outcome : Except Thrown Object}
    (allowed : tried log = true ∨ delivery runtime taskMessage (replyOf log) = some outcome)
    (settled : ∀ answer, ends (log ++ [⟨.resolve outcome, true⟩]) (.ok ()) ∧
      ends (log ++ [⟨.resolve outcome, answer⟩]) (.error (.raised invalidStateError))) :
    (resolve outcome).run.Keeps (workerContract runtime taskMessage) ends log := by
  rw [resolve]
  apply Fallible.keeps_ask_bind allowed
  intro answer _
  cases answer with
  | true => exact (settled true).1
  | false => exact (settled false).2

/-- A handler that ends without having resolved the future passes an exception on. -/
theorem keeps_report {thrown : Thrown}
    (start : ∀ text, thrown.isException = true → thrown.str = .ok text →
      tried log = true ∨ delivery runtime taskMessage (replyOf log) = some (.error thrown))
    (settled : ∀ log result, tried log = true → ends log result)
    (unshown : ∀ raised, thrown.isException = true → thrown.str = .error raised →
      ends log (.error (.raised raised)))
    (uncaught : thrown.isException = false → ends log (.error (.raised thrown))) :
    (report thrown : XmlRpcAttempt Object Unit).run.Keeps
      (workerContract runtime taskMessage) ends log := by
  rw [report]
  cases caught : thrown.isException with
  | false => exact uncaught caught
  | true =>
      apply keeps_attempted
      · intro text shown
        apply keeps_resolve (start text caught shown)
        intro answer
        exact ⟨settled _ _ (tried_resolve _ _), settled _ _ (tried_resolve _ _)⟩
      · intro raised shown
        exact unshown raised caught shown

/-- What the first handlers leave to the last one. -/
def Passed (runtime : SocketRuntime Object) (taskMessage : Object)
    (log : List (XmlRpcInteraction Object)) : Except XmlRpcError Unit → Prop
  | .ok _ => tried log = true
  | .error error => tried log = true ∨
      delivery runtime taskMessage (replyOf log) = (lastReport error.thrown).map .error

/-- What the request leaves to the handlers. -/
def Requested (runtime : SocketRuntime Object) (taskMessage : Object)
    (log : List (XmlRpcInteraction Object)) : Except XmlRpcError Unit → Prop
  | .ok _ => tried log = true
  | .error error => tried log = true ∨
      delivery runtime taskMessage (replyOf log) = errorOutcome error

theorem Passed.of_tried {result : Except XmlRpcError Unit} (tried : tried log = true) :
    Passed runtime taskMessage log result := by
  cases result with
  | ok _ => exact tried
  | error error => exact .inl tried

theorem keeps_reply {data : Bytes} (serialized : runtime.serializeObject taskMessage = .ok data)
    (reply : Except XmlRpcError Bytes) :
    (do
      let response ← answered reply
      let (result, _) ← attempted (runtime.deserialize response)
      resolve (outcomeOf runtime result) : XmlRpcAttempt Object Unit).run.Keeps
      (workerContract runtime taskMessage) (Requested runtime taskMessage)
      [⟨.execute data, reply⟩] := by
  cases reply with
  | error error =>
      apply Or.inr
      rw [delivery.eq_def, serialized]
      rfl
  | ok response =>
      have delivered : delivery runtime taskMessage (some (.ok response)) =
          responseOutcome runtime response := by
        rw [delivery.eq_def, serialized]
      rw [responseOutcome.eq_def] at delivered
      apply keeps_attempted
      · intro ⟨result, isTask⟩ deserialized
        rw [deserialized] at delivered
        apply keeps_resolve (.inr delivered)
        intro answer
        exact ⟨tried_resolve _ _, .inl (tried_resolve _ _)⟩
      · intro thrown deserialized
        rw [deserialized] at delivered
        exact .inr delivered

theorem keeps_request :
    (request runtime taskMessage).run.Keeps (workerContract runtime taskMessage)
      (fun log result => Requested runtime taskMessage log result ∧
        Asked runtime taskMessage log) [] := by
  rw [request]
  apply keeps_attempted
  · intro data serialized
    have allowed : (workerContract runtime taskMessage).allows [] (.execute data) :=
      ⟨rfl, serialized⟩
    apply Fallible.keeps_ask_bind allowed
    intro reply _
    exact (keeps_reply serialized reply).stays (fun _ _ => rfl) Asked.append
  · intro thrown serialized
    have refused : delivery runtime taskMessage none = errorOutcome (.raised thrown) := by
      rw [delivery.eq_def, serialized]
    refine ⟨.inr refused, fun data delivered => ?_⟩
    rw [serialized] at delivered
    cases delivered

theorem keeps_handle {error : XmlRpcError}
    (requested : Requested runtime taskMessage log (.error error)) :
    (handle error).run.Keeps (workerContract runtime taskMessage)
      (Passed runtime taskMessage) log := by
  have resolved : ∀ outcome : Except Thrown Object, errorOutcome error = some outcome →
      (resolve outcome).run.Keeps (workerContract runtime taskMessage)
        (Passed runtime taskMessage) log := by
    intro outcome comes
    apply keeps_resolve (requested.imp id fun delivered => delivered.trans comes)
    intro answer
    exact ⟨tried_resolve _ _, .inl (tried_resolve _ _)⟩
  cases error with
  | fault text => exact resolved _ rfl
  | protocolError text => exact resolved _ rfl
  | raised thrown =>
      have comes : tried log = true ∨ delivery runtime taskMessage (replyOf log) =
        (reported thrown).map .error := requested
      rw [reported] at comes
      apply keeps_report
      · intro text caught shown
        simpa [caught, shown] using comes
      · exact fun _ _ tried => .of_tried tried
      · intro raised caught shown
        simpa [caught, shown, Passed, XmlRpcError.thrown] using comes
      · intro uncaught
        simpa [uncaught, Passed, XmlRpcError.thrown, lastReport] using comes

theorem keeps_submitTask :
    (submitTask runtime taskMessage).run.Keeps (workerContract runtime taskMessage)
      (fun log _ => Through runtime taskMessage log ∧ Asked runtime taskMessage log) [] := by
  have first : (tryCatch (request runtime taskMessage) handle).run.Keeps
      (workerContract runtime taskMessage)
      (fun log result => Passed runtime taskMessage log result ∧
        Asked runtime taskMessage log) [] := by
    apply Fallible.keeps_tryCatch keeps_request
    · exact fun _ _ requested => requested
    · exact fun _ _ requested => (keeps_handle requested.1).stays requested.2 Asked.append
  apply Fallible.keeps_tryCatch first
  · exact fun _ _ passed => ⟨.inl passed.1, passed.2⟩
  · intro log error ⟨passed, asked⟩
    have comes : tried log = true ∨ delivery runtime taskMessage (replyOf log) =
      (lastReport error.thrown).map .error := passed
    rw [lastReport] at comes
    have reports : (report error.thrown).run.Keeps (workerContract runtime taskMessage)
        (fun log _ => Through runtime taskMessage log) log := by
      apply keeps_report
      · intro text caught shown
        simpa [caught, shown] using comes
      · exact fun _ _ tried => .inl tried
      · intro raised caught shown
        simpa [caught, shown, Through] using comes
      · intro uncaught
        simpa [uncaught, Through] using comes
    exact reports.stays asked Asked.append

theorem within_attempted {First : Type} (answer : Except Thrown First) (bound : Nat) :
    (attempted answer : XmlRpcAttempt Object First).run.Within bound := by
  cases answer with
  | ok value => exact trivial
  | error thrown => exact trivial

theorem within_resolve (outcome : Except Thrown Object) : (resolve outcome).run.Within 1 := by
  rw [resolve]
  refine ⟨Nat.one_pos, fun answer => ?_⟩
  cases answer with
  | true => exact trivial
  | false => exact trivial

theorem within_report (thrown : Thrown) :
    (report thrown : XmlRpcAttempt Object Unit).run.Within 1 := by
  rw [report]
  cases thrown.isException with
  | false => exact trivial
  | true => exact Fallible.within_bind (within_attempted thrown.str 0) fun _ => within_resolve _

theorem within_submitTask : (submitTask runtime taskMessage).run.Within 4 := by
  have requested : (request runtime taskMessage).run.Within 2 := by
    rw [request]
    refine (Fallible.within_bind (within_attempted (runtime.serializeObject taskMessage) 0) ?_ :
      Within _ (0 + 2))
    intro data
    refine ⟨Nat.two_pos, fun reply => ?_⟩
    cases reply with
    | error error => exact trivial
    | ok response =>
        exact Fallible.within_bind (within_attempted (runtime.deserialize response) 0)
          fun _ => within_resolve _
  have handled (error : XmlRpcError) : (handle error : XmlRpcAttempt Object Unit).run.Within 1 := by
    cases error with
    | fault text => exact within_resolve _
    | protocolError text => exact within_resolve _
    | raised thrown => exact within_report thrown
  exact Fallible.within_tryCatch (Fallible.within_tryCatch requested handled)
    fun error => within_report error.thrown

end Worker

end XMLRPCExecutor

end EventPipeline
