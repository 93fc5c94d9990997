import EventPipeline.Executors.GrpcExecutor

/-! # How the future of a remote call is resolved

Whatever fails on the client or on the server, the client resolves the future of a call once,
behind the status updates, unless somebody has cancelled it. A cancelled future stays cancelled.
-/

namespace EventPipeline

namespace ClientFuture

variable {Object Data Error : Type} (runtime : RemoteRuntime Object Data Error)

/-- The future has not been resolved: it is pending, or somebody has cancelled it. -/
def Unresolved (future : ClientFuture Object Error) : Prop :=
  future.future.Waiting

theorem Unresolved.interfere {future : ClientFuture Object Error}
    (unresolved : future.Unresolved) : future.interfere.Unresolved := by
  unfold ClientFuture.interfere Unresolved
  simp only
  split
  · exact unresolved.cancel
  · exact unresolved

/-- Nothing was raised, and the outcome was the last thing to be seen behind the log. Or the
future is cancelled. -/
def Ends (log : List (FutureEvent Object Error)) (outcome : Except Error Object)
    (result : Option Error × ClientFuture Object Error) : Prop :=
  result.2.future = .cancelled ∨
    result.1 = none ∧ result.2.future = .finished outcome ∧
      result.2.log = log ++ [.resolved outcome]

theorem Unresolved.resolve {future : ClientFuture Object Error}
    (unresolved : future.Unresolved) (outcome : Except Error Object) :
    Ends future.log outcome (future.resolve runtime outcome) := by
  unfold ClientFuture.resolve
  rcases unresolved.interfere with pending | cancelled
  · right
    rw [pending]
    exact ⟨rfl, rfl, rfl⟩
  · left
    rw [cancelled]
    exact cancelled

theorem Unresolved.handle {future : ClientFuture Object Error}
    (unresolved : future.Unresolved) (error : Error) :
    Ends future.log (.error error) (ClientFuture.handle runtime (some error, future)) :=
  unresolved.resolve runtime (.error error)

theorem Ends.handle {log : List (FutureEvent Object Error)} {outcome : Except Error Object}
    {result : Option Error × ClientFuture Object Error} (ends : Ends log outcome result) :
    Ends log outcome (ClientFuture.handle runtime result) := by
  rcases result with ⟨_ | error, future⟩
  · exact ends
  · left
    rcases ends with cancelled | ⟨impossible, -⟩
    · have still : future.interfere.future = .cancelled := by
        simp only [ClientFuture.interfere]
        split
        · simp [show future.future = .cancelled from cancelled, Future.cancel]
        · exact cancelled
      simp only [ClientFuture.handle, ClientFuture.resolve, still]
      exact still
    · cases impossible

/-- The future after the callbacks have been called with all updates. -/
def updated (future : ClientFuture Object Error) (updates : List (TaskStatus Data)) :
    ClientFuture Object Error :=
  updates.foldl (fun future response => future.statusUpdate response.status response.message)
    future

/-- What the callbacks see of a status message. -/
def seen (response : TaskStatus Data) : FutureEvent Object Error :=
  .update response.status response.message

theorem log_updated (future : ClientFuture Object Error) (updates : List (TaskStatus Data)) :
    (future.updated updates).log = future.log ++ updates.map seen := by
  induction updates generalizing future with
  | nil => simp [updated]
  | cons response rest induction =>
      have later := induction (future.statusUpdate response.status response.message)
      rw [updated, List.foldl_cons, ← updated, later, List.map_cons]
      simp [statusUpdate, seen]

theorem Unresolved.updated {future : ClientFuture Object Error}
    (unresolved : future.Unresolved) (updates : List (TaskStatus Data)) :
    (future.updated updates).Unresolved := by
  induction updates generalizing future with
  | nil => exact unresolved
  | cons response rest induction => exact induction unresolved.interfere

/-- Nobody has cancelled the future, and nobody will. -/
def Undisturbed (future : ClientFuture Object Error) : Prop :=
  future.future ≠ .cancelled ∧ ∀ operation, future.cancels operation = false

theorem Undisturbed.interfere {future : ClientFuture Object Error}
    (undisturbed : future.Undisturbed) : future.interfere.Undisturbed := by
  refine ⟨?_, fun operation => undisturbed.2 (operation + 1)⟩
  simp only [ClientFuture.interfere, undisturbed.2 0, Bool.false_eq_true, if_false]
  exact undisturbed.1

theorem Undisturbed.resolve {future : ClientFuture Object Error}
    (undisturbed : future.Undisturbed) (outcome : Except Error Object) :
    (future.resolve runtime outcome).2.Undisturbed := by
  unfold ClientFuture.resolve
  cases resolved : future.interfere.future.resolve outcome with
  | none => exact undisturbed.interfere
  | some next =>
      refine ⟨?_, undisturbed.interfere.2⟩
      unfold Future.resolve at resolved
      split at resolved
      · cases resolved
      · cases resolved
        simp

theorem Undisturbed.handle {result : Option Error × ClientFuture Object Error}
    (undisturbed : result.2.Undisturbed) :
    (ClientFuture.handle runtime result).2.Undisturbed := by
  rcases result with ⟨_ | error, future⟩
  · exact undisturbed
  · exact undisturbed.resolve runtime _

end ClientFuture

namespace GrpcExecutor

open TaskExecutorServicer

variable {Object Data Error : Type} (runtime : RemoteRuntime Object Data Error)

/-- The status messages that are passed on to the callbacks. -/
def IsUpdate (response : TaskStatus Data) : Prop :=
  response.status = .pending ∨ response.status = .running

/-- What the client makes of an exception on the server. -/
def remoteError (error : Error) : Error :=
  match runtime.serializeObject (runtime.object error) with
  | .ok _ => runtime.exception (runtime.str error)
  | .error later => runtime.rpcError later

/-- What the client makes of what the server does with a request. -/
def answer (request : TaskRequest Data) : Except Error Object :=
  match deserializeCall runtime request >>= run runtime with
  | .ok data => runtime.deserialize data
  | .error error => .error (remoteError runtime error)

/-- What the future of a call is resolved with. -/
def outcome (taskId : String) (fn args kwargs : Object) : Except Error Object :=
  serializeCall runtime taskId fn args kwargs >>= answer runtime

/-- The last message of the stream, if the server does not raise. -/
def closing (request : TaskRequest Data) : Generated (TaskStatus Data) Error :=
  match deserializeCall runtime request >>= run runtime with
  | .ok data => ⟨[⟨.completed, data, "Task completed"⟩], none⟩
  | .error error => fail runtime [] error

/-- A service that answers as the servicer does, with any number of status updates before the
last message of a stream. -/
structure Serves (stub : TaskExecutor Data Error) : Prop where
  execute : ∀ request, stub.execute request = TaskExecutorServicer.execute runtime request
  executeStream : ∀ request, ∃ updates, (∀ response ∈ updates, IsUpdate response) ∧
    stub.executeStream request =
      ⟨updates ++ (closing runtime request).items, (closing runtime request).raised⟩

theorem fail_append (yielded : List (TaskStatus Data)) (error : Error) :
    fail runtime yielded error =
      ⟨yielded ++ (fail runtime [] error).items, (fail runtime [] error).raised⟩ := by
  unfold fail
  cases runtime.serializeObject (runtime.object error) with
  | ok data => rfl
  | error later => simp

theorem serves_taskExecutorServicer : Serves runtime (taskExecutorServicer runtime) where
  execute := fun _ => rfl
  executeStream := by
    intro request
    simp only [taskExecutorServicer, TaskExecutorServicer.executeStream]
    cases read : deserializeCall runtime request with
    | error error =>
        refine ⟨[⟨.pending, runtime.noData, "Task received"⟩], by simp [IsUpdate], ?_⟩
        simp only [closing, read, bind, Except.bind]
        exact fail_append runtime _ error
    | ok call =>
        refine ⟨[⟨.pending, runtime.noData, "Task received"⟩,
          ⟨.running, runtime.noData, "Task started"⟩], by simp [IsUpdate], ?_⟩
        simp only [closing, read, bind, Except.bind]
        cases run runtime call with
        | error error => exact fail_append runtime _ error
        | ok data => rfl

theorem receive_updates (raised : Option Error) {updates : List (TaskStatus Data)}
    (passed : ∀ response ∈ updates, IsUpdate response) (rest : List (TaskStatus Data))
    (future : ClientFuture Object Error) :
    receive runtime raised (updates ++ rest) future =
      receive runtime raised rest (future.updated updates) := by
  induction updates generalizing future with
  | nil => rfl
  | cons response updates induction =>
      have later := induction (fun other member => passed other (List.mem_cons_of_mem _ member))
        (future.statusUpdate response.status response.message)
      rcases passed response List.mem_cons_self with pending | running
      · rw [List.cons_append, receive, pending]
        rw [pending] at later
        rw [later, ClientFuture.updated, ClientFuture.updated, List.foldl_cons, pending]
      · rw [List.cons_append, receive, running]
        rw [running] at later
        rw [later, ClientFuture.updated, ClientFuture.updated, List.foldl_cons, running]

section Client

variable {future : ClientFuture Object Error} (unresolved : future.Unresolved)
include unresolved

theorem receive_closing (request : TaskRequest Data) :
    (ClientFuture.Ends future.log (answer runtime request)
      (ClientFuture.handle runtime
        (receive runtime (closing runtime request).raised (closing runtime request).items
          future))) := by
  unfold closing answer
  cases deserializeCall runtime request >>= run runtime with
  | ok data =>
      simp only [receive]
      cases runtime.deserialize data with
      | ok result => exact (unresolved.resolve runtime (.ok result)).handle runtime
      | error error => exact unresolved.handle runtime error
  | error error =>
      cases serialized : runtime.serializeObject (runtime.object error) with
      | ok data =>
          simp only [remoteError, fail, serialized, List.nil_append, receive]
          exact (unresolved.resolve runtime _).handle runtime
      | error later =>
          simp only [remoteError, fail, serialized, receive, Option.map_some]
          exact unresolved.handle runtime _

theorem receiveResponse_execute (request : TaskRequest Data) :
    ClientFuture.Ends future.log (answer runtime request)
      (ClientFuture.handle runtime
        (receiveResponse runtime future (execute runtime request))) := by
  unfold execute answer
  cases deserializeCall runtime request >>= run runtime with
  | ok data =>
      simp only [receiveResponse, if_true]
      cases runtime.deserialize data with
      | ok result => exact (unresolved.resolve runtime (.ok result)).handle runtime
      | error error => exact unresolved.handle runtime error
  | error error =>
      cases serialized : runtime.serializeObject (runtime.object error) with
      | ok data =>
          simp only [remoteError, serialized, bind, Except.bind, pure, Except.pure,
            receiveResponse]
          exact (unresolved.resolve runtime _).handle runtime
      | error later =>
          simp only [remoteError, serialized, bind, Except.bind, receiveResponse]
          exact unresolved.handle runtime _

theorem submitTask_ends {stub : TaskExecutor Data Error} (serves : Serves runtime stub)
    (streaming : Bool) (taskId : String) (fn args kwargs : Object) :
    ∃ updates : List (TaskStatus Data), (∀ response ∈ updates, IsUpdate response) ∧
      ClientFuture.Ends (future.log ++ updates.map ClientFuture.seen)
        (outcome runtime taskId fn args kwargs)
        (submitTask runtime stub streaming taskId fn args kwargs future) := by
  unfold submitTask outcome
  cases serializeCall runtime taskId fn args kwargs with
  | error error =>
      refine ⟨[], by simp, ?_⟩
      rw [List.map_nil, List.append_nil]
      exact unresolved.handle runtime error
  | ok request =>
      cases streaming with
      | false =>
          refine ⟨[], by simp, ?_⟩
          have received := receiveResponse_execute runtime unresolved request
          rw [List.map_nil, List.append_nil]
          simp only [Bool.false_eq_true, if_false, serves.execute]
          exact received.handle runtime
      | true =>
          rcases serves.executeStream request with ⟨updates, passed, stream⟩
          refine ⟨updates, passed, ?_⟩
          have received := receive_closing runtime (unresolved.updated updates) request
          rw [ClientFuture.log_updated] at received
          simp only [if_true, stream, receive_updates runtime _ passed]
          exact received.handle runtime

end Client

section Undisturbed

variable {future : ClientFuture Object Error} (undisturbed : future.Undisturbed)
include undisturbed

theorem receive_undisturbed (raised : Option Error) (responses : List (TaskStatus Data)) :
    (receive runtime raised responses future).2.Undisturbed := by
  induction responses generalizing future with
  | nil => exact undisturbed
  | cons response rest induction =>
      unfold receive
      split
      · split
        · exact undisturbed
        · exact undisturbed.resolve runtime _
      · exact undisturbed.resolve runtime _
      · exact induction undisturbed.interfere
      · exact induction undisturbed.interfere

theorem receiveResponse_undisturbed (response : Except Error (TaskResponse Data)) :
    (receiveResponse runtime future response).2.Undisturbed := by
  unfold receiveResponse
  split
  · exact undisturbed
  · split
    · split
      · exact undisturbed
      · exact undisturbed.resolve runtime _
    · exact undisturbed.resolve runtime _

theorem submitTask_undisturbed (stub : TaskExecutor Data Error) (streaming : Bool)
    (taskId : String) (fn args kwargs : Object) :
    (submitTask runtime stub streaming taskId fn args kwargs future).2.Undisturbed := by
  unfold submitTask
  apply ClientFuture.Undisturbed.handle
  split
  · exact undisturbed
  · apply ClientFuture.Undisturbed.handle
    split
    · exact receive_undisturbed runtime undisturbed _ _
    · exact receiveResponse_undisturbed runtime undisturbed _

end Undisturbed

theorem submitTask_future {stub : TaskExecutor Data Error} (serves : Serves runtime stub)
    (streaming : Bool) (taskId : String) (fn args kwargs : Object) :
    (submitTask runtime stub streaming taskId fn args kwargs
      { cancels := fun _ => false }).2.future =
      .finished (outcome runtime taskId fn args kwargs) := by
  have fresh : ClientFuture.Undisturbed
      ({ cancels := fun _ => false } : ClientFuture Object Error) := ⟨by simp, fun _ => rfl⟩
  have unresolved : ClientFuture.Unresolved
      ({ cancels := fun _ => false } : ClientFuture Object Error) := .inl rfl
  have kept := (submitTask_undisturbed runtime fresh stub streaming taskId fn args kwargs).1
  rcases submitTask_ends runtime unresolved serves streaming taskId fn args kwargs with
    ⟨updates, passed, cancelled | ⟨quiet, finished, log⟩⟩
  · exact absurd cancelled kept
  · exact finished

/-- The call reaches the server, the function returns, and its result is serialized there and
deserialized here. -/
def Delivers (taskId : String) (fn args kwargs result : Object) : Prop :=
  ∃ request call returned data, serializeCall runtime taskId fn args kwargs = .ok request ∧
    deserializeCall runtime request = .ok call ∧
    runtime.call call.1 call.2.1 call.2.2 = .ok returned ∧
    runtime.serializeObject returned = .ok data ∧ runtime.deserialize data = .ok result

theorem answer_eq_ok_iff (request : TaskRequest Data) (result : Object) :
    answer runtime request = .ok result ↔
      ∃ call returned data, deserializeCall runtime request = .ok call ∧
        runtime.call call.1 call.2.1 call.2.2 = .ok returned ∧
        runtime.serializeObject returned = .ok data ∧ runtime.deserialize data = .ok result := by
  unfold answer
  cases read : deserializeCall runtime request with
  | error error => simp [bind, Except.bind]
  | ok call =>
      simp only [bind, Except.bind, run, Except.ok.injEq]
      cases called : runtime.call call.1 call.2.1 call.2.2 with
      | error error => simp [called]
      | ok returned =>
          cases serialized : runtime.serializeObject returned with
          | error error => simp [called, serialized]
          | ok data => simp [called, serialized]

theorem outcome_eq_ok_iff (taskId : String) (fn args kwargs result : Object) :
    outcome runtime taskId fn args kwargs = .ok result ↔
      Delivers runtime taskId fn args kwargs result := by
  unfold outcome Delivers
  cases serializeCall runtime taskId fn args kwargs with
  | error error => simp [bind, Except.bind]
  | ok request =>
      simp only [bind, Except.bind, answer_eq_ok_iff, Except.ok.injEq]
      simp

/-- When nobody has cancelled the future, `_submit_task` returns and has resolved it exactly
once, behind the status updates: with the result of the function if that was delivered, and
with an exception otherwise. -/
theorem resolved_once (stub : TaskExecutor Data Error) (serves : Serves runtime stub)
    (streaming : Bool) (taskId : String) (fn args kwargs : Object) (cancels : Nat → Bool) :
    let ended := submitTask runtime stub streaming taskId fn args kwargs { cancels }
    ended.2.future ≠ .cancelled →
      ended.1 = none ∧ ∃ updates : List (TaskStatus Data), ∃ outcome : Except Error Object,
        ended.2.future = .finished outcome ∧
        ended.2.log = updates.map ClientFuture.seen ++ [.resolved outcome] ∧
        (∀ response ∈ updates, response.status ≠ .completed ∧ response.status ≠ .failed) ∧
        ∀ result, outcome = .ok result ↔ Delivers runtime taskId fn args kwargs result := by
  intro ended kept
  have unresolved : ClientFuture.Unresolved ({ cancels } : ClientFuture Object Error) := .inl rfl
  rcases submitTask_ends runtime unresolved serves streaming taskId fn args kwargs with
    ⟨updates, passed, cancelled | ⟨quiet, finished, log⟩⟩
  · exact absurd cancelled kept
  · refine ⟨quiet, updates, _, finished, log, ?_, ?_⟩
    · intro response member
      rcases passed response member with pending | running
      · simp [pending]
      · simp [running]
    · exact fun result => outcome_eq_ok_iff runtime taskId fn args kwargs result

/-- Numbers as objects: the function `0` raises, and every other one adds its arguments. -/
def adding : RemoteRuntime Nat Nat String where
  serializeObject := .ok
  deserialize := .ok
  call := fun fn args kwargs => if fn = 0 then .error "zero" else .ok (args + kwargs)
  getEventName := fun _ => "adding"
  object := String.length
  str := id
  exception := id
  rpcError := id
  invalidStateError := "InvalidStateError"
  noData := 0

/-- A long-running addition, and nobody cancels it. -/
theorem resolved_once_adding :
    let ended := submitTask adding (taskExecutorServicer adding) true "1" 1 5 3
      { cancels := fun _ => false }
    ended.1 = none ∧ ∃ updates : List (TaskStatus Nat), ∃ outcome : Except String Nat,
      ended.2.future = .finished outcome ∧
      ended.2.log = updates.map ClientFuture.seen ++ [.resolved outcome] ∧
      (∀ response ∈ updates, response.status ≠ .completed ∧ response.status ≠ .failed) ∧
      ∀ result, outcome = .ok result ↔ Delivers adding "1" 1 5 3 result :=
  resolved_once adding (taskExecutorServicer adding) (serves_taskExecutorServicer adding) true
    "1" 1 5 3 (fun _ => false) nofun

end GrpcExecutor

end EventPipeline
