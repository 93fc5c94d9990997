import EventPipeline.Network.SendTask

/-! # Calls through the remote executor

Executor and manager at the two ends of a connection. The connection delivers what is sent, cut
into pieces. Three classes of exceptions do not arrive as they were raised: the executor takes
them for failures to decode the reply. Where the manager sends nothing, the executor fails to
decode nothing.
-/

namespace EventPipeline

/-- How the transport cuts what is sent in the two directions. -/
structure Link where
  toManager : Nat → Nat
  toExecutor : Nat → Nat

/-- The first eight bytes arrive together. -/
def Link.Whole (link : Link) : Prop :=
  8 ≤ link.toManager 0 + 1 ∧ 8 ≤ link.toExecutor 0 + 1

namespace RemoteAddress

variable {Object : Type} (runtime : SocketRuntime Object) (address : RemoteAddress)
  (managerChunkSize : Int) (link : Link)

/-- What the manager has sent when the executor has sent the data. -/
def reply (data : Bytes) : Bytes :=
  match sendDataOverSocket [] data (some address.chunkSize) with
  | none => []
  | some (outgoing, _) =>
      (RemoteTaskManager.handleClient runtime managerChunkSize
        ⟨outgoing, link.toManager⟩).outgoing

def managed (taskMessage : Object) : Exchange :=
  match runtime.serializeObject taskMessage with
  | .error _ => { incoming := ⟨[], link.toExecutor⟩ }
  | .ok data => { incoming := ⟨reply runtime address managerChunkSize link data, link.toExecutor⟩ }

/-- `_send_task`, with the manager at the other end. -/
def remoteCall (telemetry : NetworkTelemetry) (taskId : String) (taskMessage : Object) :
    Except Thrown Object :=
  (sendTask runtime address (managed runtime address managerChunkSize link taskMessage) telemetry
    taskId taskMessage).1

end RemoteAddress

/-! ## What a call comes to -/

namespace Thrown

/-- The exception behind a handler that shows it in a log. -/
def logged (thrown : Thrown) : Thrown :=
  if thrown.isException then
    match thrown.str with
    | .ok _ => thrown
    | .error raised => raised
  else thrown

/-- The exception that a reply holds, behind the handlers around its decoding. -/
def relabelled (thrown : Thrown) : Thrown :=
  match thrown.exceptionClass with
  | .zlibError | .unpicklingError =>
      match thrown.str with
      | .ok text => .valueError ("Failed to decompress message: " ++ text)
      | .error raised => raised
  | .moduleNotFoundError =>
      match thrown.str with
      | .ok text => .importError ("Failed to load task result: " ++ text)
      | .error raised => raised
  | .exception _ | .baseException _ => thrown

end Thrown

namespace SocketRuntime

variable {Object : Type} (runtime : SocketRuntime Object)

/-- What is received in the place of an answer that was not sent. -/
def unanswered : Thrown :=
  match runtime.deserialize [] with
  | .ok _ => .valueError ""
  | .error thrown => thrown.relabelled.logged

/-- What the executor makes of an answer. -/
def received (value : Object) : Except Thrown Object :=
  match (runtime.thrown? value).filter Thrown.isException with
  | none => .ok value
  | some thrown => .error thrown.relabelled.logged

/-- What a call comes to at the executor. -/
def arrives (outcome : Except Thrown Object) : Except Thrown Object :=
  match runtime.answer? outcome with
  | none => .error runtime.unanswered
  | some value =>
      match runtime.serializeObject value with
      | .error _ => .error runtime.unanswered
      | .ok _ => runtime.received value

end SocketRuntime

/-! ## Behind the handlers of the executor -/

namespace RemoteAddress

section Handlers

variable (telemetry : NetworkTelemetry) (taskId : String) (sent received : Nat) (thrown : Thrown)

theorem failOperation_fst : (failOperation telemetry taskId thrown).1 = thrown.logged := by
  rw [failOperation, Thrown.logged]
  cases thrown.isException with
  | false => rfl
  | true =>
      cases thrown.str with
      | ok text => rfl
      | error raised => rfl

theorem invalidReply_fst :
    (invalidReply telemetry taskId sent received thrown).1 = thrown.relabelled := by
  rw [invalidReply, Thrown.relabelled]
  cases thrown.exceptionClass with
  | zlibError | unpicklingError | moduleNotFoundError =>
      cases thrown.str with
      | ok text => rfl
      | error raised => rfl
  | exception name | baseException name => rfl

end Handlers

variable {Object : Type} {runtime : SocketRuntime Object} {address : RemoteAddress}
  {managerChunkSize : Int} {link : Link} {telemetry : NetworkTelemetry} {taskId : String}

theorem catching_error (thrown : Thrown) :
    (catching taskId ((.error thrown : Except Thrown Object), telemetry)).1 =
      .error thrown.logged :=
  congrArg Except.error (failOperation_fst telemetry taskId thrown)

theorem catching_invalidReply (sent received : Nat) (thrown : Thrown) :
    (catching taskId
      ((.error (invalidReply telemetry taskId sent received thrown).1 : Except Thrown Object),
        (invalidReply telemetry taskId sent received thrown).2)).1 =
      .error thrown.relabelled.logged := by
  rw [catching_error, invalidReply_fst]

theorem catching_decodeReply {resultData : Bytes} {value : Object} {isTaskMessage : Bool}
    (decoded : runtime.deserialize resultData = .ok (value, isTaskMessage)) (sent : Nat) :
    (catching taskId (decodeReply runtime telemetry taskId resultData sent)).1 =
      runtime.received value := by
  rw [decodeReply, decoded, SocketRuntime.received]
  simp only
  cases (runtime.thrown? value).filter Thrown.isException with
  | none => rfl
  | some thrown => exact catching_invalidReply _ _ thrown

theorem catching_decodeReply_nil (sent : Nat) :
    (catching taskId (decodeReply runtime telemetry taskId [] sent)).1 =
      .error runtime.unanswered := by
  rcases runtime.deserialize_nil with ⟨thrown, refused⟩
  rw [decodeReply, refused, SocketRuntime.unanswered, refused]
  exact catching_invalidReply _ _ thrown

/-! ## Over the connection -/

theorem received_of_sent {chunkSize : Int} (positive : 0 < chunkSize) {header data : Bytes}
    (written : toBytes 8 data.length = some header) {cut : Nat → Nat} (whole : 8 ≤ cut 0 + 1) :
    ∃ unread, receiveDataFromSocketOrRaise ⟨header ++ data, cut⟩ chunkSize =
      .ok (data, unread) := by
  have read := @receiveDataFromSocket_eq chunkSize.toNat (by omega) header data []
    (length_of_toBytes written) (fromBytes_of_toBytes written) cut whole
  rw [List.append_nil] at read
  refine ⟨(receiveDataFromSocket ⟨header ++ data, cut⟩ chunkSize.toNat).2, ?_⟩
  rw [receiveDataFromSocketOrRaise_of_nonneg _ positive.le]
  exact congrArg Except.ok (Prod.ext read.1 rfl)

theorem received_nothing (chunkSize : Int) (cut : Nat → Nat) :
    ∃ unread, receiveDataFromSocketOrRaise ⟨[], cut⟩ chunkSize = .ok ([], unread) := by
  refine ⟨(ByteStream.recv ⟨[], cut⟩ 8).2, ?_⟩
  rw [receiveDataFromSocketOrRaise]
  simp [ByteStream.recv, receiveChunksOrRaise, fromBytes]

theorem answer_eq {taskMessage : Object} {data : Bytes}
    (decoded : runtime.deserialize data = .ok (taskMessage, true)) :
    (RemoteTaskManager.answer runtime data).toOption =
      runtime.answer? (runtime.call taskMessage) := by
  rw [RemoteTaskManager.answer, RemoteTaskManager.decodeMessage, decoded]
  simp only [bind, Except.bind]
  rw [RemoteTaskManager.executeTask, SocketRuntime.answer?.eq_def]
  cases runtime.call taskMessage with
  | ok result => rfl
  | error thrown =>
      cases caught : thrown.isException with
      | false => simp [caught, Except.toOption]
      | true =>
          cases shown : thrown.str <;>
            simp [caught, shown, bind, Except.bind, pure, Except.pure, Except.toOption]

theorem outgoing_handleClient (sock : ByteStream) :
    (RemoteTaskManager.handleClient runtime managerChunkSize sock).outgoing =
      (RemoteTaskManager.serve runtime managerChunkSize sock).toOption.getD [] := by
  rw [RemoteTaskManager.handleClient]
  cases RemoteTaskManager.serve runtime managerChunkSize sock with
  | ok outgoing => rfl
  | error thrown =>
      simp only
      split
      · cases thrown.str <;> rfl
      · rfl

section Replies

variable {taskMessage : Object} {data : Bytes}

theorem reply_eq (sending : address.chunkSize ≠ 0) (receiving : 0 < managerChunkSize)
    (whole : 8 ≤ link.toManager 0 + 1) (small : data.length < 2 ^ 64)
    (decoded : runtime.deserialize data = .ok (taskMessage, true)) :
    reply runtime address managerChunkSize link data =
      match runtime.answer? (runtime.call taskMessage) with
      | none => []
      | some value =>
          match runtime.serializeObject value with
          | .error _ => []
          | .ok payload =>
              ((sendDataOverSocket [] payload (some managerChunkSize)).map Prod.fst).getD [] := by
  have nonzero : some address.chunkSize ≠ some 0 := by simpa using sending
  rcases sendDataOverSocket_eq_some small nonzero with ⟨header, written, sent⟩
  rcases received_of_sent receiving written whole with ⟨unread, received⟩
  have answered := answer_eq decoded
  rw [reply, sent]
  simp only
  rw [outgoing_handleClient, ← answered]
  simp only [RemoteTaskManager.serve, received, bind, Except.bind]
  cases RemoteTaskManager.answer runtime data with
  | error thrown => rfl
  | ok value =>
      simp only [Except.toOption]
      cases runtime.serializeObject value with
      | error thrown => rfl
      | ok payload =>
          simp only
          cases sendDataOverSocket [] payload (some managerChunkSize) with
          | none => rfl
          | some written => rfl

theorem transfer_managed (sending : 0 < address.chunkSize) (small : data.length < 2 ^ 64)
    (serialized : runtime.serializeObject taskMessage = .ok data) {resultData : Bytes}
    (received : ∃ unread, receiveDataFromSocketOrRaise
      ⟨reply runtime address managerChunkSize link data, link.toExecutor⟩ address.chunkSize =
        .ok (resultData, unread)) :
    transfer runtime address (managed runtime address managerChunkSize link taskMessage)
      taskMessage = .answered resultData data.length := by
  have nonzero : some address.chunkSize ≠ some 0 := by
    rw [Ne, Option.some.injEq]
    omega
  rcases sendDataOverSocket_eq_some small nonzero with ⟨header, written, sent⟩
  rcases received with ⟨unread, received⟩
  have positive : ¬ data.length ≤ 0 := by
    rw [Nat.not_le, List.length_pos_iff]
    exact runtime.serializeObject_ne_nil serialized
  rw [transfer, managed, serialized]
  simp only [send, receive, sent, received, if_neg positive]

theorem remoteCall_of_transfer {resultData : Bytes} {sent : Nat}
    (ended : transfer runtime address (managed runtime address managerChunkSize link taskMessage)
      taskMessage = .answered resultData sent) :
    remoteCall runtime address managerChunkSize link telemetry taskId taskMessage =
      (catching taskId (decodeReply runtime
        (telemetry.startOperation taskId address.host address.port) taskId resultData sent)).1 := by
  rw [remoteCall, sendTask, exchangeMessages]
  simp only [ended]

end Replies

/-- Whatever the sizes of the chunks and of the pieces, a call over a connection comes to what
arrives of the call at the manager. -/
theorem remoteCall_eq {taskMessage : Object} (sending : 0 < address.chunkSize)
    (receiving : 0 < managerChunkSize) (whole : link.Whole)
    (isTask : runtime.isTaskMessage taskMessage = true)
    (sent : runtime.Delivers taskMessage fun value => value = taskMessage)
    (returns : ∀ value, runtime.answer? (runtime.call taskMessage) = some value →
      (∃ thrown, runtime.serializeObject value = .error thrown) ∨
        runtime.Delivers value fun other => other = value) :
    remoteCall runtime address managerChunkSize link telemetry taskId taskMessage =
      runtime.arrives (runtime.call taskMessage) := by
  rcases sent with ⟨data, arrived, isTaskMessage, serialized, small, decoded, rfl⟩
  rw [runtime.isTaskMessage_of_deserialize decoded, isTask] at decoded
  have replied := @reply_eq _ runtime address managerChunkSize link _ _ (by omega) receiving
    whole.1 small decoded
  have silent : reply runtime address managerChunkSize link data = [] →
      remoteCall runtime address managerChunkSize link telemetry taskId arrived =
        .error runtime.unanswered := by
    intro nothing
    have received := received_nothing address.chunkSize link.toExecutor
    rw [← nothing] at received
    rw [remoteCall_of_transfer (transfer_managed sending small serialized received), nothing]
    exact catching_decodeReply_nil _
  rw [SocketRuntime.arrives.eq_def]
  cases answered : runtime.answer? (runtime.call arrived) with
  | none =>
      rw [answered] at replied
      exact silent replied
  | some value =>
      rw [answered] at replied
      rcases returns value answered with ⟨thrown, refused⟩ |
        ⟨payload, other, isTaskMessage, sent, fits, read, rfl⟩
      · simp only [refused] at replied ⊢
        exact silent replied
      · have nonzero : some managerChunkSize ≠ some 0 := by
          rw [Ne, Option.some.injEq]
          omega
        rcases sendDataOverSocket_eq_some fits nonzero with ⟨header, written, outgoing⟩
        have framed : reply runtime address managerChunkSize link data = header ++ payload := by
          simpa [sent, outgoing] using replied
        have received := received_of_sent sending written whole.2
        rw [← framed] at received
        rw [remoteCall_of_transfer (transfer_managed sending small serialized received)]
        simp only [sent]
        exact catching_decodeReply read _

end RemoteAddress

/-! ## Calls that come to the same -/

namespace SocketRuntime

variable {Object : Type} (runtime : SocketRuntime Object)

def Serializable (object : Object) : Prop :=
  ∃ data, runtime.serializeObject object = .ok data

/-- The call comes to the same at the executor: a result that is no exception, or an exception
that the handlers on the way leave alone. The last case is one in which the exception happens to
be the one that is raised in its place. -/
def Undisturbed : Except Thrown Object → Prop
  | .ok result =>
      runtime.Serializable result ∧ (runtime.thrown? result).filter Thrown.isException = none
  | .error thrown =>
      thrown.Caught ∧ (∃ name, thrown.exceptionClass = .exception name) ∧
        (runtime.Serializable (runtime.object thrown) ∨ thrown = runtime.unanswered)

theorem unanswered_eq : ∃ text, runtime.unanswered = .valueError text := by
  rcases runtime.decompress_nil with ⟨text, refused⟩
  have failed : runtime.deserialize [] = .error (.readable .zlibError text) := by
    simp only [deserialize, refused, bind, Except.bind]
  exact ⟨"Failed to decompress message: " ++ text, by rw [unanswered, failed]; rfl⟩

theorem received_object {thrown : Thrown} (caught : thrown.isException = true) :
    runtime.received (runtime.object thrown) = .error thrown.relabelled.logged := by
  rw [received, runtime.thrown?_object, Option.filter_some, if_pos caught]

end SocketRuntime

/-- The handlers leave an exception that can be shown alone exactly if it is of none of the three
classes that stand for failures to decode. -/
theorem Thrown.relabelled_logged_eq_iff {thrown : Thrown} (caught : thrown.Caught) :
    thrown.relabelled.logged = thrown ↔ ∃ name, thrown.exceptionClass = .exception name := by
  rcases caught with ⟨isException, text, shown⟩
  cases thrown with
  | unreadable exceptionClass raised => cases shown
  | readable exceptionClass other =>
      cases exceptionClass with
      | zlibError | unpicklingError | moduleNotFoundError =>
          constructor
          · intro same
            cases same
          · intro ⟨name, same⟩
            cases same
      | exception name => exact ⟨fun _ => ⟨name, rfl⟩, fun _ => rfl⟩
      | baseException name => cases isException

namespace SocketRuntime

variable {Object : Type} {runtime : SocketRuntime Object}

theorem arrives_eq_iff (outcome : Except Thrown Object) :
    runtime.arrives outcome = outcome ↔ runtime.Undisturbed outcome := by
  rcases runtime.unanswered_eq with ⟨lost, unanswered⟩
  rw [arrives.eq_def]
  cases outcome with
  | ok result =>
      rw [answer?, Undisturbed, Serializable]
      cases serialized : runtime.serializeObject result with
      | error thrown => simp [serialized]
      | ok data =>
          simp only [serialized, received]
          cases (runtime.thrown? result).filter Thrown.isException <;> simp
  | error thrown =>
      rw [answer?, Undisturbed]
      have uncaught : ¬ thrown.Caught → runtime.unanswered ≠ thrown := by
        rintro other rfl
        exact other (unanswered ▸ ⟨rfl, lost, rfl⟩)
      cases isException : thrown.isException with
      | false =>
          have other : ¬ thrown.Caught := fun caught => by simp [caught.1] at isException
          simp [other, uncaught other]
      | true =>
          cases shown : thrown.str with
          | error raised =>
              have other : ¬ thrown.Caught := by
                rintro ⟨_, text, same⟩
                simp [same] at shown
              simp [other, uncaught other]
          | ok text =>
              have caught : thrown.Caught := ⟨isException, text, shown⟩
              simp only [if_true, caught, true_and, Serializable]
              cases serialized : runtime.serializeObject (runtime.object thrown) with
              | error refused =>
                  constructor
                  · intro same
                    have thrown_eq := Except.error.inj same
                    exact ⟨⟨"ValueError", by rw [← thrown_eq, unanswered]; rfl⟩,
                      .inr thrown_eq.symm⟩
                  · rintro ⟨_, ⟨data, same⟩ | same⟩
                    · cases same
                    · rw [← same]
              | ok data =>
                  rw [runtime.received_object isException, Except.error.injEq,
                    Thrown.relabelled_logged_eq_iff caught]
                  exact ⟨fun class_ => ⟨class_, .inl ⟨data, rfl⟩⟩, And.left⟩

end SocketRuntime

end EventPipeline
