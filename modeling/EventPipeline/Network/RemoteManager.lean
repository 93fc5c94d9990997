import EventPipeline.Network.TaskMessage
import EventPipeline.Network.Truncation

/-! # The manager of remote tasks

The manager receives one message on a connection, runs the task in it, and sends its result or an
exception back. The handlers around these steps name some classes of exceptions; any other one
ends the conversation without a reply.
-/

namespace EventPipeline

/-- What a client gets on its connection, and the exception that leaves the handler. -/
structure Conversation where
  outgoing : Bytes := []
  closed : Bool := false
  escaped : Option Thrown := none
deriving DecidableEq, Repr

namespace RemoteTaskManager

variable {Object : Type} (runtime : SocketRuntime Object)

def invalidMessage (thrown : Thrown) : Except Thrown Thrown :=
  match thrown.exceptionClass with
  | .zlibError | .unpicklingError => do
      let text ← thrown.str
      return .valueError ("Invalid task data received: " ++ text)
  | .moduleNotFoundError => do
      let _ ← thrown.str
      return thrown
  | .exception _ | .baseException _ => .error thrown

def notTaskMessage : Thrown :=
  .valueError "Invalid task message: Received message from client is not a task message"

/-- The task message, or the exception that is sent in the place of its result. An object that is
no task message is shown in the log. -/
def decodeMessage (msgData : Bytes) : Except Thrown (Object ⊕ Thrown) :=
  match runtime.deserialize msgData with
  | .error thrown => (invalidMessage thrown).map .inr
  | .ok (taskMessage, true) => .ok (.inl taskMessage)
  | .ok (object, false) =>
      match runtime.str object with
      | .error thrown => (invalidMessage thrown).map .inr
      | .ok _ => .ok (.inr notTaskMessage)

def executeTask (taskMessage : Object) : Except Thrown Object :=
  match runtime.call taskMessage with
  | .ok result => .ok result
  | .error thrown =>
      if thrown.isException then do
        let _ ← thrown.str
        return runtime.object thrown
      else .error thrown

/-- The object that is sent back. -/
def answer (msgData : Bytes) : Except Thrown Object := do
  match ← decodeMessage runtime msgData with
  | .inl taskMessage => executeTask runtime taskMessage
  | .inr exception => return runtime.object exception

/-- The bytes that are sent back. -/
def serve (chunkSize : Int) (sock : ByteStream) : Except Thrown Bytes := do
  let (msgData, _) ← receiveDataFromSocketOrRaise sock chunkSize
  let result ← answer runtime msgData
  let data ← runtime.serializeObject result
  match sendDataOverSocket [] data (some chunkSize) with
  | none => .error (.readable (.exception "OverflowError") "int too big to convert")
  | some (outgoing, _) => return outgoing

/-- `_handle_client` on a connection that stays open. -/
def handleClient (chunkSize : Int) (sock : ByteStream) : Conversation :=
  match serve runtime chunkSize sock with
  | .ok outgoing => { outgoing, closed := true }
  | .error thrown =>
      if thrown.isException then
        match thrown.str with
        | .ok _ => { closed := true }
        | .error raised => { closed := true, escaped := some raised }
      else { closed := true, escaped := some thrown }

end RemoteTaskManager

/-! ## Replies -/

namespace SocketRuntime

variable {Object : Type} (runtime : SocketRuntime Object)

def IsThrown (object : Object) : Prop :=
  (runtime.thrown? object).isSome = true

/-- The object answers the message: it is what the function of the task returns, or an
exception. -/
def Answers (msgData : Bytes) (value : Object) : Prop :=
  (∃ taskMessage, runtime.deserialize msgData = .ok (taskMessage, true) ∧
    runtime.call taskMessage = .ok value) ∨ runtime.IsThrown value

def FramedReply (outgoing : Bytes) (property : Object → Prop) : Prop :=
  ∃ header payload value isTaskMessage, toBytes 8 payload.length = some header ∧
    outgoing = header ++ payload ∧ runtime.deserialize payload = .ok (value, isTaskMessage) ∧
    property value

/-- The message is answered with one framed reply, and the connection is closed. -/
def RepliesOnce (chunkSize : Int) (sock : ByteStream) (msgData : Bytes) : Prop :=
  runtime.FramedReply (RemoteTaskManager.handleClient runtime chunkSize sock).outgoing
      (runtime.Answers msgData) ∧
    (RemoteTaskManager.handleClient runtime chunkSize sock).closed = true

/-- The object can be sent, and arrives as one of which the property holds. -/
def Delivers (object : Object) (property : Object → Prop) : Prop :=
  ∃ data value isTaskMessage, runtime.serializeObject object = .ok data ∧
    data.length < 2 ^ 64 ∧ runtime.deserialize data = .ok (value, isTaskMessage) ∧
    property value

/-- An exception while a message is decoded is reported to the client. -/
def Reportable (thrown : Thrown) : Prop :=
  ∃ text, thrown.str = .ok text ∧
    match thrown.exceptionClass with
    | .zlibError | .unpicklingError =>
        runtime.Delivers (runtime.object (.valueError ("Invalid task data received: " ++ text)))
          runtime.IsThrown
    | .moduleNotFoundError => runtime.Delivers (runtime.object thrown) runtime.IsThrown
    | .exception _ | .baseException _ => False

/-- The message can be answered: its decoding raises nothing but what is reported, its function
nothing but what is caught, and what is to be sent can be sent. -/
def Answerable (msgData : Bytes) : Prop :=
  match runtime.deserialize msgData with
  | .error thrown => runtime.Reportable thrown
  | .ok (taskMessage, true) =>
      match runtime.call taskMessage with
      | .ok result =>
          runtime.Delivers result fun value => value = result ∨ runtime.IsThrown value
      | .error thrown =>
          thrown.Caught ∧ runtime.Delivers (runtime.object thrown) runtime.IsThrown
  | .ok (object, false) =>
      match runtime.str object with
      | .error thrown => runtime.Reportable thrown
      | .ok _ =>
          runtime.Delivers (runtime.object RemoteTaskManager.notTaskMessage) runtime.IsThrown

/-! ## What is sent back -/

section Sending

variable {runtime} {property : Object → Prop}

theorem not_framedReply_nil : ¬ runtime.FramedReply [] property := by
  rintro ⟨header, payload, value, isTaskMessage, written, same, -⟩
  have eight := length_of_toBytes written
  have lengths := congrArg List.length same
  rw [List.length_append, List.length_nil] at lengths
  omega

theorem framedReply_iff {header payload : Bytes}
    (written : toBytes 8 payload.length = some header) :
    runtime.FramedReply (header ++ payload) property ↔
      ∃ value isTaskMessage, runtime.deserialize payload = .ok (value, isTaskMessage) ∧
        property value := by
  constructor
  · rintro ⟨other, sent, value, isTaskMessage, framed, same, decoded, holds⟩
    have lengths : header.length = other.length :=
      (length_of_toBytes written).trans (length_of_toBytes framed).symm
    rcases List.append_inj same lengths with ⟨_, rfl⟩
    exact ⟨value, isTaskMessage, decoded, holds⟩
  · rintro ⟨value, isTaskMessage, decoded, holds⟩
    exact ⟨header, payload, value, isTaskMessage, written, rfl, decoded, holds⟩

theorem not_framedReply_header {header : Bytes} (eight : header.length = 8) :
    ¬ runtime.FramedReply header property := by
  rintro ⟨other, payload, value, isTaskMessage, written, same, decoded, -⟩
  have lengths := congrArg List.length same
  rw [List.length_append, length_of_toBytes written, eight] at lengths
  have empty : payload = [] := List.length_eq_zero_iff.mp (by omega)
  rcases runtime.deserialize_nil with ⟨thrown, refused⟩
  rw [empty, refused] at decoded
  cases decoded

theorem framedReply_sent_iff {object : Object} {data : Bytes}
    (serialized : runtime.serializeObject object = .ok data) (chunkSize : Int) :
    (∃ outgoing sent, sendDataOverSocket [] data (some chunkSize) = some (outgoing, sent) ∧
        runtime.FramedReply outgoing property) ↔
      chunkSize ≠ 0 ∧ runtime.Delivers object property := by
  have delivers_iff : runtime.Delivers object property ↔ data.length < 2 ^ 64 ∧
      ∃ value isTaskMessage, runtime.deserialize data = .ok (value, isTaskMessage) ∧
        property value := by
    constructor
    · rintro ⟨other, value, isTaskMessage, same, small, decoded, holds⟩
      rw [serialized, Except.ok.injEq] at same
      subst same
      exact ⟨small, value, isTaskMessage, decoded, holds⟩
    · rintro ⟨small, value, isTaskMessage, decoded, holds⟩
      exact ⟨data, value, isTaskMessage, serialized, small, decoded, holds⟩
  rw [delivers_iff]
  by_cases zero : chunkSize = 0
  · subst zero
    constructor
    · rintro ⟨outgoing, sent, written, replied⟩
      rw [sendDataOverSocket, Option.map_eq_some_iff] at written
      rcases written with ⟨header, framed, same⟩
      have nothing : sendChunks data.length (Int.natAbs 0) data ([] ++ header) 0 = (header, 0) := by
        rw [sendChunks]
        simp
      cases nothing.symm.trans same
      exact absurd replied (not_framedReply_header (length_of_toBytes framed))
    · rintro ⟨nonzero, -⟩
      exact absurd rfl nonzero
  · rw [sendDataOverSocket_eq [] data (by simpa using zero)]
    constructor
    · rintro ⟨outgoing, sent, written, replied⟩
      rcases Option.map_eq_some_iff.mp written with ⟨header, framed, same⟩
      cases same
      refine ⟨zero, ?_, (framedReply_iff framed).mp replied⟩
      by_contra large
      rw [toBytes, if_neg (by norm_num; omega)] at framed
      cases framed
    · rintro ⟨-, small, decoded⟩
      have fits : data.length < 256 ^ 8 := small.trans_eq (by norm_num)
      refine ⟨_, data.length, by rw [toBytes_eq_some fits]; rfl, ?_⟩
      exact (framedReply_iff (toBytes_eq_some fits)).mpr decoded

end Sending

/-! ## What the message is answered with -/

section Answering

variable {runtime} {chunkSize : Int} {sock : ByteStream} {msgData : Bytes}

theorem closed_handleClient :
    (RemoteTaskManager.handleClient runtime chunkSize sock).closed = true := by
  unfold RemoteTaskManager.handleClient
  split
  · rfl
  · split
    · split
      · rfl
      · rfl
    · rfl

theorem framedReply_handleClient_iff {unread : ByteStream} {property : Object → Prop}
    (received : receiveDataFromSocketOrRaise sock chunkSize = .ok (msgData, unread)) :
    runtime.FramedReply (RemoteTaskManager.handleClient runtime chunkSize sock).outgoing
        property ↔
      chunkSize ≠ 0 ∧ ∃ result, RemoteTaskManager.answer runtime msgData = .ok result ∧
        runtime.Delivers result property := by
  have silent : ∀ thrown, RemoteTaskManager.serve runtime chunkSize sock = .error thrown →
      (RemoteTaskManager.handleClient runtime chunkSize sock).outgoing = [] := by
    intro thrown raised
    rw [RemoteTaskManager.handleClient, raised]
    split
    · rename_i served
      cases served
    · split
      · split
        · rfl
        · rfl
      · rfl
  cases answered : RemoteTaskManager.answer runtime msgData with
  | error thrown =>
      have raised : RemoteTaskManager.serve runtime chunkSize sock = .error thrown := by
        simp only [RemoteTaskManager.serve, received, bind, Except.bind, answered]
      simp [silent thrown raised, not_framedReply_nil]
  | ok result =>
      cases serialized : runtime.serializeObject result with
      | error thrown =>
          have raised : RemoteTaskManager.serve runtime chunkSize sock = .error thrown := by
            simp only [RemoteTaskManager.serve, received, bind, Except.bind, answered, serialized]
          have undelivered : ¬ runtime.Delivers result property := by
            rintro ⟨data, value, isTaskMessage, same, -⟩
            rw [serialized] at same
            cases same
          simp [silent thrown raised, not_framedReply_nil, undelivered]
      | ok data =>
          rw [show (∃ other, Except.ok result = .ok other ∧ runtime.Delivers other property) ↔
            runtime.Delivers result property by simp, ← framedReply_sent_iff serialized]
          cases sending : sendDataOverSocket [] data (some chunkSize) with
          | none =>
              have raised : RemoteTaskManager.serve runtime chunkSize sock = .error
                  (.readable (.exception "OverflowError") "int too big to convert") := by
                simp only [RemoteTaskManager.serve, received, bind, Except.bind, answered,
                  serialized, sending]
              simp [silent _ raised, not_framedReply_nil]
          | some written =>
              rcases written with ⟨outgoing, sent⟩
              have served : RemoteTaskManager.serve runtime chunkSize sock = .ok outgoing := by
                simp only [RemoteTaskManager.serve, received, bind, Except.bind, answered,
                  serialized, sending]
                rfl
              simp [RemoteTaskManager.handleClient, served]

/-- A message whose decoding raises is answered if that is reported. -/
theorem reportable_iff {thrown : Thrown} :
    runtime.Reportable thrown ↔
      ∃ exception, RemoteTaskManager.invalidMessage thrown = .ok exception ∧
        runtime.Delivers (runtime.object exception) runtime.IsThrown := by
  unfold Reportable RemoteTaskManager.invalidMessage
  cases thrown.exceptionClass with
  | zlibError | unpicklingError | moduleNotFoundError =>
      cases thrown.str with
      | error raised => simp [bind, Except.bind]
      | ok text => simp [bind, Except.bind, pure, Except.pure]
  | exception name | baseException name => simp

theorem answers_eq_isThrown
    (unreturned : ∀ taskMessage, runtime.deserialize msgData = .ok (taskMessage, true) →
      ∀ value, runtime.call taskMessage ≠ .ok value) :
    runtime.Answers msgData = runtime.IsThrown := by
  funext value
  apply propext
  constructor
  · rintro (⟨taskMessage, decoded, returned⟩ | thrown)
    · exact absurd returned (unreturned taskMessage decoded value)
    · exact thrown
  · exact .inr

theorem delivers_reported_iff {thrown : Thrown}
    (answers : runtime.Answers msgData = runtime.IsThrown) :
    (∃ result, (do
        match ← (RemoteTaskManager.invalidMessage thrown).map Sum.inr with
        | .inl taskMessage => RemoteTaskManager.executeTask runtime taskMessage
        | .inr exception => return runtime.object exception) = .ok result ∧
      runtime.Delivers result (runtime.Answers msgData)) ↔ runtime.Reportable thrown := by
  rw [reportable_iff, answers]
  cases RemoteTaskManager.invalidMessage thrown with
  | error raised => simp [Except.map, bind, Except.bind]
  | ok exception => simp [Except.map, bind, Except.bind, pure, Except.pure]

theorem answerable_iff :
    runtime.Answerable msgData ↔
      ∃ result, RemoteTaskManager.answer runtime msgData = .ok result ∧
        runtime.Delivers result (runtime.Answers msgData) := by
  unfold Answerable RemoteTaskManager.answer RemoteTaskManager.decodeMessage
  rcases decoded : runtime.deserialize msgData with thrown | ⟨object, _ | _⟩
  · have answers := @answers_eq_isThrown _ runtime msgData (by simp [decoded])
    exact (delivers_reported_iff answers).symm
  · have answers := @answers_eq_isThrown _ runtime msgData (by simp [decoded])
    simp only
    cases runtime.str object with
    | error thrown => exact (delivers_reported_iff answers).symm
    | ok text => simp [answers, bind, Except.bind, pure, Except.pure]
  · simp only [bind, Except.bind]
    rw [RemoteTaskManager.executeTask]
    cases called : runtime.call object with
    | error thrown =>
        have answers := @answers_eq_isThrown _ runtime msgData (by simp [decoded, called])
        simp only [answers, Thrown.Caught]
        cases caught : thrown.isException with
        | false => simp
        | true =>
            cases thrown.str with
            | error raised => simp [bind, Except.bind]
            | ok text => simp [bind, Except.bind, pure, Except.pure]
    | ok result =>
        have answers : runtime.Answers msgData =
            fun value => value = result ∨ runtime.IsThrown value := by
          funext value
          apply propext
          apply or_congr_left
          constructor
          · rintro ⟨taskMessage, same, returned⟩
            rw [decoded, Except.ok.injEq, Prod.mk.injEq] at same
            rw [← same.1, called, Except.ok.injEq] at returned
            exact returned.symm
          · rintro rfl
            exact ⟨object, decoded, called⟩
        simp [answers]

end Answering

/-- A message gets its one reply exactly if it can be answered and the reply is sent in chunks
that are not empty. -/
theorem repliesOnce_iff {chunkSize : Int} {sock unread : ByteStream} {msgData : Bytes}
    (received : receiveDataFromSocketOrRaise sock chunkSize = .ok (msgData, unread)) :
    runtime.RepliesOnce chunkSize sock msgData ↔ chunkSize ≠ 0 ∧ runtime.Answerable msgData := by
  rw [RepliesOnce, framedReply_handleClient_iff received, answerable_iff]
  constructor
  · exact And.left
  · intro answered
    exact ⟨answered, closed_handleClient⟩

end SocketRuntime

/-- What a small runtime tells apart: numbers, exceptions, and tasks that return a number. -/
inductive WireObject
  | number (value : UInt8)
  | thrown (thrown : Thrown)
  | task (result : UInt8)
deriving DecidableEq, Repr

/-- An exception for a function that the module does not have. -/
def missingFunction : Thrown :=
  .readable (.exception "AttributeError") "Can't get attribute 'area' on module 'shapes'"

/-- A runtime with compressed data that start with the byte of `zlib`, and pickled data that start
with a byte for the kind of the object. The last kind is that of functions that cannot be
found. -/
def wireRuntime : SocketRuntime WireObject where
  dumps
    | .number value => .ok [0, value]
    | .task result => .ok [1, result]
    | .thrown _ => .error (.readable (.exception "PicklingError") "exceptions are left out")
  loads
    | [0, value] => .ok (.number value)
    | [1, result] => .ok (.task result)
    | [2] => .error missingFunction
    | _ => .error (.readable .unpicklingError "invalid load key")
  compress data := 120 :: data
  decompress
    | 120 :: data => .ok data
    | _ => .error (.readable .zlibError "Error -3 while decompressing data")
  decompress_compress _ := rfl
  decompress_nil := ⟨_, rfl⟩
  isTaskMessage
    | .task _ => true
    | .number _ | .thrown _ => false
  call
    | .task result => .ok (.number result)
    | .number _ | .thrown _ => .error (.readable (.exception "AttributeError") "fn")
  str
    | .number value => .ok (toString value)
    | .thrown thrown => thrown.str
    | .task result => .ok (toString result)
  object := .thrown
  thrown?
    | .thrown thrown => some thrown
    | .number _ | .task _ => none
  thrown?_object _ := rfl

/-- A connection on which a message comes in one piece, and its length before it. -/
def wireStream (size : UInt8) (message : Bytes) : ByteStream :=
  ⟨[0, 0, 0, 0, 0, 0, 0, size] ++ message, fun _ => 4095⟩

theorem received_wireStream {size : UInt8} {message : Bytes} (sized : size.toNat = message.length) :
    ∃ unread, receiveDataFromSocketOrRaise (wireStream size message) 4096 =
      .ok (message, unread) := by
  have announced : fromBytes [0, 0, 0, 0, 0, 0, 0, size] = message.length := by
    rw [← sized]
    simp [fromBytes, Nat.ofDigits]
  have received := @receiveDataFromSocket_eq 4096 (by decide) _ message [] rfl announced
    (fun _ => 4095) (by decide)
  rw [List.append_nil] at received
  refine ⟨(receiveDataFromSocket (wireStream size message) 4096).2, ?_⟩
  rw [receiveDataFromSocketOrRaise_of_nonneg _ (by decide), Except.ok.injEq, Prod.ext_iff]
  exact ⟨received.1, rfl⟩

/-- A task that returns seven. -/
theorem repliesOnce_returningTask :
    wireRuntime.RepliesOnce 4096 (wireStream 3 [120, 1, 7]) [120, 1, 7] := by
  rcases @received_wireStream 3 [120, 1, 7] rfl with ⟨unread, received⟩
  apply (wireRuntime.repliesOnce_iff received).mpr
  refine ⟨by decide, [120, 0, 7], .number 7, false, rfl, by decide, rfl, ?_⟩
  exact .inl rfl

/-- A task whose function the manager cannot find gets no reply. -/
theorem not_repliesOnce_missingFunction :
    ∃ unread, receiveDataFromSocketOrRaise (wireStream 2 [120, 2]) 4096 =
        .ok ([120, 2], unread) ∧
      ¬ wireRuntime.RepliesOnce 4096 (wireStream 2 [120, 2]) [120, 2] := by
  rcases @received_wireStream 2 [120, 2] rfl with ⟨unread, received⟩
  refine ⟨unread, received, fun replies => ?_⟩
  rcases (SocketRuntime.framedReply_handleClient_iff received).mp replies.1 with
    ⟨-, result, answered, -⟩
  cases answered

end EventPipeline
