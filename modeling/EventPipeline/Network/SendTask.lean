import EventPipeline.Network.RemoteManager
import EventPipeline.Telemetry.NetworkTelemetry

/-! # Sending a task

The remote executor connects, sends a task message, receives the reply and decodes it, and tells
the network telemetry how the operation has ended. The handlers are nested: what an inner one
raises is caught again by the outer one.
-/

namespace EventPipeline

/-- The other side of a connection: the exception with which connecting fails, the exceptions that
interrupt sending and receiving, after a number of bytes of the payload, and what is received
otherwise. -/
structure Exchange where
  connection : Option Thrown := none
  sending : Option (Nat × Thrown) := none
  incoming : ByteStream
  receiving : Option (Nat × Thrown) := none

/-- What happens on the connection, with the numbers of bytes of the payloads. -/
inductive Transfer
  | interrupted (thrown : Thrown) (sent received : Nat)
  | nothingSent
  | answered (resultData : Bytes) (sent : Nat)

/-- The executor's side: the address, and the size of the chunks. -/
structure RemoteAddress where
  host : String
  port : Int
  chunkSize : Int := 4096
deriving DecidableEq, Repr

namespace RemoteAddress

variable {Object : Type} (runtime : SocketRuntime Object)
  (address : RemoteAddress) (exchange : Exchange)

/-- `send_data_over_socket` -/
def send (data : Bytes) : Except (Nat × Thrown) Nat :=
  match exchange.sending with
  | some interruption => .error interruption
  | none =>
      match sendDataOverSocket [] data (some address.chunkSize) with
      | none => .error (0, .readable (.exception "OverflowError") "int too big to convert")
      | some (_, sent) => .ok sent

/-- `receive_data_from_socket` -/
def receive : Except (Nat × Thrown) Bytes :=
  match exchange.receiving with
  | some interruption => .error interruption
  | none =>
      match receiveDataFromSocketOrRaise exchange.incoming address.chunkSize with
      | .error thrown => .error (0, thrown)
      | .ok (resultData, _) => .ok resultData

/-- The block over the connection, up to the reply. -/
def transfer (taskMessage : Object) : Transfer :=
  match exchange.connection with
  | some thrown => .interrupted thrown 0 0
  | none =>
      match runtime.serializeObject taskMessage with
      | .error thrown => .interrupted thrown 0 0
      | .ok data =>
          match address.send exchange data with
          | .error (sent, thrown) => .interrupted thrown sent 0
          | .ok dataSize =>
              if dataSize ≤ 0 then .nothingSent
              else
                match address.receive exchange with
                | .error (received, thrown) => .interrupted thrown dataSize received
                | .ok resultData => .answered resultData dataSize

/-- The handlers around the decoding of a reply. -/
def invalidReply (telemetry : NetworkTelemetry) (taskId : String) (sent received : Nat)
    (thrown : Thrown) : Thrown × NetworkTelemetry :=
  match thrown.exceptionClass with
  | .zlibError | .unpicklingError =>
      match thrown.str with
      | .error raised => (raised, telemetry)
      | .ok text =>
          let error := "Failed to decompress message: " ++ text
          (.valueError error, telemetry.endOperation taskId sent received (some error))
  | .moduleNotFoundError =>
      match thrown.str with
      | .error raised => (raised, telemetry)
      | .ok text =>
          let error := "Failed to load task result: " ++ text
          (.importError error, telemetry.endOperation taskId sent received (some error))
  | .exception _ | .baseException _ => (thrown, telemetry)

/-- A reply is reported as received before it is looked at whether it is an exception. -/
def decodeReply (telemetry : NetworkTelemetry) (taskId : String) (resultData : Bytes)
    (sent : Nat) : Except Thrown Object × NetworkTelemetry :=
  match runtime.deserialize resultData with
  | .error thrown =>
      let (raised, telemetry) := invalidReply telemetry taskId sent resultData.length thrown
      (.error raised, telemetry)
  | .ok (result, _) =>
      let telemetry := telemetry.endOperation taskId sent resultData.length none
      match (runtime.thrown? result).filter Thrown.isException with
      | none => (.ok result, telemetry)
      | some thrown =>
          let (raised, telemetry) := invalidReply telemetry taskId sent resultData.length thrown
          (.error raised, telemetry)

/-- The body of the outer `try`. -/
def exchangeMessages (telemetry : NetworkTelemetry) (taskId : String) (taskMessage : Object) :
    Except Thrown Object × NetworkTelemetry :=
  match transfer runtime address exchange taskMessage with
  | .interrupted thrown _ _ => (.error thrown, telemetry)
  | .nothingSent =>
      let error := "Failed to send data to remote server"
      (.error (.valueError error), telemetry.endOperation taskId 0 0 (some error))
  | .answered resultData dataSize =>
      decodeReply runtime telemetry taskId resultData dataSize

/-- The outer handler. -/
def failOperation (telemetry : NetworkTelemetry) (taskId : String) (thrown : Thrown) :
    Thrown × NetworkTelemetry :=
  if thrown.isException then
    match thrown.str with
    | .error raised => (raised, telemetry)
    | .ok text =>
        (thrown,
          telemetry.endOperation taskId 0 0 (some ("Network operation failed: " ++ text)))
  else (thrown, telemetry)

/-- The outer `try`. -/
def catching (taskId : String) :
    Except Thrown Object × NetworkTelemetry → Except Thrown Object × NetworkTelemetry
  | (.ok result, telemetry) => (.ok result, telemetry)
  | (.error thrown, telemetry) =>
      let (raised, telemetry) := failOperation telemetry taskId thrown
      (.error raised, telemetry)

/-- `_send_task`. The identity of a message is its address. -/
def sendTask (telemetry : NetworkTelemetry) (taskId : String) (taskMessage : Object) :
    Except Thrown Object × NetworkTelemetry :=
  let telemetry := telemetry.startOperation taskId address.host address.port
  catching taskId (exchangeMessages runtime address exchange telemetry taskId taskMessage)

end RemoteAddress

/-! ## Operations that are reported once -/

namespace Transfer

/-- The bytes of the payload that are sent before the call ends. -/
def sent : Transfer → Nat
  | interrupted _ sent _ | answered _ sent => sent
  | nothingSent => 0

/-- The bytes of the payload that are received before the call ends. -/
def received : Transfer → Nat
  | interrupted _ _ received => received
  | nothingSent => 0
  | answered resultData _ => resultData.length

end Transfer

namespace RemoteAddress

variable {Object : Type} (runtime : SocketRuntime Object)
  (address : RemoteAddress) (exchange : Exchange)

/-- Every publisher gets one call for the operation, and the bytes are counted as they have been
sent and received. -/
def OperationReported (telemetry : NetworkTelemetry) (taskId : String) (taskMessage : Object) :
    Prop :=
  NetworkTelemetry.ReportedOnce telemetry
    (sendTask runtime address exchange telemetry taskId taskMessage).2 taskId
    (transfer runtime address exchange taskMessage).sent
    (transfer runtime address exchange taskMessage).received

end RemoteAddress

/-- The exception of a reply reaches no handler that reports it: its text cannot be read. -/
def Thrown.Unreported : Thrown → Prop
  | .readable .zlibError _ | .readable .unpicklingError _ | .readable .moduleNotFoundError _ =>
      False
  | .unreadable .zlibError raised | .unreadable .unpicklingError raised
  | .unreadable .moduleNotFoundError raised => ¬ raised.Caught
  | thrown => ¬ thrown.Caught

theorem Thrown.unreported_of_not_isException {thrown : Thrown}
    (other : ¬ thrown.isException = true) : thrown.Unreported := by
  have uncaught : ¬ thrown.Caught := fun caught => other caught.1
  cases thrown with
  | readable exceptionClass text =>
      cases exceptionClass with
      | zlibError | unpicklingError | moduleNotFoundError => exact absurd rfl other
      | exception name | baseException name => exact uncaught
  | unreadable exceptionClass raised =>
      cases exceptionClass with
      | zlibError | unpicklingError | moduleNotFoundError => exact absurd rfl other
      | exception name | baseException name => exact uncaught

/-- How a transfer has to end for its operation to be reported once. -/
def SocketRuntime.Countable {Object : Type} (runtime : SocketRuntime Object)
    (publishers : List PublisherId) : Transfer → Prop
  | .interrupted thrown sent received =>
      (sent = 0 ∧ received = 0) ∧ (publishers = [] ∨ thrown.Caught)
  | .nothingSent => publishers = []
  | .answered resultData _ =>
      ∃ result isTaskMessage, runtime.deserialize resultData = .ok (result, isTaskMessage) ∧
        ∀ thrown, runtime.thrown? result = some thrown → thrown.Unreported

namespace RemoteAddress

/-! ## What the handlers report -/

section Handlers

open NetworkTelemetry

variable {before after : NetworkTelemetry} {taskId : String} {reports : List NetworkReport}
  {metrics : NetworkMetrics} {thrown : Thrown}

theorem failOperation_of_not_caught (uncaught : ¬ thrown.Caught) :
    (failOperation after taskId thrown).2 = after := by
  rw [failOperation]
  split
  · rename_i exception
    cases shown : thrown.str with
    | error raised => rfl
    | ok text => exact absurd ⟨exception, text, shown⟩ uncaught
  · rfl

theorem failOperation_of_caught (traced : Reports before after taskId reports metrics)
    (caught : thrown.Caught) :
    ∃ ended, Reports before (failOperation after taskId thrown).2 taskId
        (reports ++ [NetworkMetrics.report ended]) ended ∧
      ended.bytesSent = 0 ∧ ended.bytesReceived = 0 := by
  rcases caught with ⟨exception, text, shown⟩
  rw [failOperation, if_pos exception, shown]
  exact traced.endOperation 0 0 _

/-- An error that an inner handler raises is reported twice, at last with no bytes. -/
theorem failOperation_of_endOperation (traced : Reports before after taskId reports metrics)
    (sent received : Nat) (error : Option String) (caught : thrown.Caught) :
    ∃ reports ended, Reports before
        (failOperation (after.endOperation taskId sent received error) taskId thrown).2 taskId
        reports ended ∧ ended.bytesSent = 0 := by
  rcases traced.endOperation sent received error with ⟨first, once, -⟩
  rcases failOperation_of_caught once caught with ⟨ended, twice, none, -⟩
  exact ⟨_, ended, twice, none⟩

theorem caught_valueError (text : String) : (Thrown.valueError text).Caught :=
  ⟨rfl, text, rfl⟩

theorem caught_importError (text : String) : (Thrown.importError text).Caught :=
  ⟨rfl, text, rfl⟩

/-- The exception of a reply passes both handlers without a report, or the operation ends with
no bytes. -/
theorem failOperation_invalidReply (traced : Reports before after taskId reports metrics)
    (sent received : Nat) (thrown : Thrown) :
    (thrown.Unreported ∧
      (failOperation (invalidReply after taskId sent received thrown).2 taskId
        (invalidReply after taskId sent received thrown).1).2 = after) ∨
    (¬ thrown.Unreported ∧ ∃ reports ended, Reports before
      (failOperation (invalidReply after taskId sent received thrown).2 taskId
        (invalidReply after taskId sent received thrown).1).2 taskId reports ended ∧
      ended.bytesSent = 0) := by
  have passes : ∀ raised : Thrown,
      (¬ raised.Caught ∧ (failOperation after taskId raised).2 = after) ∨
      (¬ ¬ raised.Caught ∧ ∃ reports ended, Reports before
        (failOperation after taskId raised).2 taskId reports ended ∧ ended.bytesSent = 0) := by
    intro raised
    by_cases caught : raised.Caught
    · rcases failOperation_of_caught traced caught with ⟨ended, traced, none, -⟩
      exact .inr ⟨not_not.mpr caught, _, ended, traced, none⟩
    · exact .inl ⟨caught, failOperation_of_not_caught caught⟩
  cases thrown with
  | readable exceptionClass text =>
      cases exceptionClass with
      | zlibError | unpicklingError =>
          exact .inr ⟨not_false, failOperation_of_endOperation traced sent received _
            (caught_valueError _)⟩
      | moduleNotFoundError =>
          exact .inr ⟨not_false, failOperation_of_endOperation traced sent received _
            (caught_importError _)⟩
      | exception name | baseException name => exact passes _
  | unreadable exceptionClass raised =>
      cases exceptionClass with
      | zlibError | unpicklingError | moduleNotFoundError => exact passes raised
      | exception name | baseException name => exact passes _

end Handlers

/-! ## One report for each operation -/

section Operations

open NetworkTelemetry

variable {Object : Type} {runtime : SocketRuntime Object} {address : RemoteAddress}
  {exchange : Exchange} {taskMessage : Object}

theorem sent_pos_of_answered {resultData : Bytes} {sent : Nat}
    (answered : transfer runtime address exchange taskMessage = .answered resultData sent) :
    0 < sent := by
  rw [transfer] at answered
  split at answered
  · cases answered
  · split at answered
    · cases answered
    · split at answered
      · cases answered
      · split at answered
        · cases answered
        · rename_i positive
          split at answered
          · cases answered
          · cases answered
            exact Nat.pos_of_ne_zero fun zero => positive (Nat.le_of_eq zero)

variable {telemetry started : NetworkTelemetry} {taskId : String} {metrics : NetworkMetrics}

theorem reportedOnce_interrupted (traced : Reports telemetry started taskId [] metrics)
    (none : metrics.bytesSent = 0 ∧ metrics.bytesReceived = 0) (thrown : Thrown)
    (sent received : Nat) :
    ReportedOnce telemetry (failOperation started taskId thrown).2 taskId sent received ↔
      telemetry.publishers.Nodup ∧ (sent = 0 ∧ received = 0) ∧
        (telemetry.publishers = [] ∨ thrown.Caught) := by
  by_cases caught : thrown.Caught
  · rcases failOperation_of_caught traced caught with ⟨ended, reported, nothing⟩
    rw [reported.reportedOnce_iff, nothing.1, nothing.2]
    constructor
    · rintro ⟨⟨rfl, rfl⟩, empty | ⟨nodup, -⟩⟩
      · exact ⟨by simp [empty], ⟨rfl, rfl⟩, .inr caught⟩
      · exact ⟨nodup, ⟨rfl, rfl⟩, .inr caught⟩
    · rintro ⟨nodup, ⟨rfl, rfl⟩, -⟩
      exact ⟨⟨rfl, rfl⟩, .inr ⟨nodup, ended.report, rfl, nothing⟩⟩
  · rw [failOperation_of_not_caught caught, traced.reportedOnce_iff, none.1, none.2]
    constructor
    · rintro ⟨⟨rfl, rfl⟩, empty | ⟨-, report, single, -⟩⟩
      · exact ⟨by simp [empty], ⟨rfl, rfl⟩, .inl empty⟩
      · cases single
    · rintro ⟨-, ⟨rfl, rfl⟩, empty | also⟩
      · exact ⟨⟨rfl, rfl⟩, .inl empty⟩
      · exact absurd also caught

theorem reportedOnce_nothingSent (traced : Reports telemetry started taskId [] metrics)
    (error text : String) :
    ReportedOnce telemetry
        (failOperation (started.endOperation taskId 0 0 (some error)) taskId
          (.valueError text)).2 taskId 0 0 ↔
      telemetry.publishers.Nodup ∧ telemetry.publishers = [] := by
  rcases traced.endOperation 0 0 (some error) with ⟨first, once, -⟩
  rcases failOperation_of_caught once (caught_valueError text) with ⟨ended, twice, nothing⟩
  rw [twice.reportedOnce_iff]
  constructor
  · rintro ⟨-, empty | ⟨-, report, single, -⟩⟩
    · exact ⟨by simp [empty], empty⟩
    · cases single
  · rintro ⟨-, empty⟩
    exact ⟨nothing, .inl empty⟩

section Answered

variable {resultData : Bytes} {sent : Nat}

theorem not_reportedOnce_uncounted {after : NetworkTelemetry} {reports : List NetworkReport}
    (positive : 0 < sent) (reported : Reports telemetry after taskId reports metrics)
    (none : metrics.bytesSent = 0) {received : Nat} :
    ¬ ReportedOnce telemetry after taskId sent received := by
  intro counted
  have bytes := (reported.reportedOnce_iff.mp counted).1.1
  omega

theorem reportedOnce_counted {after : NetworkTelemetry} {received : Nat}
    (reported : Reports telemetry after taskId [metrics.report] metrics)
    (counted : metrics.bytesSent = sent ∧ metrics.bytesReceived = received) :
    ReportedOnce telemetry after taskId sent received ↔ telemetry.publishers.Nodup := by
  rw [reported.reportedOnce_iff]
  constructor
  · rintro ⟨-, empty | ⟨nodup, -⟩⟩
    · simp [empty]
    · exact nodup
  · intro nodup
    exact ⟨counted, .inr ⟨nodup, metrics.report, rfl, counted⟩⟩

/-- A reply that cannot be decoded is never reported as received in the end. -/
theorem not_reportedOnce_undecoded (traced : Reports telemetry started taskId [] metrics)
    (none : metrics.bytesSent = 0) (positive : 0 < sent) {thrown : Thrown}
    (refused : runtime.deserialize resultData = .error thrown) :
    ¬ ReportedOnce telemetry
      (catching taskId (decodeReply runtime started taskId resultData sent)).2 taskId sent
      resultData.length := by
  rw [decodeReply, refused]
  show ¬ ReportedOnce telemetry
    (failOperation (invalidReply started taskId sent resultData.length thrown).2 taskId
      (invalidReply started taskId sent resultData.length thrown).1).2 taskId sent
    resultData.length
  rcases failOperation_invalidReply traced sent resultData.length thrown with
    ⟨-, same⟩ | ⟨-, reports, ended, reported, nothing⟩
  · rw [same]
    exact not_reportedOnce_uncounted positive traced none
  · exact not_reportedOnce_uncounted positive reported nothing

theorem reportedOnce_decoded (traced : Reports telemetry started taskId [] metrics)
    (positive : 0 < sent) {result : Object} {isTaskMessage : Bool}
    (decoded : runtime.deserialize resultData = .ok (result, isTaskMessage)) :
    ReportedOnce telemetry
        (catching taskId (decodeReply runtime started taskId resultData sent)).2 taskId sent
        resultData.length ↔
      telemetry.publishers.Nodup ∧
        ∀ thrown, runtime.thrown? result = some thrown → thrown.Unreported := by
  rcases traced.endOperation sent resultData.length none with ⟨ended, reported, counted⟩
  have once := reportedOnce_counted reported counted
  rw [decodeReply, decoded]
  simp only
  cases found : runtime.thrown? result with
  | none =>
      have returned : ReportedOnce telemetry
          (started.endOperation taskId sent resultData.length none) taskId sent
            resultData.length ↔ telemetry.publishers.Nodup ∧ True := by
        rw [once, and_true]
      simpa [catching] using returned
  | some thrown =>
      simp only [Option.some.injEq, forall_eq']
      by_cases exception : thrown.isException = true
      · rw [Option.filter_some, if_pos exception]
        show ReportedOnce telemetry
          (failOperation (invalidReply _ taskId sent resultData.length thrown).2 taskId
            (invalidReply _ taskId sent resultData.length thrown).1).2 taskId sent
          resultData.length ↔ _
        rcases failOperation_invalidReply reported sent resultData.length thrown with
          ⟨unreported, same⟩ | ⟨readable, reports, later, again, nothing⟩
        · rw [same, once]
          simp [unreported]
        · simp [not_reportedOnce_uncounted positive again nothing, readable]
      · rw [Option.filter_some, if_neg exception]
        simp [catching, once, Thrown.unreported_of_not_isException exception]

end Answered

theorem not_operationReported_of_undecoded {resultData : Bytes} {sent : Nat} {thrown : Thrown}
    (ended : transfer runtime address exchange taskMessage = .answered resultData sent)
    (refused : runtime.deserialize resultData = .error thrown) :
    ¬ OperationReported runtime address exchange telemetry taskId taskMessage := by
  rcases reports_startOperation telemetry taskId address.host address.port with
    ⟨metrics, traced, none⟩
  rw [OperationReported, sendTask]
  simp only [exchangeMessages, ended]
  exact not_reportedOnce_undecoded traced none.1 (sent_pos_of_answered ended) refused

/-- An operation is reported once exactly if each publisher is registered once and the transfer
ends in one of the ways that are counted. -/
theorem operationReported_iff (runtime : SocketRuntime Object) (address : RemoteAddress)
    (exchange : Exchange) (telemetry : NetworkTelemetry) (taskId : String)
    (taskMessage : Object) :
    OperationReported runtime address exchange telemetry taskId taskMessage ↔
      telemetry.publishers.Nodup ∧ runtime.Countable telemetry.publishers
        (transfer runtime address exchange taskMessage) := by
  rcases reports_startOperation telemetry taskId address.host address.port with
    ⟨metrics, traced, none⟩
  rw [OperationReported, sendTask]
  simp only [exchangeMessages]
  cases ended : transfer runtime address exchange taskMessage with
  | interrupted thrown sent received => exact reportedOnce_interrupted traced none thrown _ _
  | nothingSent => exact reportedOnce_nothingSent traced _ _
  | answered resultData sent =>
      have positive := sent_pos_of_answered ended
      rcases decoded : runtime.deserialize resultData with thrown | ⟨result, isTaskMessage⟩
      · have refused := not_reportedOnce_undecoded traced none.1 positive decoded
        simpa [SocketRuntime.Countable, decoded, Transfer.sent, Transfer.received] using refused
      · have counted := reportedOnce_decoded traced positive decoded
        simpa [SocketRuntime.Countable, decoded, Transfer.sent, Transfer.received] using counted

end Operations

/-- The server closes the connection without a reply: the publisher is called by both handlers. -/
theorem not_operationReported_noReply :
    ¬ OperationReported wireRuntime ⟨"localhost", 8990, 4096⟩ { incoming := ⟨[], fun _ => 0⟩ }
      { publishers := [0] } "140213" (.task 7) := by
  have nothing : receiveDataFromSocketOrRaise ⟨[], fun _ => 0⟩ 4096 =
      .ok ([], ⟨[], fun _ => 0⟩) := by
    show receiveChunksOrRaise 4096 0 [] ⟨[], fun _ => 0⟩ = _
    rw [receiveChunksOrRaise, if_neg (by decide)]
  have written : sendDataOverSocket [] [120, 1, 7] (some 4096) =
      (toBytes 8 3).map fun header => ([] ++ header ++ [120, 1, 7], 3) :=
    sendDataOverSocket_eq [] [120, 1, 7] (by decide)
  rw [toBytes_eq_some (by decide)] at written
  have sent : send ⟨"localhost", 8990, 4096⟩ { incoming := ⟨[], fun _ => 0⟩ } [120, 1, 7] =
      .ok 3 := by
    rw [send, written]
    rfl
  have received : receive ⟨"localhost", 8990, 4096⟩ { incoming := ⟨[], fun _ => 0⟩ } =
      .ok [] := by
    rw [receive, nothing]
  have serialized : wireRuntime.serializeObject (.task 7) = .ok [120, 1, 7] := rfl
  apply @not_operationReported_of_undecoded _ _ _ _ _ _ _ [] 3
    (.readable .zlibError "Error -3 while decompressing data")
  · simp only [transfer, serialized, sent, received]
    rfl
  · rfl

end RemoteAddress

end EventPipeline
