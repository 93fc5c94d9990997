import EventPipeline.Foundation.ByteStream

/-! # Messages over a socket

A message is sent as its length in eight bytes and then its bytes, in one piece or in chunks.
The receiver reads the length with a single `recv` and then the message chunk by chunk.
-/

namespace EventPipeline

/-! ## Sending -/

/-- The loop of `send_data_over_socket`. `streamFd` is the part of the message that has not been
read, and `sock` is what has been written to the socket. -/
def sendChunks (dataSize chunkSize : Nat) (streamFd sock : Bytes) (sent : Nat) : Bytes × Nat :=
  if sent < dataSize then
    if streamFd.take chunkSize = [] then (sock, sent)
    else
      sendChunks dataSize chunkSize (streamFd.drop chunkSize) (sock ++ streamFd.take chunkSize)
        (sent + (streamFd.take chunkSize).length)
  else (sock, sent)
termination_by dataSize - sent
decreasing_by
  rename_i unfinished more
  have positive := List.length_pos_iff.mpr more
  omega

/-- What has been written to the socket afterwards, and the number that is returned. `none`
stands for an `OverflowError`. -/
def sendDataOverSocket (sock data : Bytes) (chunkSize : Option Int) : Option (Bytes × Nat) :=
  (toBytes 8 data.length).map fun header =>
    match chunkSize with
    | none => (sock ++ header ++ data, data.length)
    | some size => sendChunks data.length size.natAbs data (sock ++ header) 0

theorem sendChunks_eq {chunkSize : Nat} (positive : 0 < chunkSize) (streamFd sock : Bytes)
    (sent : Nat) :
    sendChunks (sent + streamFd.length) chunkSize streamFd sock sent =
      (sock ++ streamFd, sent + streamFd.length) := by
  induction unread : streamFd.length using Nat.strong_induction_on
    generalizing streamFd sock sent with
  | _ size induction =>
      subst unread
      unfold sendChunks
      cases streamFd with
      | nil => simp
      | cons byte rest =>
          have chunk : ((byte :: rest).take chunkSize).length +
              ((byte :: rest).drop chunkSize).length = (byte :: rest).length := by
            rw [← List.length_append, List.take_append_drop]
          have some : 0 < ((byte :: rest).take chunkSize).length := by
            rw [List.length_take]
            exact Nat.lt_min.mpr ⟨positive, Nat.succ_pos _⟩
          rw [if_pos (by simp), if_neg (List.length_pos_iff.mp some)]
          have later := induction ((byte :: rest).drop chunkSize).length (by omega)
            ((byte :: rest).drop chunkSize) (sock ++ (byte :: rest).take chunkSize)
            (sent + ((byte :: rest).take chunkSize).length) rfl
          rw [Nat.add_assoc, chunk] at later
          rw [later, List.append_assoc, List.take_append_drop]

theorem sendDataOverSocket_eq (sock data : Bytes) {chunkSize : Option Int}
    (nonzero : chunkSize ≠ some 0) :
    sendDataOverSocket sock data chunkSize =
      (toBytes 8 data.length).map fun header => (sock ++ header ++ data, data.length) := by
  unfold sendDataOverSocket
  congr 1
  funext header
  cases chunkSize with
  | none => rfl
  | some size =>
      have positive : 0 < size.natAbs := Int.natAbs_pos.mpr fun zero => nonzero (zero ▸ rfl)
      have sent := sendChunks_eq positive data (sock ++ header) 0
      rw [Nat.zero_add] at sent
      exact sent

/-! ## Receiving -/

def receiveChunks (chunkSize resultSize : Nat) (resultData : Bytes) (sock : ByteStream) :
    Bytes × ByteStream :=
  if resultData.length < resultSize then
    match sock.recv (min chunkSize (resultSize - resultData.length)) with
    | ([], sock) => (resultData, sock)
    | (byte :: chunk, sock) =>
        receiveChunks chunkSize resultSize (resultData ++ byte :: chunk) sock
  else (resultData, sock)
termination_by resultSize - resultData.length
decreasing_by simp; omega

def receiveDataFromSocket (sock : ByteStream) (chunkSize : Nat) : Bytes × ByteStream :=
  match sock.recv 8 with
  | (header, sock) => receiveChunks chunkSize (fromBytes header) [] sock

theorem receiveChunks_append (chunkSize resultSize : Nat) (resultData : Bytes)
    (sock : ByteStream) :
    (receiveChunks chunkSize resultSize resultData sock).1 ++
        (receiveChunks chunkSize resultSize resultData sock).2.incoming =
      resultData ++ sock.incoming := by
  fun_induction receiveChunks chunkSize resultSize resultData sock with
  | case1 resultData sock unfinished next read =>
      have conserved := sock.recv_append (min chunkSize (resultSize - resultData.length))
      rw [read] at conserved
      rw [← conserved]
      rfl
  | case2 resultData sock unfinished byte chunk next read induction =>
      have conserved := sock.recv_append (min chunkSize (resultSize - resultData.length))
      rw [read] at conserved
      rw [induction, ← conserved, List.append_assoc]
  | case3 => rfl

theorem receiveChunks_eq {chunkSize resultSize : Nat} (positive : 0 < chunkSize)
    {resultData missing following : Bytes} {sock : ByteStream}
    (size : resultSize = resultData.length + missing.length)
    (coming : sock.incoming = missing ++ following) :
    (receiveChunks chunkSize resultSize resultData sock).1 = resultData ++ missing ∧
      (receiveChunks chunkSize resultSize resultData sock).2.incoming = following := by
  fun_induction receiveChunks chunkSize resultSize resultData sock generalizing missing with
  | case1 resultData sock unfinished next read =>
      have asked : 0 < min chunkSize (resultSize - resultData.length) := by omega
      have nonempty : missing ≠ [] := by
        rintro rfl
        simp at size
        omega
      have ready := sock.recv_ne_nil asked (by simp [coming, nonempty])
      rw [read] at ready
      exact absurd rfl ready
  | case2 resultData sock unfinished byte chunk next read induction =>
      have conserved := sock.recv_append (min chunkSize (resultSize - resultData.length))
      have short := sock.length_recv_le (min chunkSize (resultSize - resultData.length))
      rw [read] at conserved short
      simp only at conserved short
      rw [coming] at conserved
      have within : (byte :: chunk).length ≤ missing.length := by omega
      rcases List.append_eq_append_iff.mp conserved with
        ⟨rest, same, later⟩ | ⟨extra, same, later⟩
      · have received := @induction rest (by rw [size, same]; simp; omega) later
        rw [same, ← List.append_assoc]
        exact received
      · have empty : extra = [] := by
          rw [same, List.length_append] at within
          exact List.length_eq_zero_iff.mp (by omega)
        subst empty
        rw [List.append_nil] at same
        rw [List.nil_append] at later
        have received := @induction [] (by rw [size, ← same]; simp) later.symm
        rw [List.append_nil] at received
        rw [← same]
        exact received
  | case3 resultData sock finished =>
      have empty : missing = [] := List.length_eq_zero_iff.mp (by omega)
      subst empty
      exact ⟨(List.append_nil _).symm, coming⟩

theorem receiveDataFromSocket_eq {chunkSize : Nat} (positive : 0 < chunkSize)
    {header data following : Bytes} (eight : header.length = 8)
    (announced : fromBytes header = data.length) {cut : Nat → Nat} (whole : 8 ≤ cut 0 + 1) :
    (receiveDataFromSocket ⟨header ++ data ++ following, cut⟩ chunkSize).1 = data ∧
      (receiveDataFromSocket ⟨header ++ data ++ following, cut⟩ chunkSize).2.incoming =
        following := by
  have first : ByteStream.recv ⟨header ++ data ++ following, cut⟩ 8 =
      (header, ⟨data ++ following, fun read => cut (read + 1)⟩) := by
    have same : ByteStream.piece ⟨header ++ data ++ following, cut⟩ 8 = header.length := by
      rw [eight]
      exact Nat.min_eq_right whole
    rw [ByteStream.recv, same, List.append_assoc, List.take_left, List.drop_left]
  simp only [receiveDataFromSocket, first, announced]
  exact receiveChunks_eq positive (by simp) rfl

/-! ## Round trips -/

/-- The message is sent, and it is received when the socket is read in pieces: what was sent
comes out, what follows is not read, and the sender has counted the bytes of the message. -/
def RoundTrips (data following : Bytes) (sendSize : Option Int) (receiveSize : Nat)
    (cut : Nat → Nat) : Prop :=
  ∃ written, sendDataOverSocket [] data sendSize = some (written, data.length) ∧
    (receiveDataFromSocket ⟨written ++ following, cut⟩ receiveSize).1 = data ∧
    (receiveDataFromSocket ⟨written ++ following, cut⟩ receiveSize).2.incoming = following

theorem sendDataOverSocket_eq_some {data : Bytes} (small : data.length < 2 ^ 64)
    {sendSize : Option Int} (nonzero : sendSize ≠ some 0) :
    ∃ header, toBytes 8 data.length = some header ∧
      sendDataOverSocket [] data sendSize = some (header ++ data, data.length) := by
  have fits : data.length < 256 ^ 8 := small.trans_eq (by norm_num)
  refine ⟨_, toBytes_eq_some fits, ?_⟩
  rw [sendDataOverSocket_eq [] data nonzero, toBytes_eq_some fits]
  rfl

section RoundTrip

variable {data following : Bytes} (small : data.length < 2 ^ 64) {sendSize : Option Int}
  (nonzero : sendSize ≠ some 0) {receiveSize : Nat} {cut : Nat → Nat}
include small nonzero

/-- The bytes that are read and the bytes that are left are all that was sent, so the length
has been read whole. -/
theorem RoundTrips.whole (trip : RoundTrips data following sendSize receiveSize cut) :
    8 ≤ cut 0 + 1 := by
  rcases sendDataOverSocket_eq_some small nonzero with ⟨header, written, sent⟩
  rcases trip with ⟨stream, same, received, unread⟩
  rw [sent] at same
  cases same
  have eight := length_of_toBytes written
  have first := ByteStream.recv_append ⟨header ++ data ++ following, cut⟩ 8
  have later := receiveChunks_append receiveSize
    (fromBytes (ByteStream.recv ⟨header ++ data ++ following, cut⟩ 8).1) []
    (ByteStream.recv ⟨header ++ data ++ following, cut⟩ 8).2
  rw [receiveDataFromSocket] at received unread
  rw [received, unread, List.nil_append] at later
  rw [← later] at first
  have lengths := congrArg List.length first
  have short : (ByteStream.recv ⟨header ++ data ++ following, cut⟩ 8).1.length ≤
      min (cut 0 + 1) 8 := List.length_take_le _ _
  simp only [List.length_append] at lengths
  omega

theorem RoundTrips.of_whole (positive : 1 ≤ receiveSize) (whole : 8 ≤ cut 0 + 1) :
    RoundTrips data following sendSize receiveSize cut := by
  rcases sendDataOverSocket_eq_some small nonzero with ⟨header, written, sent⟩
  refine ⟨header ++ data, sent, ?_⟩
  exact receiveDataFromSocket_eq positive (length_of_toBytes written)
    (fromBytes_of_toBytes written) whole

end RoundTrip

/-- A message makes the round trip exactly when the transport has all eight bytes of the length
ready at the first read. -/
theorem roundTrips_iff (data following : Bytes) (small : data.length < 2 ^ 64)
    (sendSize : Option Int) (nonzero : sendSize ≠ some 0) (receiveSize : Nat)
    (positive : 1 ≤ receiveSize) (cut : Nat → Nat) :
    RoundTrips data following sendSize receiveSize cut ↔ 8 ≤ cut 0 + 1 := by
  constructor
  · exact RoundTrips.whole small nonzero
  · exact RoundTrips.of_whole small nonzero positive

/-- Five bytes, sent in chunks of two and received two by two behind a whole length. -/
theorem roundTrips_fiveBytes :
    RoundTrips [7, 8, 9, 10, 11] [1, 2] (some 2) 2 (fun _ => 7) :=
  (roundTrips_iff [7, 8, 9, 10, 11] [1, 2] (by decide) (some 2) (by decide) 2 (by decide) _).mpr
    (by decide)

/-- The transport delivers half of the length first, and the message is taken to be empty. -/
theorem not_roundTrips_splitLength : ¬ RoundTrips [7] [] none 1024 (fun _ => 3) := by
  intro trip
  have whole := RoundTrips.whole (by decide) (by decide) trip
  omega

end EventPipeline
