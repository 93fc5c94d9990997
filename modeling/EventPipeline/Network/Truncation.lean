import EventPipeline.Network.Framing
import EventPipeline.Network.TaskMessage

/-! # Messages that are cut off

A stream may end before a message that has been announced is complete. The receiver stops at the
end of the stream as at the end of the message; all that it can refuse is the size of its chunks.
-/

namespace EventPipeline

/-- `sock.recv(bufsize)` -/
def ByteStream.recvOrRaise (sock : ByteStream) (bufsize : Int) :
    Except Thrown (Bytes × ByteStream) :=
  if bufsize < 0 then .error (.valueError "negative buffersize in recv")
  else .ok (sock.recv bufsize.toNat)

/-- The loop of `receive_data_from_socket`, with chunks of any size. -/
def receiveChunksOrRaise (chunkSize : Int) (resultSize : Nat) (resultData : Bytes)
    (sock : ByteStream) : Except Thrown (Bytes × ByteStream) :=
  if resultData.length < resultSize then
    match sock.recvOrRaise (min chunkSize (resultSize - resultData.length : Nat)) with
    | .error error => .error error
    | .ok ([], sock) => .ok (resultData, sock)
    | .ok (byte :: chunk, sock) =>
        receiveChunksOrRaise chunkSize resultSize (resultData ++ byte :: chunk) sock
  else .ok (resultData, sock)
termination_by resultSize - resultData.length
decreasing_by simp; omega

def receiveDataFromSocketOrRaise (sock : ByteStream) (chunkSize : Int) :
    Except Thrown (Bytes × ByteStream) :=
  match sock.recv 8 with
  | (header, sock) => receiveChunksOrRaise chunkSize (fromBytes header) [] sock

/-- The stream ends before the eight bytes of the length and the bytes that they announce. -/
def ByteStream.CutOff (sock : ByteStream) : Prop :=
  sock.incoming.length < 8 + fromBytes (sock.incoming.take 8)

/-- A message that is cut off is refused. -/
def TruncationDetected (sock : ByteStream) (chunkSize : Int) : Prop :=
  sock.CutOff → ∃ error, receiveDataFromSocketOrRaise sock chunkSize = .error error

/-! ## Chunks of any size -/

theorem receiveChunksOrRaise_of_nonneg {chunkSize : Int} (nonneg : 0 ≤ chunkSize)
    (resultSize : Nat) (resultData : Bytes) (sock : ByteStream) :
    receiveChunksOrRaise chunkSize resultSize resultData sock =
      .ok (receiveChunks chunkSize.toNat resultSize resultData sock) := by
  have asked : ∀ missing : Nat, (min chunkSize missing).toNat = min chunkSize.toNat missing := by
    intro missing
    omega
  fun_induction receiveChunks chunkSize.toNat resultSize resultData sock with
  | case1 resultData sock unfinished next read =>
      rw [receiveChunksOrRaise, if_pos unfinished, ByteStream.recvOrRaise, if_neg (by omega),
        asked, read]
  | case2 resultData sock unfinished byte chunk next read induction =>
      rw [receiveChunksOrRaise, if_pos unfinished, ByteStream.recvOrRaise, if_neg (by omega),
        asked, read]
      exact induction
  | case3 resultData sock finished =>
      rw [receiveChunksOrRaise, if_neg finished]

theorem receiveChunksOrRaise_of_neg {chunkSize : Int} (negative : chunkSize < 0)
    (resultSize : Nat) (sock : ByteStream) :
    receiveChunksOrRaise chunkSize resultSize [] sock =
      if resultSize = 0 then .ok ([], sock)
      else .error (.valueError "negative buffersize in recv") := by
  rw [receiveChunksOrRaise]
  by_cases empty : resultSize = 0
  · rw [if_pos empty, if_neg (by simp [empty])]
  · rw [if_neg empty, if_pos (by simp; omega), ByteStream.recvOrRaise, if_pos (by omega)]

theorem receiveDataFromSocketOrRaise_of_nonneg (sock : ByteStream) {chunkSize : Int}
    (nonneg : 0 ≤ chunkSize) :
    receiveDataFromSocketOrRaise sock chunkSize =
      .ok (receiveDataFromSocket sock chunkSize.toNat) :=
  receiveChunksOrRaise_of_nonneg nonneg _ _ _

theorem receiveDataFromSocketOrRaise_eq_error_iff (sock : ByteStream) (chunkSize : Int) :
    (∃ error, receiveDataFromSocketOrRaise sock chunkSize = .error error) ↔
      chunkSize < 0 ∧ fromBytes (sock.recv 8).1 ≠ 0 := by
  by_cases negative : chunkSize < 0
  · have read : receiveDataFromSocketOrRaise sock chunkSize = _ :=
      receiveChunksOrRaise_of_neg negative (fromBytes (sock.recv 8).1) (sock.recv 8).2
    rw [read]
    split
    · rename_i empty
      simp [empty]
    · rename_i more
      simp [negative, more]
  · rw [receiveDataFromSocketOrRaise_of_nonneg sock (by omega)]
    simp [negative]

/-- A message that is cut off is refused exactly if the size of the chunks is negative and the
first read announces anything. -/
theorem truncationDetected_iff (sock : ByteStream) (chunkSize : Int) :
    TruncationDetected sock chunkSize ↔
      (sock.CutOff → chunkSize < 0 ∧ fromBytes (sock.recv 8).1 ≠ 0) := by
  apply imp_congr_right
  intro cutOff
  exact receiveDataFromSocketOrRaise_eq_error_iff sock chunkSize

/-- Five bytes are announced, and the stream ends after two of them. -/
theorem not_truncationDetected_twoOfFive :
    ¬ TruncationDetected ⟨[0, 0, 0, 0, 0, 0, 0, 5, 1, 2], fun _ => 7⟩ 4096 := by
  intro detected
  have cutOff : ByteStream.CutOff ⟨[0, 0, 0, 0, 0, 0, 0, 5, 1, 2], fun _ => 7⟩ := by
    show 10 < 8 + fromBytes [0, 0, 0, 0, 0, 0, 0, 5]
    decide
  have refused := (receiveDataFromSocketOrRaise_eq_error_iff _ _).mp (detected cutOff)
  omega

end EventPipeline
