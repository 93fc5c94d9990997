import Mathlib.Data.Nat.Digits.Lemmas

/-! # Bytes of numbers and streams read in pieces

A number in a fixed number of bytes, the highest first. A stream of bytes that a reader gets in
pieces: each time it asks for at most a number of bytes, and the transport decides how many of
them it gets.
-/

namespace EventPipeline

abbrev Bytes := List UInt8

/-! ## Big-endian numbers -/

/-- The bytes of a number. `none` stands for a number that needs more of them. -/
def toBytes (width value : Nat) : Option Bytes :=
  if value < 256 ^ width then
    some ((Nat.digitsAppend 256 width value).map UInt8.ofNat).reverse
  else none

def fromBytes (bytes : Bytes) : Nat :=
  Nat.ofDigits 256 (bytes.reverse.map UInt8.toNat)

theorem toBytes_eq_some {width value : Nat} (small : value < 256 ^ width) :
    toBytes width value =
      some ((Nat.digitsAppend 256 width value).map UInt8.ofNat).reverse :=
  if_pos small

theorem length_of_toBytes {width value : Nat} {bytes : Bytes}
    (written : toBytes width value = some bytes) : bytes.length = width := by
  by_cases small : value < 256 ^ width
  · rw [toBytes_eq_some small] at written
    cases written
    rw [List.length_reverse, List.length_map]
    exact Nat.length_digitsAppend (by omega) width small
  · rw [toBytes, if_neg small] at written
    cases written

theorem fromBytes_of_toBytes {width value : Nat} {bytes : Bytes}
    (written : toBytes width value = some bytes) : fromBytes bytes = value := by
  by_cases small : value < 256 ^ width
  · rw [toBytes_eq_some small] at written
    cases written
    have digits : ((Nat.digitsAppend 256 width value).map UInt8.ofNat).map UInt8.toNat =
        Nat.digitsAppend 256 width value := by
      rw [List.map_map]
      conv_rhs => rw [← List.map_id (Nat.digitsAppend 256 width value)]
      apply List.map_congr_left
      intro digit member
      have bound := Nat.lt_of_mem_digitsAppend (by omega : 1 < 256) width digit member
      exact UInt8.toNat_ofNat_of_lt bound
    rw [fromBytes, List.reverse_reverse, digits, Nat.digitsAppend,
      Nat.ofDigits_append_replicate_zero]
    exact Nat.ofDigits_digits 256 value
  · rw [toBytes, if_neg small] at written
    cases written

/-! ## Fragmented streams -/

/-- The bytes that are still to be read, and how the transport cuts them: one less than the
number of bytes that it has ready at each of the coming reads. -/
structure ByteStream where
  incoming : Bytes
  cut : Nat → Nat

namespace ByteStream

/-- How many bytes the next read gets when it asks for at most `limit`. -/
def piece (stream : ByteStream) (limit : Nat) : Nat :=
  min (stream.cut 0 + 1) limit

/-- Between one and `limit` of the next bytes, or nothing at the end of the stream. -/
def recv (stream : ByteStream) (limit : Nat) : Bytes × ByteStream :=
  (stream.incoming.take (stream.piece limit),
    ⟨stream.incoming.drop (stream.piece limit), fun read => stream.cut (read + 1)⟩)

theorem piece_le (stream : ByteStream) (limit : Nat) : stream.piece limit ≤ limit :=
  Nat.min_le_right _ _

theorem piece_pos (stream : ByteStream) {limit : Nat} (asked : 0 < limit) :
    0 < stream.piece limit :=
  Nat.lt_min.mpr ⟨Nat.succ_pos _, asked⟩

theorem recv_append (stream : ByteStream) (limit : Nat) :
    (stream.recv limit).1 ++ (stream.recv limit).2.incoming = stream.incoming :=
  List.take_append_drop _ _

theorem length_recv_le (stream : ByteStream) (limit : Nat) :
    (stream.recv limit).1.length ≤ limit :=
  (List.length_take_le _ _).trans (stream.piece_le limit)

theorem recv_ne_nil (stream : ByteStream) {limit : Nat} (asked : 0 < limit)
    (unread : stream.incoming ≠ []) : (stream.recv limit).1 ≠ [] := by
  have ready := stream.piece_pos asked
  have some := List.length_pos_iff.mpr unread
  rw [← List.length_pos_iff, recv, List.length_take]
  exact Nat.lt_min.mpr ⟨ready, some⟩

end ByteStream

end EventPipeline
