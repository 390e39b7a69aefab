import LegLink.Frame.Buffer
import LegLink.Proofs.Decoding

set_option autoImplicit false

namespace LegLink.RxBuffer

theorem ext (a b : RxBuffer) (same : a.bytes = b.bytes) : a = b := by
  cases a
  cases b
  cases same
  rfl

theorem bytes_push (b : RxBuffer) (byte : UInt8) (room : b.bytes.length < Frame.maxSize) :
    (b.push byte).bytes = b.bytes ++ [byte] := by
  have fits : (b.bytes ++ [byte]).length ≤ Frame.maxSize := by
    rw [List.length_append]
    exact room
  unfold push append?
  rw [dif_pos fits]
  rfl

theorem length_of_decode (b : RxBuffer) (found : Option Packet) (rest : Bytes)
    (decoded : Frame.decode b.bytes = (found, rest)) : rest.length ≤ Frame.maxSize := by
  have shorter := Frame.length_decode_le b.bytes
  rw [decoded] at shorter
  exact Nat.le_trans shorter b.fits

theorem decode_eq (b : RxBuffer) (found : Option Packet) (rest : Bytes)
    (decoded : Frame.decode b.bytes = (found, rest)) :
    b.decode = (found, ⟨rest, length_of_decode b found rest decoded⟩) := by
  unfold decode
  simp only [decoded]

theorem bytes_of_decode (b rest : RxBuffer) (found : Option Packet)
    (decoded : b.decode = (found, rest)) : Frame.decode b.bytes = (found, rest.bytes) := by
  cases decoded
  rfl

theorem decode_kept (b rest : RxBuffer) (decoded : b.decode = (none, rest)) :
    rest.decode = (none, rest) :=
  decode_eq rest none rest.bytes
    (Frame.decode_kept b.bytes rest.bytes (bytes_of_decode b rest none decoded))

theorem room_of_waiting (b rest : RxBuffer) (decoded : b.decode = (none, rest)) :
    rest.bytes.length < Frame.maxSize :=
  Frame.length_kept_lt b.bytes rest.bytes (bytes_of_decode b rest none decoded)

theorem bytes_append (b b' : RxBuffer) (data : Bytes) (room : b.append? data = some b') :
    b'.bytes = b.bytes ++ data := by
  unfold append? at room
  split at room
  · cases room
    rfl
  · cases room

theorem append_waiting (b : RxBuffer) (byte : UInt8) (waiting : b.decode = (none, b)) :
    b.append? [byte] = some (b.push byte) := by
  have fits : (b.bytes ++ [byte]).length ≤ Frame.maxSize := by
    rw [List.length_append]
    exact room_of_waiting b b waiting
  have room : b.append? [byte] = some ⟨b.bytes ++ [byte], fits⟩ := dif_pos fits
  rw [push, room]
  rfl

theorem drain_waiting (b : RxBuffer) : b.drain.2.decode = (none, b.drain.2) := by
  fun_induction drain b with
  | case1 b rest found => exact decode_kept b rest found
  | case2 b p rest found shorter packets final recursion ih => rwa [recursion] at ih

theorem drain_bytes (b : RxBuffer) : Frame.decodeAll b.bytes = (b.drain.1, b.drain.2.bytes) := by
  fun_induction drain b with
  | case1 b rest found => exact Frame.decode_all_none _ _ (bytes_of_decode b rest none found)
  | case2 b p rest found shorter packets final recursion ih =>
    rw [Frame.decode_all_some p _ _ (bytes_of_decode b rest (some p) found), ih, recursion]

theorem length_drain_le (b : RxBuffer) : b.drain.2.length ≤ b.length := by
  fun_induction drain b with
  | case1 b rest found =>
    have shorter := length_decode_le b
    rwa [found] at shorter
  | case2 b p rest found shorter packets final recursion ih =>
    rw [recursion] at ih
    exact Nat.le_trans ih (Nat.le_of_lt shorter)

end LegLink.RxBuffer
