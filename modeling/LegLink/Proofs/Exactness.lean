import LegLink.Proofs.Feeding
import LegLink.Proofs.Offsets

set_option autoImplicit false

namespace LegLink

namespace Frame

def Barren (s : Bytes) (n : Nat) : Prop :=
  ∀ i < n, ∀ (p : Packet) (after : Bytes), s.drop i ≠ p.frame ++ after

theorem barren_zero (s : Bytes) : Barren s 0 := by
  intro i none
  cases none

theorem barren_cons (byte : UInt8) (s : Bytes) (n : Nat)
    (here : ∀ (p : Packet) (after : Bytes), byte :: s ≠ p.frame ++ after) (later : Barren s n) :
    Barren (byte :: s) (n + 1) := by
  intro i inside
  cases i with
  | zero => exact here
  | succ i => exact later i (Nat.lt_of_succ_lt_succ inside)

theorem noise_ne_frame (byte : UInt8) (rest : Bytes) (other : byte ≠ stx) (p : Packet)
    (after : Bytes) : byte :: rest ≠ p.frame ++ after := by
  intro whole
  rw [p.frame_eq] at whole
  exact other (List.cons.inj whole).1

-- By induction on the bytes, which are what was dropped, the frame that was taken, and the rest.
theorem decode_split (s rest : Bytes) (found : Option Packet) (decoded : decode s = (found, rest)) :
    ∃ d, s = d ++ (found.elim [] Packet.frame ++ rest) ∧ Barren s d.length := by
  cases front s with
  | empty =>
    cases decoded
    exact ⟨[], rfl, barren_zero _⟩
  | noise byte tail other =>
    rw [decode_noise byte tail other] at decoded
    obtain ⟨d, split, barren⟩ := decode_split tail rest found decoded
    have none := noise_ne_frame byte tail other
    exact ⟨byte :: d, congrArg (byte :: ·) split, barren_cons byte tail d.length none barren⟩
  | short tail more =>
    rw [decode_short tail more] at decoded
    cases decoded
    exact ⟨[], rfl, barren_zero _⟩
  | stray tail enough none =>
    rw [decode_stray tail enough none] at decoded
    obtain ⟨d, split, barren⟩ := decode_split tail rest found decoded
    exact ⟨stx :: d, congrArg (stx :: ·) split, barren_cons stx tail d.length none barren⟩
  | frame p tail =>
    rw [decode_frame] at decoded
    cases decoded
    exact ⟨[], rfl, barren_zero _⟩
termination_by s.length

theorem payload_front (p : Packet) (d after : Bytes) :
    headerSize + p.payload.length = ((d ++ (p.frame ++ after)).getD (d.length + 1) 0).toNat ∧
      p.payload.bytes = ((d ++ (p.frame ++ after)).drop (d.length + 5)).take
        (((d ++ (p.frame ++ after)).getD (d.length + 1) 0).toNat - headerSize) := by
  have count : (d ++ (p.frame ++ after)).getD (d.length + 1) 0 = p.count := by
    rw [List.getD_eq_getElem?_getD, List.getElem?_append_right (Nat.le_add_right _ _),
      Nat.add_sub_cancel_left, p.frame_eq]
    rfl
  have behind : (d ++ (p.frame ++ after)).drop (d.length + 5) =
      p.payload.bytes ++ ([(Checksum.crc16 p.body).toUInt8,
        (Checksum.crc16 p.body >>> 8).toUInt8, etx] ++ after) := by
    rw [← List.drop_drop, List.drop_left, p.frame_eq]
    simp
  have size : p.count.toNat - headerSize = p.payload.bytes.length := by
    rw [p.to_nat_count, Nat.add_sub_cancel_left]
    rfl
  refine ⟨?_, ?_⟩
  · rw [count, p.to_nat_count]
  · rw [count, behind, size, List.take_left]

def stream (sections : List (Bytes × Packet)) (last : Bytes) : Bytes :=
  sections.flatMap (fun part => part.1 ++ part.2.frame) ++ last

theorem decode_all_quiet (noise : Bytes) (quiet : stx ∉ noise) : decodeAll noise = ([], []) := by
  induction noise with
  | nil => exact decode_all_nil
  | cons byte noise ih =>
    have other : byte ≠ stx := fun marker => quiet (by rw [marker]; exact List.mem_cons_self)
    rw [decode_all_noise byte noise other]
    exact ih fun later => quiet (List.mem_cons_of_mem _ later)

theorem decode_all_stream (sections : List (Bytes × Packet)) (last : Bytes)
    (quiet : ∀ part ∈ sections, stx ∉ part.1) (quietLast : stx ∉ last) :
    decodeAll (stream sections last) = (sections.map Prod.snd, []) := by
  induction sections with
  | nil => exact decode_all_quiet last quietLast
  | cons part sections ih =>
    have first := decode_frame_after part.1 part.2 (stream sections last)
      (quiet part List.mem_cons_self)
    have later := ih fun other member => quiet other (List.mem_cons_of_mem _ member)
    have split : stream (part :: sections) last =
        part.1 ++ (part.2.frame ++ stream sections last) := by
      simp [stream]
    rw [split, decode_all_some part.2 _ _ first, later]
    rfl

end Frame

namespace RxBuffer

/-- Frames among noise come back one by one from a buffer that is empty in the end. The other way
round, a packet that is found was a whole frame, and neither it nor a search without result drops a
byte that begins one; on the way every index, range and difference is within its bounds. -/
theorem framing_exact :
    (∀ (sections : List (Bytes × Packet)) (last : Bytes),
      (∀ part ∈ sections, Frame.stx ∉ part.1) → Frame.stx ∉ last →
      ∃ timed, feed (Frame.stream sections last).zipIdx .empty = (.ok timed, .empty) ∧
        timed.map Prod.snd = sections.map Prod.snd) ∧
    ∀ b rest : RxBuffer,
      (∀ p, b.decode = (some p, rest) →
        ∃ d, b.bytes = d ++ (p.frame ++ rest.bytes) ∧ Frame.Barren b.bytes d.length ∧
          Frame.headerSize + p.payload.length = (b.bytes.getD (d.length + 1) 0).toNat ∧
          p.payload.bytes = (b.bytes.drop (d.length + 5)).take
            ((b.bytes.getD (d.length + 1) 0).toNat - Frame.headerSize)) ∧
      (b.decode = (none, rest) →
        ∃ d, b.bytes = d ++ rest.bytes ∧ Frame.Barren b.bytes d.length) ∧
      Frame.roundsChecked (b.length + 1) b.bytes = some (some (b.decode.1, b.decode.2.bytes)) := by
  refine ⟨?_, ?_⟩
  · intro sections last quiet quietLast
    obtain ⟨timed, rest, fed, _, packets, bytes⟩ := feed_decode_all (Frame.stream sections last)
    rw [Frame.decode_all_stream sections last quiet quietLast] at packets bytes
    have drained : rest = .empty := ext rest .empty bytes
    exact ⟨timed, drained ▸ fed, packets⟩
  · intro b rest
    refine ⟨?_, ?_, Frame.rounds_checked_decode b.bytes⟩
    · intro p found
      obtain ⟨d, split, barren⟩ := Frame.decode_split _ _ _ (bytes_of_decode b rest (some p) found)
      obtain ⟨size, payload⟩ := Frame.payload_front p d rest.bytes
      change b.bytes = d ++ (p.frame ++ rest.bytes) at split
      rw [← split] at size payload
      exact ⟨d, split, barren, size, payload⟩
    · intro missed
      exact Frame.decode_split _ _ _ (bytes_of_decode b rest none missed)

theorem framing_exact_nested :
    ∃ inner outer : Packet, outer.payload.bytes = inner.frame ∧
      (∀ part ∈ [([0x00], inner), ([], outer)], Frame.stx ∉ part.1) ∧ Frame.stx ∉ [Frame.etx] ∧
      (∃ timed, feed (Frame.stream [([0x00], inner), ([], outer)] [Frame.etx]).zipIdx .empty =
          (.ok timed, .empty) ∧ timed.map Prod.snd = [inner, outer]) ∧
      ∃ b : RxBuffer, b.bytes = 0x00 :: inner.frame ∧ b.decode = (some inner, .empty) ∧
        ∃ d, b.bytes = d ++ (inner.frame ++ []) ∧ Frame.Barren b.bytes d.length := by
  let inner : Packet := ⟨1, 0x08, .empty⟩
  let outer : Packet := ⟨2, 0x90, ⟨inner.frame, by decide +kernel⟩⟩
  let b : RxBuffer := ⟨0x00 :: inner.frame, by decide +kernel⟩
  have quiet : ∀ part ∈ [([0x00], inner), ([], outer)], Frame.stx ∉ part.1 := by
    simp [Frame.stx]
  have quietLast : Frame.stx ∉ [Frame.etx] := by decide
  have found : b.decode = (some inner, .empty) := by decide +kernel
  have streams := framing_exact.1 [([0x00], inner), ([], outer)] [Frame.etx] quiet quietLast
  obtain ⟨d, split, barren, _⟩ := (framing_exact.2 b .empty).1 inner found
  exact ⟨inner, outer, rfl, quiet, quietLast, streams, b, rfl, found, d, split, barren⟩

end RxBuffer
end LegLink
