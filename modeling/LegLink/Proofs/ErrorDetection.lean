import LegLink.Proofs.Streaming
import LegLink.Proofs.Syndrome

set_option autoImplicit false

namespace LegLink

namespace Checksum

open Bytes

theorem difference_append (a b c d : Bytes) (same : a.length = b.length) :
    difference (a ++ c) (b ++ d) = difference a b ++ difference c d :=
  List.zipWith_append same

theorem length_difference (a b : Bytes) (same : a.length = b.length) :
    (difference a b).length = a.length := by
  rw [difference, List.length_zipWith, ← same, Nat.min_self]

theorem difference_of_word (v w : UInt16) :
    difference (ofWord v) (ofWord w) = ofWord (v ^^^ w) := by
  simp [difference, ofWord, UInt16.shiftRight_xor]

theorem to_bit_vec_crc16 (data : Bytes) : (crc16 data).toBitVec = register preset data := rfl

theorem halves (w : UInt16) :
    (w >>> 8).toUInt8.toBitVec.setWidth 16 <<< 8 ^^^ w.toUInt8.toBitVec.setWidth 16 =
      w.toBitVec := by
  apply BitVec.eq_of_getLsbD_eq
  intro i inside
  simp only [UInt16.toBitVec_toUInt8, UInt16.toBitVec_shiftRight, BitVec.getLsbD_xor,
    BitVec.getLsbD_shiftLeft, BitVec.getLsbD_setWidth, BitVec.ushiftRight_eq']
  by_cases low : i < 8
  · simp [low, inside]
  · have back : 8 + (i - 8) = i := by omega
    have small : i - 8 < 8 := by omega
    have fits : i - 8 < 16 := by omega
    simp [low, inside, back, small, fits]

-- The checksum goes on the line with its low byte first; with these two bytes in the other order
-- the register comes to zero over any frame, and so it does over the difference of two frames.
theorem register_halves (w : UInt16) :
    register w.toBitVec [(w >>> 8).toUInt8, w.toUInt8] = 0#16 := by
  rw [register_eq, register_pair, halves]
  exact BitVec.xor_self

end Checksum

namespace Frame

open Bytes Checksum

-- Up to three bits anywhere from the sequence number to the checksum, or two neighbouring bytes of
-- the header and the payload, or the checksum.
inductive Disturbance (size : Nat) : Bytes → Prop
  | flips (e : Bytes) (whole : e.length = headerSize + size + 2) (some : 1 ≤ e.weight)
      (few : e.weight ≤ 3) : Disturbance size e
  | neighbours (a b : Nat) (x y : UInt8) (whole : a + 2 + b = headerSize + size)
      (some : x ≠ 0 ∨ y ≠ 0) : Disturbance size (zeros a ++ [x, y] ++ zeros b ++ [0, 0])
  | checksum (lo hi : UInt8) (some : lo ≠ 0 ∨ hi ≠ 0) :
      Disturbance size (zeros (headerSize + size) ++ [lo, hi])

theorem eq_append_pair (e : Bytes) (n : Nat) (whole : e.length = n + 2) :
    ∃ (d : Bytes) (lo hi : UInt8), e = d ++ [lo, hi] ∧ d.length = n := by
  have rest : (e.drop n).length = 2 := by
    rw [List.length_drop]
    omega
  obtain ⟨lo, hi, last⟩ := List.length_eq_two.mp rest
  refine ⟨e.take n, lo, hi, ?_, ?_⟩
  · rw [← last, List.take_append_drop]
  · rw [List.length_take]
    omega

theorem register_disturbance (size : Nat) (e : Bytes) (fits : size ≤ maxPayload)
    (kind : Disturbance size e) :
    ∃ (d : Bytes) (lo hi : UInt8), e = d ++ [lo, hi] ∧ d.length = headerSize + size ∧
      register 0#16 (d ++ [hi, lo]) ≠ 0#16 := by
  cases kind with
  | flips e whole some few =>
    obtain ⟨d, lo, hi, rfl, size⟩ := eq_append_pair e _ whole
    refine ⟨d, lo, hi, rfl, size, ?_⟩
    have swapped : Bytes.weight (d ++ [hi, lo]) = Bytes.weight (d ++ [lo, hi]) := by
      rw [weight_append, weight_append]
      simp only [weight]
      omega
    apply register_ne_zero_of_weight
    · rw [List.length_append, size]
      unfold maxPayload at fits
      simp only [headerSize, List.length_cons, List.length_nil]
      omega
    · rw [swapped]
      exact some
    · rw [swapped]
      exact few
  | neighbours a b x y whole some =>
    refine ⟨zeros a ++ [x, y] ++ zeros b, 0, 0, rfl, ?_, ?_⟩
    · simp only [zeros, List.length_append, List.length_replicate, List.length_cons,
        List.length_nil]
      omega
    · have still := register_zeros (register 0#16 (zeros a ++ [x, y] ++ zeros b)) 2
      rw [register_append, show [0, 0] = zeros 2 from rfl, still]
      exact bits_ne_zero _ _ (register_ne_zero_of_burst a b x y some)
  | checksum lo hi some =>
    refine ⟨zeros (headerSize + size), lo, hi, rfl, List.length_replicate, ?_⟩
    have burst := register_ne_zero_of_burst (headerSize + size) 0 hi lo some.symm
    rwa [show zeros 0 = [] from rfl, List.append_nil] at burst

theorem register_body (p q : Packet) (same : p.body.length = q.body.length) :
    register 0#16 (difference p.body q.body) =
      (crc16 p.body ^^^ crc16 q.body).toBitVec := by
  have parts := register_xor preset preset p.body q.body same
  rw [BitVec.xor_self] at parts
  rw [parts, UInt16.toBitVec_xor, to_bit_vec_crc16, to_bit_vec_crc16]

theorem difference_frames (p q : Packet) (d : Bytes) (lo hi : UInt8)
    (same : p.frame.length = q.frame.length) (size : d.length = headerSize + p.payload.length)
    (differs : difference p.frame q.frame = 0 :: 0 :: (d ++ [lo, hi] ++ [0])) :
    register 0#16 (d ++ [hi, lo]) = 0#16 := by
  have lengths : p.body.length = q.body.length := by
    simpa [Packet.frame] using same
  have parts : difference p.frame q.frame = 0 :: difference p.body q.body ++
      (ofWord (crc16 p.body ^^^ crc16 q.body) ++ [0]) := by
    have start (a b : Bytes) : difference (stx :: a) (stx :: b) = 0 :: difference a b := by
      simp [difference]
    have last : difference [etx] [etx] = [0] := by decide
    simp only [Packet.frame, List.cons_append, List.append_assoc]
    have words : (ofWord (crc16 p.body)).length = (ofWord (crc16 q.body)).length := by
      rw [length_of_word, length_of_word]
    rw [start, difference_append _ _ _ _ lengths, difference_append _ _ _ _ words,
      difference_of_word, last]
  have covered : (0 :: d).length = (difference p.body q.body).length := by
    rw [length_difference _ _ lengths]
    simp [Packet.body, size, headerSize, Payload.length]
    omega
  rw [differs] at parts
  have split : (0 :: d) ++ ([lo, hi] ++ [0]) = difference p.body q.body ++
      (ofWord (crc16 p.body ^^^ crc16 q.body) ++ [0]) := by
    simpa using parts
  obtain ⟨body, check⟩ := List.append_inj split covered
  have body_register := register_body p q lengths
  rw [← body] at body_register
  simp only [ofWord, List.cons_append, List.nil_append, List.cons.injEq, and_true] at check
  rw [check.1, check.2, register_append]
  change register (register 0#16 (0 :: d)) _ = 0#16
  rw [body_register, register_halves]

theorem difference_front (p : Packet) (received e : Bytes)
    (differs : difference p.frame received = 0 :: 0 :: e) :
    ∃ rest, received = stx :: p.count :: rest := by
  rw [Packet.frame_eq] at differs
  rcases received with - | ⟨first, - | ⟨second, rest⟩⟩
  · simp [difference] at differs
  · simp [difference] at differs
  · simp only [difference, List.zipWith_cons_cons, List.cons.injEq, UInt8.xor_eq_zero_iff]
      at differs
    obtain ⟨rfl, rfl, _⟩ := differs
    exact ⟨rest, rfl⟩

theorem disturbed_no_frame (p : Packet) (received e r : Bytes)
    (whole : received.length = p.frame.length)
    (differs : difference p.frame received = 0 :: 0 :: (e ++ [0]))
    (kind : Disturbance p.payload.length e) (q : Packet) (after : Bytes) :
    received ++ r ≠ q.frame ++ after := by
  intro accepted
  obtain ⟨rest, front⟩ := difference_front p received (e ++ [0]) differs
  have count : p.count = q.count := by
    rw [front, q.frame_eq] at accepted
    simp only [List.cons_append, List.cons.injEq] at accepted
    exact accepted.2.1
  have same : p.frame.length = q.frame.length := by
    rw [p.length_frame_count, q.length_frame_count, count]
  obtain ⟨frame, _⟩ := List.append_inj accepted (whole.trans same)
  obtain ⟨d, lo, hi, rfl, size, changed⟩ :=
    register_disturbance p.payload.length e p.payload.fits kind
  rw [frame] at differs
  exact changed (difference_frames p q d lo hi same size differs)

theorem disturbed_not_short (p : Packet) (received e r : Bytes)
    (whole : received.length = p.frame.length)
    (differs : difference p.frame received = 0 :: 0 :: e) : ¬ Short (received ++ r) := by
  obtain ⟨rest, rfl⟩ := difference_front p received e differs
  apply not_short_append
  intro short
  have enough := p.length_frame_ge
  cases short with
  | inl few => omega
  | inr cut =>
    have counted : (stx :: p.count :: rest).getD 1 0 = p.count := rfl
    rw [counted, ← p.length_frame_count] at cut
    omega

end Frame

/-- A disturbed frame is given up by dropping its start marker alone: no packet begins there, and
the decoder goes on as if the marker had not been received. -/
theorem RxBuffer.decode_disturbed (p : Packet) (received e r : Bytes)
    (whole : received.length = p.frame.length)
    (differs : Bytes.difference p.frame received = 0 :: 0 :: (e ++ [0]))
    (kind : Frame.Disturbance p.payload.length e) (b dropped : RxBuffer)
    (holds : b.bytes = received ++ r) (holdsDropped : dropped.bytes = received.tail ++ r) :
    Frame.round b.bytes = .inr dropped.bytes ∧ b.decode = dropped.decode ∧
      ∀ (q : Packet) (after : Bytes), b.bytes ≠ q.frame ++ after := by
  have none := Frame.disturbed_no_frame p received e r whole differs kind
  have enough := Frame.disturbed_not_short p received (e ++ [0]) r whole differs
  obtain ⟨rest, front⟩ := Frame.difference_front p received (e ++ [0]) differs
  have stream : received ++ r = Frame.stx :: dropped.bytes := by rw [holdsDropped, front]; rfl
  rw [stream] at none enough
  rw [holds, stream]
  refine ⟨?_, ?_, none⟩
  · rw [Frame.round, if_neg (not_not_intro rfl),
      (Frame.inspect_invalid_iff dropped.bytes).mpr ⟨enough, none⟩]
  · have same := Frame.decode_stray dropped.bytes enough none
    rw [← stream, ← holds] at same
    simp only [RxBuffer.decode, same]

theorem RxBuffer.decode_disturbed_heartbeat :
    Bytes.difference (⟨1, 0x08, .empty⟩ : Packet).frame
        [0x7E, 0x03, 0x81, 0x00, 0x09, 0x34, 0xA9, 0x7F] =
          0 :: 0 :: ([0x80, 0x00, 0x01, 0x10, 0x00] ++ [0]) ∧
      Frame.Disturbance 0 [0x80, 0x00, 0x01, 0x10, 0x00] ∧
      ∃ b dropped : RxBuffer,
        b.bytes = [0x7E, 0x03, 0x81, 0x00, 0x09, 0x34, 0xA9, 0x7F] ++
          (⟨1, 0x08, .empty⟩ : Packet).frame ∧
        Frame.round b.bytes = .inr dropped.bytes ∧ b.decode = dropped.decode ∧
        b.decode.1 = some ⟨1, 0x08, .empty⟩ := by
  have differs : Bytes.difference (⟨1, 0x08, .empty⟩ : Packet).frame
      [0x7E, 0x03, 0x81, 0x00, 0x09, 0x34, 0xA9, 0x7F] =
        0 :: 0 :: ([0x80, 0x00, 0x01, 0x10, 0x00] ++ [0]) := by decide +kernel
  have kind : Frame.Disturbance 0 [0x80, 0x00, 0x01, 0x10, 0x00] :=
    .flips _ (by decide) (by decide +kernel) (by decide +kernel)
  let b : RxBuffer := ⟨[0x7E, 0x03, 0x81, 0x00, 0x09, 0x34, 0xA9, 0x7F] ++
    (⟨1, 0x08, .empty⟩ : Packet).frame, by decide +kernel⟩
  let dropped : RxBuffer := ⟨[0x03, 0x81, 0x00, 0x09, 0x34, 0xA9, 0x7F] ++
    (⟨1, 0x08, .empty⟩ : Packet).frame, by decide +kernel⟩
  obtain ⟨given, same, _⟩ := decode_disturbed ⟨1, 0x08, .empty⟩ _ _ _ (by decide +kernel) differs
    kind b dropped rfl rfl
  exact ⟨differs, kind, b, dropped, rfl, given, same, by decide +kernel⟩

end LegLink
