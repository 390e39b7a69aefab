import LegLink.Frame.Decoder
import LegLink.Proofs.Words

set_option autoImplicit false

namespace LegLink

namespace Packet

theorem to_nat_count (p : Packet) : p.count.toNat = Frame.headerSize + p.payload.length := by
  have fits : p.payload.length ≤ maxPayload := p.payload.fits
  unfold maxPayload at fits
  rw [count, UInt8.toNat_ofNat']
  simp only [Frame.headerSize, Nat.reducePow]
  omega

theorem length_frame_count (p : Packet) :
    p.frame.length = p.count.toNat + Frame.overhead := by
  rw [length_frame, to_nat_count, frameLength, Frame.minSize]
  omega

theorem length_frame_ge (p : Packet) : Frame.minSize ≤ p.frame.length := by
  rw [length_frame, frameLength]
  omega

theorem length_frame_pos (p : Packet) : 0 < p.frame.length :=
  Nat.lt_of_lt_of_le (by decide) p.length_frame_ge

theorem frame_eq (p : Packet) :
    p.frame = Frame.stx :: p.count :: p.seq.toUInt8 :: (p.seq >>> 8).toUInt8 :: p.cmd ::
      (p.payload.bytes ++ [(Checksum.crc16 p.body).toUInt8, (Checksum.crc16 p.body >>> 8).toUInt8,
        Frame.etx]) := by
  simp [frame, body, Bytes.ofWord]

def ofFrame? (bytes : Bytes) : Option Packet :=
  match bytes with
  | _ :: _ :: seqLo :: seqHi :: cmd :: tail =>
    match Payload.ofBytes? (tail.take (tail.length - 3)) with
    | some payload =>
      let p : Packet := ⟨Bytes.word seqLo seqHi, cmd, payload⟩
      if p.frame = bytes then some p else none
    | none => none
  | _ => none

theorem of_frame_frame (p : Packet) : ofFrame? p.frame = some p := by
  have payload (a b c : UInt8) : (p.payload.bytes ++ [a, b, c]).take
      ((p.payload.bytes ++ [a, b, c]).length - 3) = p.payload.bytes := by
    have size : (p.payload.bytes ++ [a, b, c]).length - 3 = p.payload.bytes.length := by
      rw [List.length_append]
      exact Nat.add_sub_cancel _ 3
    rw [size, List.take_left]
  have whole : Payload.ofBytes? p.payload.bytes = some p.payload := dif_pos p.payload.fits
  have same := frame_eq p
  rw [same]
  simp only [ofFrame?, payload, whole, Bytes.word_of_word]
  exact if_pos same

theorem of_frame_eq_some_iff (bytes : Bytes) (p : Packet) :
    ofFrame? bytes = some p ↔ bytes = p.frame := by
  constructor
  · intro found
    unfold ofFrame? at found
    split at found
    · split at found
      · dsimp only at found
        split at found
        · rename_i same
          cases found
          exact same.symm
        · cases found
      · cases found
    · cases found
  · rintro rfl
    exact of_frame_frame p

end Packet

namespace Frame

def Short (bytes : Bytes) : Prop :=
  bytes.length < minSize ∨
    headerSize ≤ (bytes.getD 1 0).toNat ∧ bytes.length < (bytes.getD 1 0).toNat + overhead

theorem get_append_one (a b : Bytes) (long : minSize ≤ a.length) :
    (a ++ b).getD 1 0 = a.getD 1 0 := by
  have inside : 1 < a.length := by
    unfold minSize headerSize overhead at long
    omega
  simp only [List.getD_eq_getElem?_getD, List.getElem?_append_left inside]

theorem not_short_append (a b : Bytes) (enough : ¬ Short a) : ¬ Short (a ++ b) := by
  unfold Short at *
  have long : minSize ≤ a.length := by omega
  rw [get_append_one a b long, List.length_append]
  omega

theorem short_of_cut (p : Packet) (a b : Bytes) (cut : a ++ b = p.frame) (more : b ≠ []) :
    Short a := by
  have some_left : 0 < b.length := List.length_pos_iff.mpr more
  have lengths := congrArg List.length cut
  rw [List.length_append, p.length_frame_count] at lengths
  by_cases long : a.length < minSize
  · exact .inl long
  · have count : a.getD 1 0 = p.count := by
      rw [← get_append_one a b (by omega), cut, Packet.frame_eq]
      rfl
    refine .inr ⟨?_, ?_⟩
    · rw [count, Packet.to_nat_count]
      omega
    · rw [count]
      omega

section Candidate

def layout (count seqLo seqHi cmd crcLo crcHi last : UInt8) (data after : Bytes) : Bytes :=
  count :: seqLo :: seqHi :: cmd :: (data ++ crcLo :: crcHi :: last :: after)

inductive Candidate : Bytes → Prop
  | few (bytes : Bytes) (few : (stx :: bytes).length < minSize) : Candidate bytes
  | low (count : UInt8) (rest : Bytes) (long : minSize ≤ (stx :: count :: rest).length)
      (low : count.toNat < headerSize) : Candidate (count :: rest)
  | cut (count : UInt8) (rest : Bytes) (long : minSize ≤ (stx :: count :: rest).length)
      (valid : headerSize ≤ count.toNat)
      (cut : (stx :: count :: rest).length < count.toNat + overhead) : Candidate (count :: rest)
  | whole (count seqLo seqHi cmd crcLo crcHi last : UInt8) (data after : Bytes)
      (size : headerSize + data.length = count.toNat) :
      Candidate (layout count seqLo seqHi cmd crcLo crcHi last data after)

theorem exists_three (bytes : Bytes) (long : 3 ≤ bytes.length) :
    ∃ a b c rest, bytes = a :: b :: c :: rest := by
  match bytes, long with
  | a :: b :: c :: rest, _ => exact ⟨a, b, c, rest, rfl⟩

theorem exists_layout (count : UInt8) (rest : Bytes) (valid : headerSize ≤ count.toNat)
    (enough : count.toNat + overhead ≤ (stx :: count :: rest).length) :
    ∃ seqLo seqHi cmd crcLo crcHi last data after,
      count :: rest = layout count seqLo seqHi cmd crcLo crcHi last data after ∧
        headerSize + data.length = count.toNat := by
  unfold headerSize at *
  unfold overhead at enough
  simp only [List.length_cons] at enough
  obtain ⟨seqLo, seqHi, cmd, tail, rfl⟩ := exists_three rest (by omega)
  simp only [List.length_cons] at enough
  have behind : 3 ≤ (tail.drop (count.toNat - 3)).length := by
    rw [List.length_drop]
    omega
  obtain ⟨crcLo, crcHi, last, after, found⟩ := exists_three _ behind
  refine ⟨seqLo, seqHi, cmd, crcLo, crcHi, last, tail.take (count.toNat - 3), after, ?_, ?_⟩
  · rw [layout, ← found, List.take_append_drop]
  · rw [List.length_take]
    omega

theorem candidate (bytes : Bytes) : Candidate bytes := by
  by_cases few : (stx :: bytes).length < minSize
  · exact .few bytes few
  · have long : minSize ≤ (stx :: bytes).length := Nat.le_of_not_lt few
    cases bytes with
    | nil => exact .few [] (by decide)
    | cons count rest =>
      by_cases low : count.toNat < headerSize
      · exact .low count rest long low
      · have valid : headerSize ≤ count.toNat := Nat.le_of_not_lt low
        by_cases cut : (stx :: count :: rest).length < count.toNat + overhead
        · exact .cut count rest long valid cut
        · obtain ⟨seqLo, seqHi, cmd, crcLo, crcHi, last, data, after, parts, size⟩ :=
            exists_layout count rest valid (Nat.le_of_not_lt cut)
          rw [parts]
          exact .whole count seqLo seqHi cmd crcLo crcHi last data after size

theorem inspect_few (bytes : Bytes) (few : (stx :: bytes).length < minSize) :
    inspect bytes = .incomplete := by
  rw [List.length_cons, Nat.add_comm] at few
  unfold inspect
  split
  · exact if_pos few
  · rfl

theorem inspect_low (count : UInt8) (rest : Bytes) (long : minSize ≤ (stx :: count :: rest).length)
    (low : count.toNat < headerSize) : inspect (count :: rest) = .invalid := by
  obtain ⟨seqLo, seqHi, cmd, tail, rfl⟩ := exists_three rest (by
    simp only [minSize, headerSize, overhead, List.length_cons] at long
    omega)
  rw [List.length_cons, Nat.add_comm] at long
  simp only [inspect, if_neg (Nat.not_lt_of_le long), if_pos low]

theorem inspect_cut (count : UInt8) (rest : Bytes) (long : minSize ≤ (stx :: count :: rest).length)
    (valid : headerSize ≤ count.toNat)
    (cut : (stx :: count :: rest).length < count.toNat + overhead) :
    inspect (count :: rest) = .incomplete := by
  obtain ⟨seqLo, seqHi, cmd, tail, rfl⟩ := exists_three rest (by
    simp only [minSize, headerSize, overhead, List.length_cons] at long
    omega)
  rw [List.length_cons, Nat.add_comm] at long cut
  simp only [inspect, if_neg (Nat.not_lt_of_le long), if_neg (Nat.not_lt_of_le valid), if_pos cut]

variable (count seqLo seqHi cmd crcLo crcHi last : UInt8) (data after : Bytes)
variable (size : headerSize + data.length = count.toNat)
include size

theorem fits_layout : data.length ≤ maxPayload := by
  have bound := count.toNat_lt
  unfold headerSize at size
  unfold maxPayload
  omega

theorem length_layout : (stx :: layout count seqLo seqHi cmd crcLo crcHi last data after).length =
    count.toNat + overhead + after.length := by
  rw [← size]
  simp only [layout, headerSize, overhead, List.length_cons, List.length_append]
  omega

def accepted : Option Packet :=
  if last = etx ∧ Checksum.crc16 (count :: seqLo :: seqHi :: cmd :: data) =
      Bytes.word crcLo crcHi then
    some ⟨Bytes.word seqLo seqHi, cmd, data, fits_layout count data size⟩
  else none

theorem inspect_layout :
    inspect (layout count seqLo seqHi cmd crcLo crcHi last data after) =
      match accepted count seqLo seqHi cmd crcLo crcHi last data size with
      | some p => .complete p after
      | none => .invalid := by
  have payload : count.toNat - headerSize = data.length := by omega
  have valid : ¬ count.toNat < headerSize := by omega
  have total := length_layout count seqLo seqHi cmd crcLo crcHi last data after size
  rw [List.length_cons, Nat.add_comm] at total
  have long : ¬ 1 + (layout count seqLo seqHi cmd crcLo crcHi last data after).length <
      minSize := by
    unfold minSize
    omega
  have whole : ¬ 1 + (layout count seqLo seqHi cmd crcLo crcHi last data after).length <
      count.toNat + overhead := by omega
  unfold layout at long whole ⊢
  simp only [inspect, if_neg long, if_neg valid, if_neg whole, payload, List.drop_left,
    List.take_left, accepted]
  by_cases ending : last = etx
  · by_cases checked : Checksum.crc16 (count :: seqLo :: seqHi :: cmd :: data) =
        Bytes.word crcLo crcHi
    · simp [ending, checked]
    · simp [ending, checked]
  · simp [ending]

theorem frame_of_accepted (p : Packet)
    (found : accepted count seqLo seqHi cmd crcLo crcHi last data size = some p) :
    stx :: layout count seqLo seqHi cmd crcLo crcHi last data after = p.frame ++ after := by
  unfold accepted at found
  split at found
  · rename_i right
    cases found
    obtain ⟨rfl, checked⟩ := right
    have counted : UInt8.ofNat (headerSize + data.length) = count := by
      rw [size, UInt8.ofNat_toNat]
    simp only [layout, Packet.frame, Packet.body, Packet.count, Payload.length, counted,
      Bytes.of_word_word, List.cons_append, List.nil_append, checked, List.append_assoc]
  · cases found

end Candidate

theorem inspect_frame (p : Packet) (bytes rest : Bytes) (whole : stx :: bytes = p.frame ++ rest) :
    inspect bytes = .complete p rest := by
  rw [p.frame_eq] at whole
  simp only [List.cons_append, List.cons.injEq, true_and, List.append_assoc, List.nil_append]
    at whole
  have parts := inspect_layout p.count p.seq.toUInt8 (p.seq >>> 8).toUInt8 p.cmd
    (Checksum.crc16 p.body).toUInt8 (Checksum.crc16 p.body >>> 8).toUInt8 etx p.payload.bytes rest
    p.to_nat_count.symm
  have body : p.count :: p.seq.toUInt8 :: (p.seq >>> 8).toUInt8 :: p.cmd :: p.payload.bytes =
      p.body := by simp [Packet.body, Bytes.ofWord]
  rw [whole]
  simpa only [layout, accepted, body, Bytes.word_of_word, and_self, if_true] using parts

theorem frame_of_inspect (p : Packet) (bytes rest : Bytes)
    (complete : inspect bytes = .complete p rest) : stx :: bytes = p.frame ++ rest := by
  cases candidate bytes with
  | few _ few =>
    rw [inspect_few bytes few] at complete
    cases complete
  | low count tail long low =>
    rw [inspect_low count tail long low] at complete
    cases complete
  | cut count tail long valid cut =>
    rw [inspect_cut count tail long valid cut] at complete
    cases complete
  | whole count seqLo seqHi cmd crcLo crcHi last data after size =>
    rw [inspect_layout _ _ _ _ _ _ _ _ _ size] at complete
    cases found : accepted count seqLo seqHi cmd crcLo crcHi last data size with
    | none =>
      rw [found] at complete
      cases complete
    | some q =>
      rw [found] at complete
      cases complete
      exact frame_of_accepted _ _ _ _ _ _ _ _ _ size p found

theorem inspect_incomplete_iff (bytes : Bytes) :
    inspect bytes = .incomplete ↔ Short (stx :: bytes) := by
  unfold Short
  cases candidate bytes with
  | few _ few => simp only [inspect_few bytes few, few, true_or]
  | low count tail long low =>
    have second : (stx :: count :: tail).getD 1 0 = count := rfl
    rw [inspect_low count tail long low, second]
    simp only [reduceCtorEq, false_iff]
    omega
  | cut count tail long valid cut =>
    have second : (stx :: count :: tail).getD 1 0 = count := rfl
    rw [inspect_cut count tail long valid cut, second]
    simp only [true_iff]
    exact .inr ⟨valid, cut⟩
  | whole count seqLo seqHi cmd crcLo crcHi last data after size =>
    have second : (stx :: layout count seqLo seqHi cmd crcLo crcHi last data after).getD 1 0 =
        count := rfl
    have total := length_layout count seqLo seqHi cmd crcLo crcHi last data after size
    rw [inspect_layout _ _ _ _ _ _ _ _ _ size, second, total]
    unfold minSize
    cases accepted count seqLo seqHi cmd crcLo crcHi last data size with
    | none =>
      simp only [reduceCtorEq, false_iff]
      omega
    | some p =>
      simp only [reduceCtorEq, false_iff]
      omega

theorem inspect_invalid_iff (bytes : Bytes) :
    inspect bytes = .invalid ↔ ¬ Short (stx :: bytes) ∧
      ∀ (p : Packet) (after : Bytes), stx :: bytes ≠ p.frame ++ after := by
  constructor
  · intro invalid
    refine ⟨?_, ?_⟩
    · intro short
      rw [(inspect_incomplete_iff bytes).mpr short] at invalid
      cases invalid
    · intro p after whole
      rw [inspect_frame p bytes after whole] at invalid
      cases invalid
  · rintro ⟨enough, none⟩
    cases verdict : inspect bytes with
    | incomplete => exact absurd ((inspect_incomplete_iff bytes).mp verdict) enough
    | complete p after => exact absurd (frame_of_inspect p bytes after verdict) (none p after)
    | invalid => rfl

end Frame
end LegLink
