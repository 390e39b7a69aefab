import LegLink.Proofs.Streaming

set_option autoImplicit false

namespace LegLink.Frame

-- Every index, range and difference is checked here, and so is that the payload fits; a round in
-- which a check fails has no result.
def minusChecked (a b : Nat) : Option Nat := if b ≤ a then some (a - b) else none

def rangeChecked (bytes : Bytes) (start stop : Nat) : Option Bytes :=
  if start ≤ stop ∧ stop ≤ bytes.length then some ((bytes.take stop).drop start) else none

def discardChecked (bytes : Bytes) (count : Nat) : Option Bytes := do
  let remaining ← minusChecked bytes.length count
  let moved ← rangeChecked bytes count bytes.length
  return (moved ++ bytes.drop moved.length).take remaining

def completeChecked (bytes : Bytes) (count : Nat) : Option ((Option Packet × Bytes) ⊕ Bytes) := do
  let size := count + overhead
  let last ← bytes[← minusChecked size 1]?
  if last ≠ etx then return .inr (← discardChecked bytes 1)
  let crcLo ← bytes[← minusChecked size 3]?
  let crcHi ← bytes[← minusChecked size 2]?
  let covered ← rangeChecked bytes 1 (count + 2)
  if Bytes.word crcLo crcHi ≠ Checksum.crc16 covered then return .inr (← discardChecked bytes 1)
  let seqLo ← bytes[2]?
  let seqHi ← bytes[3]?
  let cmd ← bytes[4]?
  let payload ← Payload.ofBytes? (← rangeChecked bytes 5 (count + 2))
  return .inl (some ⟨Bytes.word seqLo seqHi, cmd, payload⟩, ← discardChecked bytes size)

def roundChecked (bytes : Bytes) : Option ((Option Packet × Bytes) ⊕ Bytes) := do
  if bytes.isEmpty then return .inl (none, bytes)
  let first ← bytes[0]?
  if first ≠ stx then return .inr (← discardChecked bytes 1)
  if bytes.length < minSize then return .inl (none, bytes)
  let count := (← bytes[1]?).toNat
  if count < headerSize then return .inr (← discardChecked bytes 1)
  if bytes.length < count + overhead then return .inl (none, bytes)
  completeChecked bytes count

-- The outer `none` is a failed check, the inner one that the rounds did not suffice.
def roundsChecked : Nat → Bytes → Option (Option (Option Packet × Bytes))
  | 0, _ => some none
  | n + 1, bytes => do
    match ← roundChecked bytes with
    | .inl result => return some result
    | .inr rest => roundsChecked n rest

section Checks

theorem minus_checked_eq (a b : Nat) (within : b ≤ a) : minusChecked a b = some (a - b) :=
  if_pos within

theorem range_checked_eq (a b c : Bytes) (start stop : Nat) (before : a.length = start)
    (upTo : (a ++ b).length = stop) : rangeChecked (a ++ b ++ c) start stop = some b := by
  have inside : start ≤ stop ∧ stop ≤ (a ++ b ++ c).length := by
    simp only [List.length_append] at *
    omega
  rw [rangeChecked, if_pos inside, ← upTo, List.take_left, ← before, List.drop_left]

theorem discard_checked_eq (a b : Bytes) (count : Nat) (size : a.length = count) :
    discardChecked (a ++ b) count = some b := by
  have moved := range_checked_eq a b [] count (a ++ b).length size rfl
  rw [List.append_nil] at moved
  have within : count ≤ (a ++ b).length := by
    rw [List.length_append]
    omega
  have left : (a ++ b).length - count = b.length := by
    rw [List.length_append]
    omega
  simp only [discardChecked, minus_checked_eq _ _ within, moved, left, Option.bind_eq_bind,
    Option.bind_some, List.take_left]
  rfl

theorem discard_checked_one (byte : UInt8) (rest : Bytes) :
    discardChecked (byte :: rest) 1 = some rest := discard_checked_eq [byte] rest 1 rfl

end Checks

section Layout

variable (count seqLo seqHi cmd crcLo crcHi last : UInt8) (data after : Bytes)

theorem header_layout (bytes : Bytes)
    (whole : stx :: layout count seqLo seqHi cmd crcLo crcHi last data after = bytes) :
    bytes[2]? = some seqLo ∧ bytes[3]? = some seqHi ∧ bytes[4]? = some cmd := by
  simp [← whole, layout]

theorem trailer_layout (bytes : Bytes)
    (whole : stx :: layout count seqLo seqHi cmd crcLo crcHi last data after = bytes) :
    bytes[data.length + 5]? = some crcLo ∧ bytes[data.length + 6]? = some crcHi ∧
      bytes[data.length + 7]? = some last := by
  simp [← whole, layout]

theorem ranges_layout (bytes : Bytes)
    (whole : stx :: layout count seqLo seqHi cmd crcLo crcHi last data after = bytes) :
    rangeChecked bytes 1 (data.length + 5) = some (count :: seqLo :: seqHi :: cmd :: data) ∧
      rangeChecked bytes 5 (data.length + 5) = some data := by
  rw [← whole]
  constructor
  · exact range_checked_eq [stx] (count :: seqLo :: seqHi :: cmd :: data)
      (crcLo :: crcHi :: last :: after) 1 _ rfl rfl
  · exact range_checked_eq [stx, count, seqLo, seqHi, cmd] data
      (crcLo :: crcHi :: last :: after) 5 _ rfl (by simp)

theorem discard_checked_layout (bytes : Bytes)
    (whole : stx :: layout count seqLo seqHi cmd crcLo crcHi last data after = bytes) :
    discardChecked bytes (data.length + 8) = some after := by
  have cut := discard_checked_eq (stx :: count :: seqLo :: seqHi :: cmd ::
    (data ++ [crcLo, crcHi, last])) after (data.length + 8) (by simp)
  simpa [← whole, layout] using cut

theorem complete_checked_layout (size : headerSize + data.length = count.toNat) :
    completeChecked (stx :: layout count seqLo seqHi cmd crcLo crcHi last data after)
        count.toNat =
      some (match accepted count seqLo seqHi cmd crcLo crcHi last data size with
        | some p => .inl (some p, after)
        | none => .inr (layout count seqLo seqHi cmd crcLo crcHi last data after)) := by
  have dropped := discard_checked_one stx
    (layout count seqLo seqHi cmd crcLo crcHi last data after)
  generalize whole : stx :: layout count seqLo seqHi cmd crcLo crcHi last data after = bytes at *
  obtain ⟨seq_low, seq_high, command⟩ := header_layout _ _ _ _ _ _ _ _ _ bytes whole
  obtain ⟨low, high, ending_read⟩ := trailer_layout _ _ _ _ _ _ _ _ _ bytes whole
  obtain ⟨covered, payload⟩ := ranges_layout _ _ _ _ _ _ _ _ _ bytes whole
  have removed := discard_checked_layout _ _ _ _ _ _ _ _ _ bytes whole
  have total : count.toNat + overhead = data.length + 8 := by
    rw [← size, headerSize, overhead]
    omega
  have stop : count.toNat + 2 = data.length + 5 := by
    rw [← size, headerSize]
    omega
  have back (k : Nat) (inside : k ≤ 8) :
      minusChecked (data.length + 8) k = some (data.length + 8 - k) :=
    minus_checked_eq _ _ (by omega)
  have fitted : Payload.ofBytes? data = some ⟨data, fits_layout count data size⟩ :=
    dif_pos (fits_layout count data size)
  simp only [completeChecked, total, stop, back 1 (by decide), back 2 (by decide),
    back 3 (by decide), Nat.reduceSubDiff, Option.bind_eq_bind, Option.bind_some, ending_read,
    high, low, covered, dropped, accepted]
  by_cases ending : last = etx
  · by_cases checked : Checksum.crc16 (count :: seqLo :: seqHi :: cmd :: data) =
        Bytes.word crcLo crcHi
    · simp [ending, checked, seq_low, seq_high, command, payload, fitted, removed]
    · simp [ending, checked, Ne.symm checked]
  · simp [ending]

end Layout

theorem round_checked_marker (count : UInt8) (rest : Bytes) :
    roundChecked (stx :: count :: rest) =
      if (stx :: count :: rest).length < minSize then some (.inl (none, stx :: count :: rest))
      else if count.toNat < headerSize then some (.inr (count :: rest))
      else if (stx :: count :: rest).length < count.toNat + overhead then
        some (.inl (none, stx :: count :: rest))
      else completeChecked (stx :: count :: rest) count.toNat := by
  simp only [roundChecked, List.isEmpty_cons, Bool.false_eq_true, if_false, ne_eq,
    not_true_eq_false, List.getElem?_cons_zero, List.getElem?_cons_succ, discard_checked_one,
    Option.bind_eq_bind, Option.bind_some]
  rfl

theorem round_checked_eq (bytes : Bytes) : roundChecked bytes = some (round bytes) := by
  rcases bytes with - | ⟨byte, rest⟩
  · rfl
  by_cases marker : byte = stx
  · subst marker
    rw [round, if_neg (not_not_intro rfl)]
    cases candidate rest with
    | few _ few =>
      rw [inspect_few rest few]
      cases rest with
      | nil => rfl
      | cons count rest => rw [round_checked_marker, if_pos few]
    | low count rest long low =>
      rw [inspect_low count rest long low, round_checked_marker, if_neg (Nat.not_lt_of_le long),
        if_pos low]
    | cut count rest long valid cut =>
      rw [inspect_cut count rest long valid cut, round_checked_marker,
        if_neg (Nat.not_lt_of_le long), if_neg (Nat.not_lt_of_le valid), if_pos cut]
    | whole count seqLo seqHi cmd crcLo crcHi last data after size =>
      have total := length_layout count seqLo seqHi cmd crcLo crcHi last data after size
      have checked := complete_checked_layout count seqLo seqHi cmd crcLo crcHi last data after size
      have long : minSize ≤ count.toNat + overhead := by
        unfold minSize
        omega
      rw [inspect_layout _ _ _ _ _ _ _ _ _ size]
      unfold layout at total checked ⊢
      rw [round_checked_marker, if_neg (by omega), if_neg (by omega), if_neg (by omega), checked]
      cases accepted count seqLo seqHi cmd crcLo crcHi last data size with
      | none => rfl
      | some p => rfl
  · have dropped := discard_checked_one byte rest
    simp [roundChecked, round, marker, dropped]

theorem rounds_checked_eq (n : Nat) (bytes : Bytes) :
    roundsChecked n bytes = some (rounds n bytes) := by
  induction n generalizing bytes with
  | zero => rfl
  | succ n ih =>
    rw [roundsChecked, round_checked_eq, rounds]
    cases round bytes with
    | inl result => rfl
    | inr rest => exact ih rest

theorem rounds_checked_decode (bytes : Bytes) :
    roundsChecked (bytes.length + 1) bytes = some (some (decode bytes)) := by
  rw [rounds_checked_eq, rounds_decode]

end LegLink.Frame
