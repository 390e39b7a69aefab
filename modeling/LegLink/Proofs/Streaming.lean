import LegLink.Proofs.Buffer

set_option autoImplicit false

namespace LegLink

namespace Frame

-- The packets from offset `i` on, and the offset at which more bytes are needed. Any offset that
-- does not begin a whole frame is passed over, one byte at a time.
def scan (s : Bytes) (i : Nat) : List Packet × Nat :=
  if inside : i < s.length then
    if s[i] ≠ stx then scan s (i + 1)
    else
      let count := (s.getD (i + 1) 0).toNat
      if s.length - i < minSize ∨ headerSize ≤ count ∧ s.length - i < count + overhead then
        ([], i)
      else
        match Packet.ofFrame? ((s.drop i).take (count + overhead)) with
        | some p =>
          let (packets, stop) := scan s (i + (count + overhead))
          (p :: packets, stop)
        | none => scan s (i + 1)
  else ([], i)
termination_by s.length - i
decreasing_by
  · omega
  · have : 0 < overhead := by decide
    omega
  · omega

theorem short_drop_iff (s : Bytes) (i : Nat) :
    Short (s.drop i) ↔ s.length - i < minSize ∨
      headerSize ≤ (s.getD (i + 1) 0).toNat ∧
        s.length - i < (s.getD (i + 1) 0).toNat + overhead := by
  simp only [Short, List.getD_eq_getElem?_getD, List.getElem?_drop, List.length_drop]

theorem take_frame (p : Packet) (s after : Bytes) (i : Nat) (whole : s.drop i = p.frame ++ after) :
    (s.drop i).take ((s.getD (i + 1) 0).toNat + overhead) = p.frame := by
  have count : s.getD (i + 1) 0 = p.count := by
    have second := congrArg (fun bytes => bytes.getD 1 0) whole
    simp only [List.getD_eq_getElem?_getD, List.getElem?_drop] at second
    rw [List.getD_eq_getElem?_getD, second, Packet.frame_eq]
    rfl
  rw [whole, count, ← p.length_frame_count, List.take_left]

theorem frame_found_iff (s : Bytes) (i : Nat) (p : Packet) :
    Packet.ofFrame? ((s.drop i).take ((s.getD (i + 1) 0).toNat + overhead)) = some p ↔
      ∃ after, s.drop i = p.frame ++ after := by
  constructor
  · intro found
    have front := (Packet.of_frame_eq_some_iff _ p).mp found
    refine ⟨(s.drop i).drop ((s.getD (i + 1) 0).toNat + overhead), ?_⟩
    rw [← front, List.take_append_drop]
  · rintro ⟨after, whole⟩
    rw [take_frame p s after i whole, Packet.of_frame_frame]

theorem scan_refines (s : Bytes) (i : Nat) (inside : i ≤ s.length) :
    decodeAll (s.drop i) = ((scan s i).1, s.drop (scan s i).2) := by
  fun_induction scan s i with
  | case1 i more other ih =>
    rw [List.drop_eq_getElem_cons more, decode_all_noise _ _ other, ih (by omega)]
  | case2 i more marker count short =>
    have marker : s[i] = stx := Decidable.not_not.mp marker
    have short := (short_drop_iff s i).mpr short
    rw [List.drop_eq_getElem_cons more, marker] at short ⊢
    exact decode_all_short _ short
  | case3 i more marker count enough p found packets stop rest ih =>
    have taken := congrArg List.length ((Packet.of_frame_eq_some_iff _ p).mp found)
    have size := p.length_frame_ge
    rw [List.length_take, List.length_drop] at taken
    unfold minSize at size enough
    have cut : s.drop i = p.frame ++ s.drop (i + (count + overhead)) := by
      rw [← (Packet.of_frame_eq_some_iff _ p).mp found, ← List.drop_drop, List.take_append_drop]
    rw [cut, decode_all_frame, ih (by omega), rest]
  | case4 i more marker count enough none ih =>
    have marker : s[i] = stx := Decidable.not_not.mp marker
    have enough := mt (short_drop_iff s i).mp enough
    have stray : ∀ (p : Packet) (after : Bytes), s.drop i ≠ p.frame ++ after := by
      intro p after whole
      rw [(frame_found_iff s i p).mpr ⟨after, whole⟩] at none
      cases none
    rw [List.drop_eq_getElem_cons more, marker] at enough stray ⊢
    rw [decode_all_stray _ enough stray, ih (by omega)]
  | case5 i done =>
    rw [List.drop_eq_nil_of_le (by omega), decode_all_nil]

def round : Bytes → (Option Packet × Bytes) ⊕ Bytes
  | [] => .inl (none, [])
  | byte :: rest =>
    if byte ≠ stx then .inr rest
    else
      match inspect rest with
      | .incomplete => .inl (none, byte :: rest)
      | .invalid => .inr rest
      | .complete p after => .inl (some p, after)

def rounds : Nat → Bytes → Option (Option Packet × Bytes)
  | 0, _ => none
  | n + 1, bytes =>
    match round bytes with
    | .inl result => some result
    | .inr rest => rounds n rest

-- Each round but the last drops a byte, so the decoder comes to a result.
theorem rounds_decode (bytes : Bytes) : rounds (bytes.length + 1) bytes = some (decode bytes) := by
  induction bytes with
  | nil => rfl
  | cons byte rest ih =>
    rw [List.length_cons, rounds]
    by_cases marker : byte = stx
    · subst marker
      rw [round, decode, if_neg (not_not_intro rfl), if_neg (not_not_intro rfl)]
      cases inspect rest with
      | incomplete => rfl
      | complete p after => rfl
      | invalid => exact ih
    · rw [round, decode, if_pos marker, if_pos marker]
      exact ih

end Frame

namespace RxBuffer

def feedChunks : List Bytes → RxBuffer → Option (List Packet × RxBuffer)
  | [], b => some ([], b)
  | chunk :: rest, b =>
    match b.append? chunk with
    | none => none
    | some b =>
      let (packets, b) := b.drain
      (feedChunks rest b).map fun (later, b) => (packets ++ later, b)

def Fit : List Bytes → RxBuffer → Prop
  | [], _ => True
  | chunk :: rest, b =>
    ∃ room : (b.bytes ++ chunk).length ≤ Frame.maxSize, Fit rest (drain ⟨b.bytes ++ chunk, room⟩).2

theorem feed_chunks_decode_all (chunks : List Bytes) (b : RxBuffer)
    (kept : Frame.decodeAll b.bytes = ([], b.bytes)) (fit : Fit chunks b) :
    ∃ rest, feedChunks chunks b = some ((Frame.decodeAll (b.bytes ++ chunks.flatten)).1, rest) ∧
      rest.bytes = (Frame.decodeAll (b.bytes ++ chunks.flatten)).2 := by
  induction chunks generalizing b with
  | nil =>
    rw [List.flatten_nil, List.append_nil, kept]
    exact ⟨b, rfl, rfl⟩
  | cons chunk later ih =>
    obtain ⟨room, fit⟩ := fit
    have drained := drain_bytes ⟨b.bytes ++ chunk, room⟩
    have still := Frame.decode_all_kept (b.bytes ++ chunk)
    rw [drained] at still
    obtain ⟨rest, fed, bytes⟩ := ih _ still fit
    refine ⟨rest, ?_, ?_⟩
    · rw [feedChunks, append?, dif_pos room]
      simp only [fed, Option.map_some]
      rw [List.flatten_cons, ← List.append_assoc, Frame.decode_all_append (b.bytes ++ chunk),
        drained]
    · rw [bytes, List.flatten_cons, ← List.append_assoc, Frame.decode_all_append (b.bytes ++ chunk),
        drained]

theorem fit_of_total (chunks : List Bytes) (b : RxBuffer)
    (room : b.length + chunks.flatten.length ≤ Frame.maxSize) : Fit chunks b := by
  induction chunks generalizing b with
  | nil => trivial
  | cons chunk later ih =>
    rw [List.flatten_cons, List.length_append] at room
    have here : (b.bytes ++ chunk).length ≤ Frame.maxSize := by
      rw [List.length_append]
      unfold length at room
      omega
    refine ⟨here, ih _ ?_⟩
    have kept := length_drain_le ⟨b.bytes ++ chunk, here⟩
    simp only [length, List.length_append] at *
    omega

/-- Whatever the chunks, the packets and the bytes kept are those of one scan over the stream, and
the decoder comes to a result within one round for each byte and one more. -/
theorem feed_chunks_scan (chunks : List Bytes) (fit : Fit chunks .empty) :
    (∃ rest : RxBuffer,
      feedChunks chunks .empty = some ((Frame.scan chunks.flatten 0).1, rest) ∧
      rest.bytes = chunks.flatten.drop (Frame.scan chunks.flatten 0).2) ∧
    ∀ b : RxBuffer, Frame.rounds (b.length + 1) b.bytes = some (b.decode.1, b.decode.2.bytes) := by
  constructor
  · have scanned := Frame.scan_refines chunks.flatten 0 (Nat.zero_le _)
    rw [List.drop_zero] at scanned
    obtain ⟨rest, fed, bytes⟩ := feed_chunks_decode_all chunks .empty Frame.decode_all_nil fit
    rw [empty, List.nil_append, scanned] at fed bytes
    exact ⟨rest, fed, bytes⟩
  · intro b
    exact Frame.rounds_decode b.bytes

theorem feed_chunks_scan_cut :
    Fit [[0x00, 0x7E, 0x02, 0x7E, 0x03], [0x01, 0x00, 0x08, 0x24, 0xA9, 0x7F, 0x7E]] .empty ∧
      ∃ rest : RxBuffer,
        feedChunks [[0x00, 0x7E, 0x02, 0x7E, 0x03], [0x01, 0x00, 0x08, 0x24, 0xA9, 0x7F, 0x7E]]
          .empty = some ([⟨1, 0x08, .empty⟩], rest) ∧ rest.bytes = [0x7E] := by
  have fit : Fit [[0x00, 0x7E, 0x02, 0x7E, 0x03], [0x01, 0x00, 0x08, 0x24, 0xA9, 0x7F, 0x7E]]
      .empty := fit_of_total _ _ (by decide)
  obtain ⟨⟨rest, fed, bytes⟩, _⟩ := feed_chunks_scan _ fit
  have stray : Packet.ofFrame? [0x7E, 0x02, 0x7E, 0x03, 0x01, 0x00, 0x08] = none := by
    decide +kernel
  have whole : Packet.ofFrame? [0x7E, 0x03, 0x01, 0x00, 0x08, 0x24, 0xA9, 0x7F] =
      some ⟨1, 0x08, .empty⟩ := by decide +kernel
  have scanned : Frame.scan [0x00, 0x7E, 0x02, 0x7E, 0x03, 0x01, 0x00, 0x08, 0x24, 0xA9, 0x7F,
      0x7E] 0 = ([⟨1, 0x08, .empty⟩], 11) := by
    simp [Frame.scan, Frame.stx, Frame.minSize, Frame.headerSize, Frame.overhead, stray, whole]
  have stream : [[0x00, 0x7E, 0x02, 0x7E, 0x03], [0x01, 0x00, 0x08, 0x24, 0xA9, 0x7F, 0x7E]].flatten
      = [0x00, 0x7E, 0x02, 0x7E, 0x03, 0x01, 0x00, 0x08, 0x24, 0xA9, 0x7F, (0x7E : UInt8)] := rfl
  rw [stream, scanned] at fed bytes
  exact ⟨fit, rest, fed, bytes⟩

end RxBuffer
end LegLink
