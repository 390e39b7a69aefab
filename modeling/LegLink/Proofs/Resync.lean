import LegLink.Proofs.Exactness

/- A start marker in the garbage may claim up to the largest frame, and holds back what follows
while it waits. Behind a frame of the smallest size as many bytes as the two differ by settle every
claim. -/

set_option autoImplicit false

namespace LegLink

namespace Frame

-- A whole frame is taken and skipped, any other byte is passed over.
def framesIn (g : Bytes) : List Packet :=
  match g with
  | [] => []
  | byte :: rest =>
    match Packet.ofFrame? ((byte :: rest).take (((byte :: rest).getD 1 0).toNat + overhead)) with
    | some p => p :: framesIn ((byte :: rest).drop p.frame.length)
    | none => framesIn rest
termination_by g.length
decreasing_by
  · have some := p.length_frame_pos
    rw [List.length_drop, List.length_cons]
    omega
  · exact Nat.lt_succ_self _

theorem frames_in_frame (p : Packet) (rest : Bytes) :
    framesIn (p.frame ++ rest) = p :: framesIn rest := by
  have whole : p.frame ++ rest = stx :: (p.frame.tail ++ rest) := by
    rw [p.frame_eq]
    rfl
  have front := (frame_found_iff (p.frame ++ rest) 0 p).mpr ⟨rest, rfl⟩
  rw [whole, List.drop_zero] at front
  rw [whole, framesIn, front]
  simp only [← whole, List.drop_left]

theorem frames_in_other (byte : UInt8) (rest s : Bytes)
    (none : ∀ (p : Packet) (after : Bytes), byte :: (rest ++ s) ≠ p.frame ++ after) :
    framesIn (byte :: rest) = framesIn rest := by
  rw [framesIn]
  split
  · rename_i p found
    obtain ⟨after, whole⟩ := (frame_found_iff (byte :: rest) 0 p).mp found
    rw [List.drop_zero] at whole
    refine absurd ?_ (none p (after ++ s))
    rw [← List.cons_append, whole, List.append_assoc]
  · rfl

def Clear (s : Bytes) (n : Nat) : Prop :=
  ∀ i < n, ∀ (q : Packet) (after : Bytes), s.drop i = q.frame ++ after → i + q.frame.length ≤ n

theorem clear_iff (s : Bytes) (n : Nat) :
    Clear s n ↔ ∀ i < n, ∀ q ∈ Packet.ofFrame? ((s.drop i).take
      ((s.getD (i + 1) 0).toNat + overhead)), i + q.frame.length ≤ n := by
  simp only [Clear, Option.mem_def, frame_found_iff, forall_exists_index]

instance (s : Bytes) (n : Nat) : Decidable (Clear s n) :=
  decidable_of_iff _ (clear_iff s n).symm

theorem clear_drop (s : Bytes) (n k : Nat) (inside : k ≤ n) (clear : Clear s n) :
    Clear (s.drop k) (n - k) := by
  intro i before q after whole
  rw [List.drop_drop] at whole
  have ends := clear (k + i) (by omega) q after whole
  omega

theorem clear_frame (g s : Bytes) (q : Packet) (after : Bytes) (some : 0 < g.length)
    (clear : Clear (g ++ s) g.length) (whole : g ++ s = q.frame ++ after) :
    ∃ g', g = q.frame ++ g' ∧ after = g' ++ s ∧ Clear (g' ++ s) g'.length := by
  have ends := clear 0 some q after whole
  rw [Nat.zero_add] at ends
  obtain ⟨g', rfl⟩ := List.prefix_of_prefix_length_le ⟨after, rfl⟩ ⟨s, whole⟩ ends
  rw [List.append_assoc] at whole
  refine ⟨g', rfl, (List.append_cancel_left whole).symm, ?_⟩
  have later := clear_drop _ _ q.frame.length ends clear
  rwa [List.append_assoc, List.drop_left, List.length_append, Nat.add_sub_cancel_left] at later

theorem clear_front (a b : Bytes) (n : Nat) (clear : Clear (a ++ b) n) (long : n ≤ a.length) :
    Clear a n := by
  intro i before q after whole
  apply clear i before q (after ++ b)
  rw [List.drop_append_of_le_length (by omega), whole, List.append_assoc]

theorem Taken.congr (a b : Bytes) (packets : List Packet) (result : Option Packet × Bytes)
    (same : decode a = decode b) (taken : ∃ rest, Taken a packets rest ∧ decode rest = result) :
    ∃ rest, Taken b packets rest ∧ decode rest = result := by
  obtain ⟨rest, taken, found⟩ := taken
  cases taken with
  | done => exact ⟨b, .done b, same ▸ found⟩
  | take p _ between _ packets first later =>
    exact ⟨rest, .take p b between rest packets (same ▸ first) later, found⟩

theorem not_short_of_length (rest : Bytes) (long : maxSize < (stx :: rest).length) :
    ¬ Short (stx :: rest) := by
  have bound := ((stx :: rest).getD 1 0).toNat_lt
  unfold maxSize maxPayload at long
  unfold Short
  simp only [minSize, headerSize, overhead] at *
  omega

theorem taken_frames_in (g t : Bytes) (p : Packet) (clear : Clear (g ++ (p.frame ++ t)) g.length)
    (enough : maxSize ≤ (p.frame ++ t).length) :
    ∃ rest, Taken (g ++ (p.frame ++ t)) (framesIn g) rest ∧ decode rest = (some p, t) := by
  cases parts : g with
  | nil =>
    refine ⟨p.frame ++ t, ?_, decode_frame p t⟩
    rw [framesIn]
    exact .done _
  | cons byte tail =>
    rw [parts, List.cons_append] at clear
    rw [List.cons_append]
    have passed (same : decode (tail ++ (p.frame ++ t)) = decode (byte :: (tail ++ (p.frame ++ t))))
        (none : ∀ (q : Packet) (after : Bytes),
          byte :: (tail ++ (p.frame ++ t)) ≠ q.frame ++ after) :
        ∃ rest, Taken (byte :: (tail ++ (p.frame ++ t))) (framesIn (byte :: tail)) rest ∧
          decode rest = (some p, t) := by
      have later : Clear (tail ++ (p.frame ++ t)) tail.length := clear_drop _ _ 1 (by simp) clear
      rw [frames_in_other byte tail _ none]
      exact Taken.congr _ _ _ _ same (taken_frames_in tail t p later enough)
    generalize stream : byte :: (tail ++ (p.frame ++ t)) = s at passed
    cases front s with
    | empty => cases stream
    | noise first rest other =>
      obtain ⟨rfl, rfl⟩ := List.cons.inj stream
      exact passed (decode_noise byte _ other).symm (noise_ne_frame byte _ other)
    | short rest more =>
      obtain ⟨rfl, rfl⟩ := List.cons.inj stream
      -- So many bytes follow that no count is left to wait for.
      refine absurd more (not_short_of_length _ ?_)
      rw [List.length_cons, List.length_append]
      omega
    | stray rest full none =>
      obtain ⟨rfl, rfl⟩ := List.cons.inj stream
      exact passed (decode_stray _ full none).symm none
    | frame q after =>
      obtain ⟨tail', inside, rfl, later⟩ :=
        clear_frame (byte :: tail) _ q after (Nat.succ_pos _) clear stream
      have shorter : tail'.length < g.length := by
        have some := q.length_frame_pos
        rw [parts, inside, List.length_append]
        omega
      obtain ⟨rest, taken, found⟩ := taken_frames_in tail' t p later enough
      rw [inside, frames_in_frame]
      exact ⟨rest, .take q _ _ rest _ (decode_frame q _) taken, found⟩
termination_by g.length
decreasing_by
  · rw [parts]
    exact Nat.lt_succ_self _
  · exact shorter

end Frame

namespace RxBuffer

theorem feeding_found (fed s t : Bytes) (packets : List Packet) (p : Packet) (b b' : RxBuffer)
    (state : Feeding fed packets b) (found : b.decode = (some p, b'))
    (taken : Frame.Taken (fed ++ s) (packets ++ [p]) t) :
    t = b'.bytes ++ s ∧ ∃ d, b.bytes = d ++ (p.frame ++ b'.bytes) := by
  obtain ⟨d, split, _⟩ := Frame.decode_split _ _ _ (bytes_of_decode b b' (some p) found)
  have here := (state.found fed packets b b' p found).append fed b'.bytes s _
  exact ⟨taken.unique _ _ _ _ here, d, split⟩

theorem feed_settled (g t : Bytes) (p : Packet)
    (clear : Frame.Clear (g ++ (p.frame ++ t)) g.length)
    (enough : Frame.maxSize ≤ (p.frame ++ t).length) :
    ∃ before i later rest, feed (g ++ (p.frame ++ t)).zipIdx .empty =
        (.ok (before ++ (i, p) :: later), rest) ∧
      rest.decode = (none, rest) ∧
      (∃ packets, Feeding (g ++ (p.frame ++ t)) packets rest) ∧
      before.map Prod.snd = Frame.framesIn g ∧
      ∃ k, k ≤ t.length ∧ i + 1 = g.length + p.frame.length + k ∧
        ∃ d b b', Feeding (g ++ p.frame ++ t.take k) (Frame.framesIn g) b ∧
          b.decode = (some p, b') ∧ b.bytes = d ++ (p.frame ++ t.take k) ∧ b'.bytes = t.take k := by
  obtain ⟨final, skimmed, found⟩ := Frame.taken_frames_in g t p clear enough
  have taken := skimmed.next p _ final t _ found
  obtain ⟨timed, rest, fed, reports, state, waiting⟩ :=
    feed_reports [] (g ++ (p.frame ++ t)) [] .empty .start rfl
  have packets : timed.map Prod.snd = Frame.framesIn g ++ (p :: (Frame.decodeAll t).1) := by
    have all := state.waiting _ _ _ waiting
    rw [List.nil_append, taken.decode_all _ _ _] at all
    simpa using (congrArg Prod.fst all).symm
  obtain ⟨before, i, later, rfl, first, inside, b, b', here, decoded⟩ :=
    reports_at _ timed _ _ p reports packets
  rw [List.nil_append] at inside here
  have halves : ∃ s, (g ++ (p.frame ++ t)).take (i + 1) ++ s = g ++ (p.frame ++ t) :=
    ⟨_, List.take_append_drop _ _⟩
  obtain ⟨s, halves⟩ := halves
  rw [← halves] at taken
  obtain ⟨behind, d, split⟩ := feeding_found _ s t _ p b b' here decoded taken
  have fed_here : (g ++ (p.frame ++ t)).take (i + 1) = g ++ p.frame ++ b'.bytes := by
    have whole : (g ++ (p.frame ++ t)).take (i + 1) ++ s = g ++ p.frame ++ b'.bytes ++ s := by
      rw [halves, behind]
      simp only [List.append_assoc]
    exact List.append_cancel_right whole
  have front : t.take b'.bytes.length = b'.bytes := by
    rw [behind, List.take_left]
  refine ⟨before, i, later, rest, fed, waiting, ⟨_, state⟩, first, b'.bytes.length, ?_, ?_,
    d, b, b', ?_, decoded, ?_, front.symm⟩
  · rw [behind, List.length_append]
    exact Nat.le_add_right _ _
  · have lengths := congrArg List.length fed_here
    simp only [List.length_append, List.length_take] at lengths inside
    omega
  · rwa [front, ← fed_here]
  · rwa [front]

/-- A frame behind garbage is taken, and at most so many bytes after it as a frame may be longer
than the smallest one. Nothing in the garbage but whole frames is taken for a packet. -/
theorem feed_resync (g t : Bytes) (p : Packet)
    (clear : Frame.Clear (g ++ (p.frame ++ t)) g.length)
    (enough : Frame.maxSize - Frame.minSize ≤ t.length) :
    ∃ before i later rest, feed (g ++ (p.frame ++ t)).zipIdx .empty =
        (.ok (before ++ (i, p) :: later), rest) ∧
      before.map Prod.snd = Frame.framesIn g ∧
      ∃ k, k ≤ Frame.maxSize - Frame.minSize ∧ i + 1 = g.length + p.frame.length + k ∧
        ∃ d b b', Feeding (g ++ p.frame ++ t.take k) (Frame.framesIn g) b ∧
          b.decode = (some p, b') ∧ b.bytes = d ++ (p.frame ++ t.take k) ∧ b'.bytes = t.take k := by
  have size := p.length_frame_ge
  have short : (t.take (Frame.maxSize - Frame.minSize)).length = Frame.maxSize - Frame.minSize :=
    List.length_take_of_le enough
  have stream : g ++ (p.frame ++ t) = g ++ (p.frame ++ t.take (Frame.maxSize - Frame.minSize)) ++
      t.drop (Frame.maxSize - Frame.minSize) := by
    rw [List.append_assoc, List.append_assoc, List.take_append_drop]
  have front : Frame.Clear (g ++ (p.frame ++ t.take (Frame.maxSize - Frame.minSize))) g.length := by
    rw [stream] at clear
    apply Frame.clear_front _ _ _ clear
    rw [List.length_append]
    exact Nat.le_add_right _ _
  have settles : Frame.maxSize ≤
      (p.frame ++ t.take (Frame.maxSize - Frame.minSize)).length := by
    rw [List.length_append, short]
    omega
  obtain ⟨before, i, later, rest, fed, waiting, ⟨packets, state⟩, first, k, bound, position,
    found⟩ := feed_settled g _ p front settles
  rw [short] at bound
  obtain ⟨more, last, fedMore, -, -, -⟩ := feed_reports _ (t.drop (Frame.maxSize - Frame.minSize))
    packets rest state waiting
  refine ⟨before, i, later ++ more, last, ?_, first, k, bound, position, ?_⟩
  · rw [stream, List.zipIdx_append, Nat.zero_add]
    rw [feed_append _ _ _ rest last _ more fed fedMore]
    simp only [List.append_assoc, List.cons_append]
  · rwa [List.take_take, Nat.min_eq_left bound] at found

set_option maxRecDepth 4000 in
theorem feed_resync_claimed :
    Frame.Clear ([0x7E, 0xFF, 0x7E, 0x03, 0x01, 0x00, 0x08, 0x24, 0xA9, 0x7F, 0x7E] ++
        ((⟨2, 0x08, .empty⟩ : Packet).frame ++ List.replicate 252 0x7F)) 11 ∧
      Frame.maxSize - Frame.minSize ≤ (List.replicate 252 (0x7F : UInt8)).length ∧
      ∃ before i later rest,
        feed ([0x7E, 0xFF, 0x7E, 0x03, 0x01, 0x00, 0x08, 0x24, 0xA9, 0x7F, 0x7E] ++
          ((⟨2, 0x08, .empty⟩ : Packet).frame ++ List.replicate 252 0x7F)).zipIdx .empty =
            (.ok (before ++ (i, ⟨2, 0x08, .empty⟩) :: later), rest) ∧
        before.map Prod.snd = [⟨1, 0x08, .empty⟩] ∧ i < 19 + 252 := by
  have clear : Frame.Clear ([0x7E, 0xFF, 0x7E, 0x03, 0x01, 0x00, 0x08, 0x24, 0xA9, 0x7F, 0x7E] ++
      ((⟨2, 0x08, .empty⟩ : Packet).frame ++ List.replicate 252 0x7F)) 11 := by decide +kernel
  have enough : Frame.maxSize - Frame.minSize ≤ (List.replicate 252 (0x7F : UInt8)).length := by
    decide
  have inside : Frame.framesIn [0x7E, 0xFF, 0x7E, 0x03, 0x01, 0x00, 0x08, 0x24, 0xA9, 0x7F, 0x7E] =
      [⟨1, 0x08, .empty⟩] := by decide +kernel
  obtain ⟨before, i, later, rest, fed, first, k, bound, position, _⟩ :=
    feed_resync _ _ _ clear enough
  refine ⟨clear, enough, before, i, later, rest, fed, first.trans inside, ?_⟩
  have size : (⟨2, 0x08, .empty⟩ : Packet).frame.length = 8 := by decide +kernel
  have room : Frame.maxSize - Frame.minSize = 252 := by decide
  simp only [size, room, List.length_cons, List.length_nil] at position bound
  omega

end RxBuffer
end LegLink
