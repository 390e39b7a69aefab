import LegLink.Proofs.Frames

set_option autoImplicit false

namespace LegLink.Frame

inductive Front : Bytes → Prop
  | empty : Front []
  | noise (byte : UInt8) (rest : Bytes) (other : byte ≠ stx) : Front (byte :: rest)
  | short (rest : Bytes) (more : Short (stx :: rest)) : Front (stx :: rest)
  | stray (rest : Bytes) (enough : ¬ Short (stx :: rest))
      (none : ∀ (p : Packet) (after : Bytes), stx :: rest ≠ p.frame ++ after) : Front (stx :: rest)
  | frame (p : Packet) (rest : Bytes) : Front (p.frame ++ rest)

theorem front (bytes : Bytes) : Front bytes := by
  cases bytes with
  | nil => exact .empty
  | cons byte rest =>
    by_cases marker : byte = stx
    · subst marker
      cases verdict : inspect rest with
      | incomplete => exact .short rest ((inspect_incomplete_iff rest).mp verdict)
      | complete p after =>
        rw [frame_of_inspect p rest after verdict]
        exact .frame p after
      | invalid =>
        obtain ⟨enough, none⟩ := (inspect_invalid_iff rest).mp verdict
        exact .stray rest enough none
    · exact .noise byte rest marker

section Decode

theorem decode_noise (byte : UInt8) (rest : Bytes) (other : byte ≠ stx) :
    decode (byte :: rest) = decode rest := by
  rw [decode, if_pos other]

theorem decode_short (rest : Bytes) (more : Short (stx :: rest)) :
    decode (stx :: rest) = (none, stx :: rest) := by
  rw [decode, if_neg (not_not_intro rfl), (inspect_incomplete_iff rest).mpr more]

theorem decode_stray (rest : Bytes) (enough : ¬ Short (stx :: rest))
    (none : ∀ (p : Packet) (after : Bytes), stx :: rest ≠ p.frame ++ after) :
    decode (stx :: rest) = decode rest := by
  rw [decode, if_neg (not_not_intro rfl), (inspect_invalid_iff rest).mpr ⟨enough, none⟩]

theorem decode_frame (p : Packet) (rest : Bytes) : decode (p.frame ++ rest) = (some p, rest) := by
  have whole : p.frame ++ rest = stx :: (p.frame.tail ++ rest) := by rw [Packet.frame_eq]; rfl
  rw [whole, decode, if_neg (not_not_intro rfl), inspect_frame p _ rest whole.symm]

theorem decode_frame_after (noise : Bytes) (p : Packet) (rest : Bytes) (quiet : stx ∉ noise) :
    decode (noise ++ (p.frame ++ rest)) = (some p, rest) := by
  induction noise with
  | nil => exact decode_frame p rest
  | cons byte noise ih =>
    have other : byte ≠ stx := fun marker => quiet (by rw [marker]; exact List.mem_cons_self)
    rw [List.cons_append, decode_noise byte _ other]
    exact ih fun later => quiet (List.mem_cons_of_mem _ later)

theorem decode_cut (noise : Bytes) (p : Packet) (a b : Bytes) (quiet : stx ∉ noise)
    (cut : a ++ b = noise ++ p.frame) (more : b ≠ []) :
    ∃ noise' rest, decode a = (none, rest) ∧ rest ++ b = noise' ++ p.frame ∧ stx ∉ noise' ∧
      rest.length < maxSize := by
  induction noise generalizing a with
  | nil =>
    rw [List.nil_append] at cut
    cases a with
    | nil => exact ⟨[], [], rfl, cut, List.not_mem_nil, by decide⟩
    | cons byte a =>
      have short := short_of_cut p (byte :: a) b cut more
      have length := congrArg List.length cut
      have bound := p.length_frame_le
      have left : 0 < b.length := List.length_pos_iff.mpr more
      rw [List.length_append] at length
      have marker : byte = stx := by
        rw [Packet.frame_eq, List.cons_append] at cut
        exact (List.cons.inj cut).1
      subst marker
      exact ⟨[], stx :: a, decode_short a short, cut, List.not_mem_nil, by omega⟩
  | cons byte noise ih =>
    have other : byte ≠ stx := fun marker => quiet (by rw [marker]; exact List.mem_cons_self)
    cases a with
    | nil => exact ⟨byte :: noise, [], rfl, cut, quiet, by decide⟩
    | cons first a =>
      rw [List.cons_append, List.cons_append] at cut
      obtain ⟨rfl, later⟩ := List.cons.inj cut
      rw [decode_noise first a other]
      exact ih a (fun marker => quiet (List.mem_cons_of_mem _ marker)) later

theorem stray_append (a b : Bytes) (enough : ¬ Short a)
    (none : ∀ (p : Packet) (after : Bytes), a ≠ p.frame ++ after)
    (p : Packet) (after : Bytes) : a ++ b ≠ p.frame ++ after := by
  intro whole
  rcases List.append_eq_append_iff.mp whole with ⟨missing, cut, _⟩ | ⟨rest, cut, _⟩
  · by_cases more : missing = []
    · exact none p [] (by rw [cut, more, List.append_nil, List.append_nil])
    · exact enough (short_of_cut p a missing cut.symm more)
  · exact none p rest cut

-- A result stands whatever comes later, and a search without one goes on with what was kept.
theorem decode_append (a b : Bytes) :
    decode (a ++ b) =
      match decode a with
      | (none, rest) => decode (rest ++ b)
      | (some p, rest) => (some p, rest ++ b) := by
  cases front a with
  | empty => rfl
  | noise byte tail other =>
    rw [List.cons_append, decode_noise byte _ other, decode_noise byte tail other]
    exact decode_append tail b
  | short tail more => rw [decode_short tail more]
  | stray tail enough none =>
    have still := stray_append (stx :: tail) b enough none
    have enough' := not_short_append (stx :: tail) b enough
    rw [List.cons_append] at still enough' ⊢
    rw [decode_stray _ enough' still, decode_stray tail enough none]
    exact decode_append tail b
  | frame p tail => rw [List.append_assoc, decode_frame, decode_frame]
termination_by a.length

theorem decode_append_none (a b rest : Bytes) (found : decode a = (none, rest)) :
    decode (a ++ b) = decode (rest ++ b) := by
  rw [decode_append, found]

theorem decode_append_some (p : Packet) (a b rest : Bytes) (found : decode a = (some p, rest)) :
    decode (a ++ b) = (some p, rest ++ b) := by
  rw [decode_append, found]

theorem decode_kept (a rest : Bytes) (found : decode a = (none, rest)) :
    decode rest = (none, rest) := by
  have again := decode_append_none a [] rest found
  rw [List.append_nil, List.append_nil, found] at again
  exact again.symm

theorem length_kept_lt (a rest : Bytes) (found : decode a = (none, rest)) :
    rest.length < maxSize := by
  have kept := decode_kept a rest found
  have no_shorter (byte : UInt8) (tail : Bytes) : decode tail ≠ (none, byte :: tail) := by
    intro dropped
    have shorter := length_decode_le tail
    rw [dropped] at shorter
    exact absurd shorter (Nat.not_succ_le_self _)
  cases front rest with
  | empty => decide
  | noise byte tail other =>
    rw [decode_noise byte tail other] at kept
    exact absurd kept (no_shorter byte tail)
  | short tail more =>
    have bound := ((stx :: tail).getD 1 0).toNat_lt
    unfold Short at more
    unfold maxSize maxPayload
    simp only [minSize, headerSize, overhead] at *
    omega
  | stray tail enough none =>
    rw [decode_stray tail enough none] at kept
    exact absurd kept (no_shorter stx tail)
  | frame p tail =>
    rw [decode_frame] at kept
    cases kept

end Decode

def decodeAll (bytes : Bytes) : List Packet × Bytes :=
  match _found : decode bytes with
  | (none, rest) => ([], rest)
  | (some p, rest) => (p :: (decodeAll rest).1, (decodeAll rest).2)
termination_by bytes.length
decreasing_by all_goals exact length_decode_lt _found

section DecodeAll

theorem decode_all_none (bytes rest : Bytes) (found : decode bytes = (none, rest)) :
    decodeAll bytes = ([], rest) := by
  rw [decodeAll]
  split
  · rename_i other found'
    rw [found] at found'
    cases found'
    rfl
  · rename_i p other found'
    rw [found] at found'
    cases found'

theorem decode_all_some (p : Packet) (bytes rest : Bytes) (found : decode bytes = (some p, rest)) :
    decodeAll bytes = (p :: (decodeAll rest).1, (decodeAll rest).2) := by
  rw [decodeAll]
  split
  · rename_i other found'
    rw [found] at found'
    cases found'
  · rename_i q other found'
    rw [found] at found'
    cases found'
    rfl

theorem decode_all_congr (a b : Bytes) (same : decode a = decode b) :
    decodeAll a = decodeAll b := by
  rcases found : decode b with ⟨result, rest⟩
  cases result with
  | none => rw [decode_all_none b rest found, decode_all_none a rest (same.trans found)]
  | some p =>
    rw [decode_all_some p b rest found, decode_all_some p a rest (same.trans found)]

theorem decode_all_nil : decodeAll [] = ([], []) := decode_all_none [] [] rfl

theorem decode_all_noise (byte : UInt8) (rest : Bytes) (other : byte ≠ stx) :
    decodeAll (byte :: rest) = decodeAll rest :=
  decode_all_congr _ _ (decode_noise byte rest other)

theorem decode_all_short (rest : Bytes) (more : Short (stx :: rest)) :
    decodeAll (stx :: rest) = ([], stx :: rest) :=
  decode_all_none _ _ (decode_short rest more)

theorem decode_all_stray (rest : Bytes) (enough : ¬ Short (stx :: rest))
    (none : ∀ (p : Packet) (after : Bytes), stx :: rest ≠ p.frame ++ after) :
    decodeAll (stx :: rest) = decodeAll rest :=
  decode_all_congr _ _ (decode_stray rest enough none)

theorem decode_all_frame (p : Packet) (rest : Bytes) :
    decodeAll (p.frame ++ rest) = (p :: (decodeAll rest).1, (decodeAll rest).2) :=
  decode_all_some p _ _ (decode_frame p rest)

end DecodeAll

theorem decode_all_append (a b : Bytes) :
    decodeAll (a ++ b) = ((decodeAll a).1 ++ (decodeAll ((decodeAll a).2 ++ b)).1,
      (decodeAll ((decodeAll a).2 ++ b)).2) := by
  rcases found : decode a with ⟨result, rest⟩
  cases result with
  | none =>
    rw [decode_all_none a rest found, List.nil_append]
    exact decode_all_congr _ _ (decode_append_none a b rest found)
  | some p =>
    rw [decode_all_some p a rest found, decode_all_some p _ _ (decode_append_some p a b rest found),
      decode_all_append rest b]
    rfl
termination_by a.length
decreasing_by exact length_decode_lt found

theorem decode_all_kept (bytes : Bytes) :
    decodeAll (decodeAll bytes).2 = ([], (decodeAll bytes).2) := by
  have again := decode_all_append bytes []
  rw [List.append_nil, List.append_nil] at again
  obtain ⟨packets, rest⟩ := Prod.mk.inj again
  have none := List.self_eq_append_right.mp packets
  exact Prod.ext none rest.symm

end LegLink.Frame
