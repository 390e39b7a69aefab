import LegLink.Proofs.Awaiting

set_option autoImplicit false

namespace LegLink

inductive Yields {σ ε : Type} [Transport σ ε] : Bytes → σ → σ → Prop
  | nothing (line : σ) : Yields [] line line
  | byte (timeout : Duration) (byte : UInt8) (rest : Bytes) (line next after : σ)
      (read : Transport.readByte timeout line = (.ok byte, next))
      (later : Yields rest next after) : Yields (byte :: rest) line after
  | failed (timeout : Duration) (e : ReadError ε) (heard : Bytes) (line next after : σ)
      (read : Transport.readByte timeout line = (.error e, next))
      (later : Yields heard next after) : Yields heard line after

namespace Yields

variable {σ ε : Type} [Transport σ ε]

theorem append (first second : Bytes) (line between after : σ)
    (earlier : Yields first line between) (later : Yields second between after) :
    Yields (first ++ second) line after := by
  induction earlier with
  | nothing line => exact later
  | byte timeout byte rest line next between read _ ih =>
    exact .byte timeout byte _ line next after read (ih later)
  | failed timeout e heard line next between read _ ih =>
    exact .failed timeout e _ line next after read (ih later)

theorem writes (heard : Bytes) (r r' : Line.Recorded σ) (yields : Yields heard r r') :
    r'.writes = r.writes := by
  induction yields with
  | nothing line => rfl
  | byte timeout byte rest line next after read _ ih =>
    exact ih.trans (Link.writes_read timeout line next _ read).2
  | failed timeout e heard line next after read _ ih =>
    exact ih.trans (Link.writes_read timeout line next _ read).2

end Yields

namespace Link

open RxBuffer

variable {σ ε : Type} [Transport σ ε]

-- From one link to the other the line gave these bytes, and with them these packets were decoded,
-- whatever the buffer had been fed before.
structure Gathers (heard : Bytes) (found : List Packet) (l l' : Link σ) : Prop where
  yields : Yields heard l.line l'.line
  feeding : ∀ fed packets, Feeding fed packets l.rx →
    Feeding (fed ++ heard) (packets ++ found) l'.rx

theorem Gathers.append (first second : Bytes) (a b : List Packet) (l between l' : Link σ)
    (earlier : Gathers first a l between) (later : Gathers second b between l') :
    Gathers (first ++ second) (a ++ b) l l' where
  yields := earlier.yields.append first second l.line between.line l'.line later.yields
  feeding fed packets state := by
    rw [← List.append_assoc, ← List.append_assoc]
    exact later.feeding _ _ (earlier.feeding fed packets state)

theorem recv_within_gathers (timeout : Duration) (l : Link σ) :
    ∃ heard, Gathers heard (l.recvWithin timeout).1.toOption.toList l (l.recvWithin timeout).2 := by
  fun_induction recvWithin timeout l with
  | case1 l p rx decoded =>
    refine ⟨[], .nothing l.line, fun fed packets state => ?_⟩
    have looked := state.look fed packets l.rx
    rw [decoded] at looked
    rw [List.append_nil]
    exact looked
  | case2 l rx decoded e line read =>
    refine ⟨[], .failed timeout e [] l.line line line read (.nothing line), ?_⟩
    intro fed packets state
    have looked := (state.looked fed packets l.rx rx decoded).1
    rw [List.append_nil]
    exact (List.append_nil packets).symm ▸ looked
  | case3 l rx decoded byte line read ih =>
    obtain ⟨heard, later⟩ := ih
    refine ⟨byte :: heard, .byte timeout byte heard l.line line _ read later.yields, ?_⟩
    intro fed packets state
    rw [List.append_cons]
    exact later.feeding _ _ (state.pushed fed packets l.rx rx byte decoded)

theorem receive_all_gathers (n : Nat) (l : Link σ) :
    ∃ heard, Gathers heard
      ((receiveAll (List.replicate n .recv) l).1.filterMap Except.toOption) l
      (receiveAll (List.replicate n .recv) l).2 := by
  induction n generalizing l with
  | zero =>
    refine ⟨[], .nothing l.line, fun fed packets state => ?_⟩
    rw [List.append_nil]
    exact (List.append_nil packets).symm ▸ state
  | succ n ih =>
    obtain ⟨first, earlier⟩ := recv_within_gathers (Transport.byteTimeout l.line) l
    obtain ⟨second, later⟩ := ih l.recv.2
    have both := earlier.append first second _ _ l l.recv.2 _ later
    refine ⟨first ++ second, ?_⟩
    rw [List.replicate_succ]
    simp only [receiveAll, receive, List.filterMap_cons]
    change Gathers _ (l.recv.1.toOption.toList ++ _) _ _ at both
    cases found : l.recv.1.toOption with
    | none => rwa [found] at both
    | some p => rwa [found] at both

theorem await_reply_gathers (seq : UInt16) (accept : Packet → Bool) (budget : Nat) (l : Link σ)
    (some : 0 < budget) :
    ∃ heard found, Gathers heard found l (l.awaitReply seq accept budget).2 ∧
      ∀ p, (l.awaitReply seq accept budget).1 = .ok (.some p) →
        p.seq = seq ∧ ∃ earlier, found = earlier ++ [p] := by
  obtain ⟨earlier, last, verdict, l', awaited⟩ := exists_awaited seq accept budget l some
  obtain ⟨heard, gathers⟩ := receive_all_gathers (earlier.length + 1) l
  rw [await_reply_awaited seq accept budget l l' earlier last verdict awaited]
  rw [awaited.received, List.filterMap_append] at gathers
  refine ⟨heard, _, gathers, ?_⟩
  rintro p rfl
  cases awaited.decided with
  | reply _ wanted => exact ⟨wanted.1, _, rfl⟩

end Link
end LegLink
