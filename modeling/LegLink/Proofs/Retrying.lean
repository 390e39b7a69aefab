import LegLink.Proofs.Greeting
import LegLink.Session

set_option autoImplicit false

namespace LegLink

open Handshake (Outcome)

namespace Controller

variable {σ ε : Type} [Transport σ ε]

def GoesOn (result : Except (ControllerError ε) Outcome) : Prop :=
  ∃ outcome, result = .ok outcome ∧ outcome.isAccepted = false

def settle (attempts : Nat) :
    Except (ControllerError ε) Outcome → Except (ControllerError ε) HelloAck
  | .error e => .error e
  | .ok (.accepted ack) => .ok ack
  | .ok last => .error (.handshakeFailed attempts last)

theorem settle_refused (attempts : Nat) (last : Outcome) (refused : last.isAccepted = false) :
    settle attempts (.ok last : Except (ControllerError ε) Outcome) =
      .error (.handshakeFailed attempts last) := by
  cases last with
  | accepted ack => cases refused
  | rejected | timedOut => rfl

section Step

variable (c next : Controller σ) (tried : Outcome) (left : Nat)

theorem handshake_from_again (outcome : Outcome) (once : c.handshakeOnce = (.ok outcome, next))
    (refused : outcome.isAccepted = false) :
    c.handshakeFrom tried (left + 1) = next.handshakeFrom outcome left := by
  cases outcome with
  | accepted ack => cases refused
  | rejected | timedOut => simp only [handshakeFrom, once]

theorem handshake_from_decided (result : Except (ControllerError ε) Outcome) (attempts : Nat)
    (once : c.handshakeOnce = (result, next)) (decided : ¬ GoesOn result) :
    c.handshakeFrom tried (left + 1) = (settle attempts result, next) := by
  rcases result with e | ack | reason | -
  · simp only [handshakeFrom, once, settle]
  · simp only [handshakeFrom, once, settle]
  · exact absurd ⟨.rejected reason, rfl, rfl⟩ decided
  · exact absurd ⟨.timedOut, rfl, rfl⟩ decided

end Step

def afterHellos (n : Nat) (c : Controller σ) : Controller σ :=
  after (List.replicate n .handshakeOnce) c

section Hellos

variable (c : Controller σ) (n : Nat)

theorem config_after_hellos : (afterHellos n c).config = c.config := by
  refine config_after _ c fun member => ?_
  cases (List.mem_replicate.mp member).2

theorem after_hellos_succ : afterHellos (n + 1) c = (afterHellos n c).handshakeOnce.2 := by
  rw [afterHellos, List.replicate_succ', after_append]
  rfl

theorem next_seq_handshake_once : c.handshakeOnce.2.link.nextSeq = c.link.nextSeq + 1 := by
  obtain ⟨course, link, greeted⟩ := c.exists_greeted
  rw [handshake_once_course c course link greeted]
  exact c.next_seq_greeted course link greeted

theorem next_seq_after_hellos :
    (afterHellos n c).link.nextSeq = c.link.nextSeq + UInt16.ofNat n := by
  induction n with
  | zero => exact (UInt16.add_zero _).symm
  | succ n ih =>
    rw [after_hellos_succ, next_seq_handshake_once, ih, UInt16.ofNat_add, ← UInt16.add_assoc]
    rfl

theorem io_of_failed (e : ControllerError ε) (failed : c.handshakeOnce.1 = .error e) :
    ∃ cause, e = .io cause := by
  obtain ⟨course, link, greeted⟩ := c.exists_greeted
  rw [handshake_once_course c course link greeted] at failed
  cases course with
  | unsent cause | broken cause =>
    cases failed
    exact ⟨cause, rfl⟩
  | decided reply => cases failed

def helloAfter : Packet :=
  (Hello.mk c.config.protocolVersion c.config.capabilities).packet
    (c.link.nextSeq + UInt16.ofNat n)

theorem hello_after_hellos : (afterHellos n c).hello = c.helloAfter n := by
  rw [hello, config_after_hellos, next_seq_after_hellos]
  rfl

end Hellos

theorem writes_after_hellos (c : Controller (Line.Recorded σ)) (n : Nat) :
    (afterHellos n c).link.line.writes =
      c.link.line.writes ++ (List.range n).map fun i => (c.helloAfter i).frame := by
  induction n with
  | zero => exact (List.append_nil _).symm
  | succ n ih =>
    rw [after_hellos_succ, writes_handshake_once, ih, hello_after_hellos, List.range_succ,
      List.map_append, List.append_assoc]
    rfl

-- The HELLO with this index ends a handshake of so many tries: each before it is worth another try,
-- and it is so itself only when the tries are used up.
structure EndsWith (c : Controller σ) (tries last : Nat) : Prop where
  within : last < tries
  earlier : ∀ i < last, GoesOn (afterHellos i c).handshakeOnce.1
  spent : GoesOn (afterHellos last c).handshakeOnce.1 → last + 1 = tries

theorem EndsWith.unique {c : Controller σ} {tries a b : Nat} (first : c.EndsWith tries a)
    (second : c.EndsWith tries b) : a = b := by
  rcases Nat.lt_trichotomy a b with before | same | after
  · have full := first.spent (second.earlier a before)
    have within := second.within
    omega
  · exact same
  · have full := second.spent (first.earlier b after)
    have within := first.within
    omega

theorem exists_ends_with (tried : Outcome) (tries : Nat) (c : Controller σ) (some : 0 < tries) :
    ∃ last, c.EndsWith tries last ∧
      c.handshakeFrom tried tries =
        (settle c.attempts (afterHellos last c).handshakeOnce.1, afterHellos (last + 1) c) := by
  -- By induction on the tries; those after the first are the tries of the host after it.
  induction tries generalizing tried c with
  | zero => cases some
  | succ left ih =>
    rcases once : c.handshakeOnce with ⟨result, next⟩
    have first : (afterHellos 0 c).handshakeOnce.1 = result := congrArg Prod.fst once
    have shifted (i : Nat) : afterHellos (i + 1) c = afterHellos i next :=
      congrArg (after (List.replicate i .handshakeOnce)) (congrArg Prod.snd once)
    by_cases goes : GoesOn result
    · obtain ⟨outcome, rfl, refused⟩ := goes
      rw [handshake_from_again c next tried left outcome once refused]
      have kept : next.attempts = c.attempts := by
        have config := config_after_hellos c 1
        rw [shifted] at config
        exact congrArg (fun config => max config.attempts.toNat 1) config
      cases left with
      | zero =>
        refine ⟨0, ⟨Nat.zero_lt_one, fun i none => absurd none (Nat.not_lt_zero i),
          fun _ => rfl⟩, ?_⟩
        rw [first, shifted, settle_refused _ outcome refused, ← kept]
        rfl
      | succ left =>
        obtain ⟨last, ends, found⟩ := ih outcome next (Nat.succ_pos left)
        refine ⟨last + 1, ⟨Nat.succ_lt_succ ends.within, ?_, ?_⟩, ?_⟩
        · intro i before
          cases i with
          | zero => exact ⟨outcome, first, refused⟩
          | succ i =>
            rw [shifted]
            exact ends.earlier i (Nat.lt_of_succ_lt_succ before)
        · intro again
          rw [shifted] at again
          exact congrArg (· + 1) (ends.spent again)
        · rw [found, shifted, shifted, kept]
    · refine ⟨0, ⟨Nat.succ_pos left, fun i none => absurd none (Nat.not_lt_zero i), ?_⟩, ?_⟩
      · intro again
        exact absurd (first ▸ again) goes
      · rw [first, shifted]
        exact handshake_from_decided c next tried left result c.attempts once goes

theorem attempts_pos (c : Controller σ) : 0 < c.attempts :=
  Nat.lt_of_lt_of_le Nat.zero_lt_one (Nat.le_max_right _ _)

end Controller

namespace Session

variable {σ ε : Type}

def conclude (tried : Outcome) :
    Except (ControllerError ε) (Option HelloAck) × List Outcome × Controller σ →
      Except (ControllerError ε) HelloAck × Controller σ
  | (.error e, _, c) => (.error e, c)
  | (.ok (some ack), _, c) => (.ok ack, c)
  | (.ok none, outcomes, c) =>
    (.error (.handshakeFailed c.attempts (outcomes.getLastD tried)), c)

theorem conclude_cons (tried outcome : Outcome) (outcomes : List Outcome) (c : Controller σ)
    (result : Except (ControllerError ε) (Option HelloAck)) :
    conclude tried (result, outcome :: outcomes, c) = conclude outcome (result, outcomes, c) := by
  rcases result with e | - | ack
  · rfl
  · simp only [conclude, List.getLastD_cons]
  · rfl

variable [Transport σ ε]

theorem tries_again (c next : Controller σ) (left : Nat) (outcome : Outcome)
    (once : c.handshakeOnce = (.ok outcome, next)) (refused : outcome.isAccepted = false) :
    tries (left + 1) c =
      ((tries left next).1, outcome :: (tries left next).2.1, (tries left next).2.2) := by
  cases outcome with
  | accepted ack => cases refused
  | rejected | timedOut => simp only [tries, once]

theorem handshake_from_tries (tried : Outcome) (left : Nat) (c : Controller σ) :
    c.handshakeFrom tried left = conclude tried (tries left c) := by
  induction left generalizing tried c with
  | zero => rfl
  | succ left ih =>
    rcases once : c.handshakeOnce with ⟨result, next⟩
    have again (outcome : Outcome) (same : result = .ok outcome)
        (refused : outcome.isAccepted = false) :
        c.handshakeFrom tried (left + 1) = conclude tried (tries (left + 1) c) := by
      rw [same] at once
      rw [c.handshake_from_again next tried left outcome once refused,
        tries_again c next left outcome once refused, conclude_cons]
      exact ih outcome next
    rcases result with e | ack | reason | -
    · simp only [Controller.handshakeFrom, tries, once, conclude]
    · simp only [Controller.handshakeFrom, tries, once, conclude]
    · exact again (.rejected reason) rfl rfl
    · exact again .timedOut rfl rfl

theorem handshake_agrees (describe : ε → String) (c : Controller σ) :
    handshake describe c = (c.handshake.1.mapError (.ofController describe), c.handshake.2) := by
  rw [Controller.handshake, handshake_from_tries, handshake]
  rcases tries c.attempts c with ⟨result, outcomes, final⟩
  rcases result with e | - | ack
  · rfl
  · rfl
  · rfl

end Session

namespace Controller

variable {σ ε : Type} [Transport σ ε]

end Controller
end LegLink
