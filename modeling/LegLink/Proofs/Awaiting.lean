import LegLink.Controller
import LegLink.Proofs.Resuming

set_option autoImplicit false

namespace LegLink

namespace Link

section Wait

variable {σ ε : Type} [Transport σ ε]

theorem receive_all_append (first later : List Receive) (l : Link σ) :
    receiveAll (first ++ later) l =
      ((receiveAll first l).1 ++ (receiveAll later (receiveAll first l).2).1,
        (receiveAll later (receiveAll first l).2).2) := by
  induction first generalizing l with
  | nil => rfl
  | cons call first ih =>
    simp only [List.cons_append, receiveAll]
    rw [ih]

def isSilence : Except (ReadError ε) Packet → Bool
  | .error .timeout => true
  | _ => false

def silences (results : List (Except (ReadError ε) Packet)) : Nat := results.countP isSilence

theorem silences_cons (result : Except (ReadError ε) Packet)
    (results : List (Except (ReadError ε) Packet)) :
    silences (result :: results) = silences results + silences [result] := by
  simp only [silences, List.countP_cons, List.countP_nil, Nat.zero_add]

variable (seq : UInt16) (accept : Packet → Bool) (budget : Nat)

theorem await_reply_recv (l l' : Link σ) (result : Except (ReadError ε) Packet)
    (received : l.recv = (result, l')) :
    l.awaitReply seq accept budget = match result with
      | .ok p =>
        if p.seq = seq ∧ accept p then (.ok (some p), l') else l'.awaitReply seq accept budget
      | .error .timeout =>
        if budget ≤ 1 then (.ok none, l') else l'.awaitReply seq accept (budget - 1)
      | .error (.io e) => (.error e, l') := by
  rw [awaitReply]
  split
  · rename_i p next received'
    rw [received] at received'
    cases received'
    rfl
  · rename_i next received'
    rw [received] at received'
    cases received'
    rfl
  · rename_i e next received'
    rw [received] at received'
    cases received'
    rfl

def Passed : Except (ReadError ε) Packet → Prop
  | .ok p => ¬ (p.seq = seq ∧ accept p = true)
  | .error .timeout => True
  | .error (.io _) => False

inductive Decides (silent : Nat) :
    Except (ReadError ε) Packet → Except ε (Option Packet) → Prop
  | reply (p : Packet) (wanted : p.seq = seq ∧ accept p = true) :
    Decides silent (.ok p) (.ok (some p))
  | fault (e : ε) : Decides silent (.error (.io e)) (.error e)
  | spent (last : silent + 1 = budget) : Decides silent (.error .timeout) (.ok none)

-- The results of calls of `recv` on `l` up to the one that decides, and the link after that call.
-- The results before it were passed, with budget left.
structure Awaited (l : Link σ) (earlier : List (Except (ReadError ε) Packet))
    (last : Except (ReadError ε) Packet) (verdict : Except ε (Option Packet)) (l' : Link σ) :
    Prop where
  received : receiveAll (List.replicate (earlier.length + 1) .recv) l = (earlier ++ [last], l')
  passed : ∀ result ∈ earlier, Passed seq accept result
  patient : silences earlier < budget
  decided : Decides seq accept budget (silences earlier) last verdict

section Walk

variable (l next l' : Link σ) (result last : Except (ReadError ε) Packet)
  (earlier : List (Except (ReadError ε) Packet)) (verdict : Except ε (Option Packet))

theorem decides_add (silent more : Nat) :
    Decides seq accept (budget + more) (silent + more) last verdict ↔
      Decides seq accept budget silent last verdict := by
  constructor
  · intro decided
    cases decided with
    | reply p wanted => exact .reply p wanted
    | fault e => exact .fault e
    | spent last => exact .spent (by omega)
  · intro decided
    cases decided with
    | reply p wanted => exact .reply p wanted
    | fault e => exact .fault e
    | spent last => exact .spent (by omega)

theorem awaited_at_once (some : 0 < budget) (received : l.recv = (last, l'))
    (decided : Decides seq accept budget 0 last verdict) :
    Awaited seq accept budget l [] last verdict l' where
  received := by
    simp only [List.length_nil, List.replicate_succ, List.replicate_zero, receiveAll, receive,
      received, List.nil_append]
  passed result member := absurd member List.not_mem_nil
  patient := some
  decided := decided

theorem awaited_later (received : l.recv = (result, next)) (passed : Passed seq accept result)
    (later : Awaited seq accept budget next earlier last verdict l') :
    Awaited seq accept (budget + silences [result]) l (result :: earlier) last verdict l' where
  received := by
    rw [List.length_cons, List.replicate_succ]
    simp only [receiveAll, receive, received, later.received, List.cons_append]
  passed other member := by
    rcases List.mem_cons.mp member with rfl | member
    · exact passed
    · exact later.passed other member
  patient := by
    rw [silences_cons result earlier]
    exact Nat.add_lt_add_right later.patient _
  decided := by
    rw [silences_cons result earlier]
    exact (decides_add seq accept budget last verdict _ _).mpr later.decided

end Walk

theorem exists_awaited (l : Link σ) (some : 0 < budget) :
    ∃ earlier last verdict l', Awaited seq accept budget l earlier last verdict l' := by
  fun_induction awaitReply seq accept budget l with
  | case1 budget l p l' received wanted =>
    exact ⟨[], _, _, l', awaited_at_once seq accept budget l l' _ _ some received (.reply p wanted)⟩
  | case2 budget l p l' received unwanted ih =>
    obtain ⟨earlier, last, verdict, final, later⟩ := ih some
    exact ⟨_, last, verdict, final,
      awaited_later seq accept budget l l' final _ last earlier verdict received unwanted later⟩
  | case3 budget l l' received few =>
    exact ⟨[], _, _, l', awaited_at_once seq accept budget l l' _ _ some received
      (.spent (by omega))⟩
  | case4 budget l l' received more ih =>
    obtain ⟨earlier, last, verdict, final, later⟩ := ih (by omega)
    have walked := awaited_later seq accept (budget - 1) l l' final _ last earlier verdict received
      trivial later
    have whole : budget - 1 + silences [(.error .timeout : Except (ReadError ε) Packet)] = budget :=
      Nat.sub_add_cancel some
    rw [whole] at walked
    exact ⟨_, last, verdict, final, walked⟩
  | case5 budget l e l' received =>
    exact ⟨[], _, _, l', awaited_at_once seq accept budget l l' _ _ some received (.fault e)⟩

theorem await_reply_awaited (l l' : Link σ) (earlier : List (Except (ReadError ε) Packet))
    (last : Except (ReadError ε) Packet) (verdict : Except ε (Option Packet))
    (awaited : Awaited seq accept budget l earlier last verdict l') :
    l.awaitReply seq accept budget = (verdict, l') := by
  obtain ⟨received, passed, patient, decided⟩ := awaited
  -- By induction on the results that are passed.
  induction earlier generalizing l budget with
  | nil =>
    have first : l.recv = (last, l') := by
      obtain ⟨results, rfl⟩ := Prod.mk.inj received
      exact Prod.ext (List.singleton_inj.mp results) rfl
    rw [await_reply_recv seq accept budget l l' last first]
    cases decided with
    | reply p wanted => exact if_pos wanted
    | fault e => rfl
    | spent last => exact if_pos (Nat.le_of_eq last.symm)
  | cons result earlier ih =>
    rcases first : l.recv with ⟨found, next⟩
    rw [List.length_cons, List.replicate_succ] at received
    simp only [receiveAll, receive, first, List.cons_append, Prod.mk.injEq, List.cons.injEq]
      at received
    obtain ⟨⟨rfl, results⟩, link⟩ := received
    have others : receiveAll (List.replicate (earlier.length + 1) .recv) next =
        (earlier ++ [last], l') := Prod.ext results link
    have here := passed found List.mem_cons_self
    have rest : ∀ result ∈ earlier, Passed seq accept result :=
      fun result member => passed result (List.mem_cons_of_mem _ member)
    rw [await_reply_recv seq accept budget l next found first]
    cases found with
    | ok p =>
      have dropped := ih budget next others rest patient decided
      simpa only [if_neg here] using dropped
    | error failure =>
      cases failure with
      | timeout =>
        obtain ⟨budget, rfl⟩ : ∃ left, budget = left + 1 := ⟨budget - 1, by omega⟩
        rw [silences_cons (.error .timeout) earlier] at patient decided
        have some_left : silences earlier < budget := Nat.lt_of_succ_lt_succ patient
        have waited := ih budget next others rest some_left
          ((decides_add seq accept budget last verdict _ 1).mp decided)
        have more : ¬ budget + 1 ≤ 1 := by omega
        simpa only [if_neg more, Nat.add_sub_cancel] using waited
      | io e => exact absurd here id

end Wait

section Bound

open Line

theorem reads_read_byte (timeout : Duration) (s s' : Script)
    (result : Except (ReadError Fault) UInt8) (read : Transport.readByte timeout s = (result, s')) :
    s'.reads + s'.items.length = s.reads + s.items.length ∨
      (result = .error .timeout ∧ s'.reads + s'.items.length = s.reads + s.items.length + 1) := by
  obtain ⟨rfl, rfl⟩ := Prod.mk.inj read
  rcases s with ⟨byteTimeout, items⟩
  cases items with
  | nil => exact .inr ⟨rfl, Nat.add_right_comm _ _ _⟩
  | cons item items =>
    left
    cases item with
    | byte value => exact Nat.add_right_comm _ _ _
    | silence => exact Nat.add_right_comm _ _ _
    | fault f => exact Nat.add_right_comm _ _ _

theorem reads_recv_within (timeout : Duration) (l : Link Script) :
    (l.recvWithin timeout).2.line.reads + (l.recvWithin timeout).2.line.items.length ≤
      l.line.reads + l.line.items.length + silences [(l.recvWithin timeout).1] := by
  fun_induction recvWithin timeout l with
  | case1 l p rx decoded => exact Nat.le_add_right _ _
  | case2 l rx decoded e line read =>
    rcases reads_read_byte timeout l.line line _ read with taken | ⟨silent, waited⟩
    · exact Nat.le_trans (Nat.le_of_eq taken) (Nat.le_add_right _ _)
    · cases silent
      exact Nat.le_of_eq waited
  | case3 l rx decoded byte line read ih =>
    rcases reads_read_byte timeout l.line line _ read with taken | ⟨silent, _⟩
    · dsimp only at ih
      rwa [taken] at ih
    · cases silent

theorem reads_receive_all (n : Nat) (l : Link Script) :
    (receiveAll (List.replicate n .recv) l).2.line.reads +
        (receiveAll (List.replicate n .recv) l).2.line.items.length ≤
      l.line.reads + l.line.items.length +
        silences (receiveAll (List.replicate n .recv) l).1 := by
  induction n generalizing l with
  | zero => exact Nat.le_refl _
  | succ n ih =>
    have first := reads_recv_within (Transport.byteTimeout l.line) l
    have later := ih l.recv.2
    change l.recv.2.line.reads + l.recv.2.line.items.length ≤ _ + silences [l.recv.1] at first
    rw [List.replicate_succ]
    simp only [receiveAll, receive]
    rw [silences_cons]
    omega

variable (seq : UInt16) (accept : Packet → Bool) (budget : Nat)

theorem reads_awaited (l l' : Link Script) (earlier : List (Except (ReadError Fault) Packet))
    (last : Except (ReadError Fault) Packet) (verdict : Except Fault (Option Packet))
    (awaited : Awaited seq accept budget l earlier last verdict l') :
    l'.line.reads ≤ l.line.reads + l.line.items.length + budget := by
  have counted := reads_receive_all (earlier.length + 1) l
  have one : silences [last] ≤ 1 := List.countP_le_length
  have patient := awaited.patient
  have all : silences (earlier ++ [last]) = silences earlier + silences [last] :=
    List.countP_append
  rw [awaited.received, all] at counted
  dsimp only at counted
  omega

end Bound
end Link

namespace Controller

open Link

theorem reply_budget_pos {σ : Type} (c : Controller σ) : 0 < c.replyBudget :=
  Nat.lt_of_lt_of_le Nat.zero_lt_one (Nat.le_max_right _ _)

end Controller
end LegLink
