import LegLink.Proofs.Lossy.Traffic

set_option autoImplicit false

namespace LegLink

abbrev WatchedLine (β γ δ : Type) := LossyLine (WatchedServos β) (WatchedInputs γ) δ

namespace LossyLine

variable {β γ δ : Type} [ServoBank β] [AnalogSensors γ] [PowerRelay δ]
variable (config : DeviceConfig) (earlier : List (Input × Option Single)) (held : List Packet)

theorem read_arriving (plan : List LineEvent) (l : WatchedLine β γ δ) (byte : UInt8) (rest : Bytes)
    (arriving : l.arriving = byte :: rest) (safe : l.traffic.Safe config earlier held) :
    ∃ l', read plan l = (.ok byte, l') ∧ l'.arriving = rest ∧
      l'.traffic.Safe config earlier held ∧ l'.traffic.issued = l.traffic.issued := by
  have taken (plan : List LineEvent) :
      { l with plan }.take = (.ok byte, { l with plan, arriving := rest }) := by
    simp only [take, arriving]
  fun_induction read plan l with
  | case1 l => exact ⟨_, taken [], rfl, safe, rfl⟩
  | case2 plan l =>
    have begun : { l with plan }.begin = { l with plan } := by
      unfold begin
      rw [arriving]
    rw [begun]
    exact ⟨_, taken plan, rfl, safe, rfl⟩
  | case3 plan l => exact ⟨_, taken plan, rfl, safe, rfl⟩
  | case4 event plan l _ _ ih =>
    obtain ⟨safe, issued⟩ := l.traffic.safe_happen config earlier held safe event
    obtain ⟨l', read, rest, safe, kept⟩ :=
      ih arriving safe (by simp only [take, arriving, implies_true])
    exact ⟨l', read, rest, safe, kept.trans issued⟩

theorem read_idle (plan : List LineEvent) (l : WatchedLine β γ δ) (idle : l.arriving = [])
    (safe : l.traffic.Safe config earlier held) :
    ∃ l', l'.traffic.issued = l.traffic.issued ∧
      ((read plan l = (.error .timeout, l') ∧ l'.arriving = [] ∧
        l'.traffic.Safe config earlier held) ∨
      (∃ reply byte rest, read plan l = (.ok byte, l') ∧ reply.frame = byte :: rest ∧
        l'.arriving = rest ∧ l'.traffic.Safe config earlier (reply :: held))) := by
  have nothing (plan : List LineEvent) :
      { l with plan }.take = (.error .timeout, { l with plan }) := by
    simp only [take, idle]
  fun_induction read plan l with
  | case1 l => exact ⟨{ l with plan := [] }, rfl, .inl ⟨nothing [], idle, safe⟩⟩
  | case2 plan l =>
    cases coming : l.traffic.toHost with
    | nil =>
      have still : { l with plan }.begin = { l with plan } := by
        unfold begin
        rw [idle, coming]
      rw [still]
      exact ⟨{ l with plan }, rfl, .inl ⟨nothing plan, idle, safe⟩⟩
    | cons reply later =>
      have begun : { l with plan }.begin =
          { l with plan, traffic.toHost := later, arriving := reply.frame } := by
        unfold begin
        rw [idle, coming]
      obtain ⟨byte, rest, frame⟩ : ∃ byte rest, reply.frame = byte :: rest := ⟨_, _, rfl⟩
      rw [begun]
      refine ⟨{ l with plan, traffic.toHost := later, arriving := rest }, rfl,
        .inr ⟨reply, byte, rest, ?_, frame, rfl, safe.clean, safe.config, safe.order, ?_,
          safe.since⟩⟩
      · simp only [take, frame]
      · intro other member
        refine safe.replies other ?_
        rw [coming]
        simp only [List.cons_append, List.mem_cons, List.mem_append] at member ⊢
        rcases member with here | there | there
        · exact .inr (.inl here)
        · exact .inl there
        · exact .inr (.inr there)
  | case3 plan l => exact ⟨{ l with plan }, rfl, .inl ⟨nothing plan, idle, safe⟩⟩
  | case4 event plan l _ _ ih =>
    obtain ⟨safe, issued⟩ := l.traffic.safe_happen config earlier held safe event
    obtain ⟨l', kept, found⟩ := ih idle safe (by simp only [take, idle, implies_true])
    exact ⟨l', kept.trans issued, found⟩

theorem delivers_arriving (bytes : Bytes) (l : WatchedLine β γ δ) (arriving : l.arriving = bytes)
    (safe : l.traffic.Safe config earlier held) :
    ∃ l', Delivers bytes l l' ∧ l'.arriving = [] ∧ l'.traffic.Safe config earlier held ∧
      l'.traffic.issued = l.traffic.issued := by
  -- By induction on the bytes of the frame that are still to come.
  induction bytes generalizing l with
  | nil => exact ⟨l, .nothing l, arriving, safe, rfl⟩
  | cons byte rest ih =>
    obtain ⟨next, read, behind, safe, kept⟩ :=
      read_arriving config earlier held l.plan l byte rest arriving safe
    obtain ⟨l', later, idle, safe, issued⟩ := ih next behind safe
    exact ⟨l', .byte byte rest l next l' (fun _ => read) later, idle, safe, issued.trans kept⟩

end LossyLine

namespace Link

variable {β γ δ : Type} [ServoBank β] [AnalogSensors γ] [PowerRelay δ]

structure Between (config : DeviceConfig) (earlier : List (Input × Option Single))
    (held sent : List Packet) (l : Link (WatchedLine β γ δ)) : Prop where
  received : l.rx = .empty
  idle : l.line.arriving = []
  safe : l.line.traffic.Safe config earlier held
  issued : l.line.traffic.issued = sent
  nextSeq : l.nextSeq = UInt16.ofNat sent.length
  numbered : ∀ i p, sent[i]? = some p → p.seq = UInt16.ofNat i

section Reading

variable (config : DeviceConfig) (earlier : List (Input × Option Single)) (sent : List Packet)

theorem recv_between (l : Link (WatchedLine β γ δ)) (between : l.Between config earlier [] sent) :
    ∃ l' : Link (WatchedLine β γ δ), (l.recv = (.error .timeout, l') ∧
        l'.Between config earlier [] sent) ∨
      (∃ reply, l.recv = (.ok reply, l') ∧ l'.Between config earlier [reply] sent) := by
  obtain ⟨received, idle, safe, issued, nextSeq, numbered⟩ := between
  have decoded : l.rx.decode = (none, .empty) := by
    rw [received]
    rfl
  obtain ⟨next, kept, ⟨read, still, safe⟩ | ⟨reply, byte, rest, read, frame, behind, safe⟩⟩ :=
    l.line.read_idle config earlier [] l.line.plan idle safe
  · have failed := recv_within_failed (Transport.byteTimeout l.line) l .empty .timeout next
      decoded read
    exact ⟨_, .inl ⟨failed, rfl, still, safe, kept.trans issued, nextSeq, numbered⟩⟩
  · obtain ⟨line', later, still, safe, same⟩ :=
      next.delivers_arriving config earlier [reply] rest behind safe
    have given : Delivers reply.frame l.line line' := by
      rw [frame]
      exact .byte byte rest l.line next line' (fun _ => read) later
    have taken := recv_within_frame [] reply.frame reply line' (Transport.byteTimeout l.line) l
      List.not_mem_nil given (by rw [received]; rfl)
    exact ⟨_, .inr ⟨reply, taken, rfl, still, safe, (same.trans kept).trans issued, nextSeq,
      numbered⟩⟩

theorem between_received (l l' : Link (WatchedLine β γ δ)) (p : Packet)
    (between : l.Between config earlier [] sent) (received : l.recv = (.ok p, l')) :
    l'.Between config earlier [p] sent := by
  obtain ⟨next, ⟨failed, _⟩ | ⟨reply, taken, kept⟩⟩ := recv_between config earlier sent l between
  · rw [received] at failed
    cases failed
  · rw [received] at taken
    cases taken
    exact kept

theorem between_silent (l l' : Link (WatchedLine β γ δ))
    (between : l.Between config earlier [] sent) (received : l.recv = (.error .timeout, l')) :
    l'.Between config earlier [] sent := by
  obtain ⟨next, ⟨failed, kept⟩ | ⟨reply, taken, _⟩⟩ := recv_between config earlier sent l between
  · rw [received] at failed
    cases failed
    exact kept
  · rw [received] at taken
    cases taken

theorem between_forget (l : Link (WatchedLine β γ δ)) (held : List Packet)
    (less : List (Input × Option Single)) (shorter : less <+: earlier)
    (between : l.Between config earlier held sent) : l.Between config less [] sent := by
  obtain ⟨received, idle, safe, issued, nextSeq, numbered⟩ := between
  refine ⟨received, idle, ⟨safe.clean, safe.config, safe.order, ?_, shorter.trans safe.since⟩,
    issued, nextSeq, numbered⟩
  intro reply member
  obtain ⟨i, p, sent, seq, rested⟩ := safe.replies reply (List.mem_append_right _ member)
  refine ⟨i, p, sent, seq, fun latest => ?_⟩
  obtain ⟨nothing, before, command, after, reacted, alike, since⟩ := rested latest
  exact ⟨nothing, before, command, after, reacted, alike, shorter.trans since⟩

theorem await_reply_between (seq : UInt16) (accept : Packet → Bool) (budget : Nat)
    (l : Link (WatchedLine β γ δ)) (between : l.Between config earlier [] sent) :
    ∃ (reply : Option Packet) (l' : Link (WatchedLine β γ δ)),
      l.awaitReply seq accept budget = (.ok reply, l') ∧
      l'.Between config earlier reply.toList sent ∧ ∀ p, reply = some p → p.seq = seq := by
  fun_induction awaitReply seq accept budget l with
  | case1 budget l p l' received wanted =>
    refine ⟨some p, l', rfl, between_received config earlier sent l l' p between received, ?_⟩
    intro q same
    cases same
    exact wanted.1
  | case2 budget l p l' received unwanted ih =>
    have kept := between_received config earlier sent l l' p between received
    exact ih (between_forget config earlier sent l' [p] earlier (List.prefix_refl _) kept)
  | case3 budget l l' received last =>
    exact ⟨none, l', rfl, between_silent config earlier sent l l' between received,
      fun _ none => nomatch none⟩
  | case4 budget l l' received more ih =>
    exact ih (between_silent config earlier sent l l' between received)
  | case5 budget l e => exact nomatch e

end Reading

section Sending

variable (config : DeviceConfig) (sent : List Packet) (p : Packet)

theorem send_packet_between (l : Link (WatchedLine β γ δ)) (between : l.Between config [] [] sent)
    (seq : p.seq = l.nextSeq) :
    ∃ l' : Link (WatchedLine β γ δ),
      { l with nextSeq := l.nextSeq + 1 }.sendPacket p = (.ok (), l') ∧
      l'.Between config l.line.traffic.device.sensors.samples [] (sent ++ [p]) := by
  obtain ⟨received, idle, safe, issued, nextSeq, numbered⟩ := between
  refine ⟨{ l with nextSeq := l.nextSeq + 1, line.traffic := l.line.traffic.send p.frame }, rfl, ?_⟩
  rw [Traffic.send_frame, issued]
  refine ⟨received, idle, ⟨safe.clean, safe.config, ?_, ?_, List.prefix_refl _⟩, rfl, ?_, ?_⟩
  · rw [← issued]
    exact safe.order.append_right [p]
  · intro reply member
    obtain ⟨i, q, there, echo, _⟩ := safe.replies reply member
    rw [issued] at there
    have early : i < sent.length := (List.getElem?_eq_some_iff.mp there).1
    refine ⟨i, q, ?_, echo, ?_⟩
    · rw [← there]
      exact List.getElem?_append_left early
    · intro latest
      simp only [List.length_append, List.length_singleton] at latest
      omega
  · simp only [nextSeq, List.length_append, List.length_singleton, UInt16.ofNat_add]
    rfl
  · intro i q there
    by_cases early : i < sent.length
    · rw [List.getElem?_append_left early] at there
      exact numbered i q there
    · rw [List.getElem?_append_right (Nat.le_of_not_lt early)] at there
      obtain ⟨inside, same⟩ := List.getElem?_eq_some_iff.mp there
      have latest : i = sent.length := by
        simp only [List.length_singleton] at inside
        omega
      rw [List.getElem_singleton] at same
      rw [← same, seq, nextSeq, latest]

-- Of fewer than 65536 packets no two have one number, so the reply is that to the latest.
theorem answered_latest (l : Link (WatchedLine β γ δ)) (earlier : List (Input × Option Single))
    (reply : Packet) (between : l.Between config earlier [reply] (sent ++ [p]))
    (echo : reply.seq = p.seq) (few : (sent ++ [p]).length < 65536) :
    Traffic.Answered earlier p reply l.line.traffic.device := by
  obtain ⟨i, q, there, seq, rested⟩ := between.safe.replies reply List.mem_cons_self
  rw [between.issued] at there rested
  have last : (sent ++ [p])[sent.length]? = some p := by simp
  have inside : i < (sent ++ [p]).length := (List.getElem?_eq_some_iff.mp there).1
  have same : UInt16.ofNat i = UInt16.ofNat sent.length := by
    rw [← between.numbered i q there, ← between.numbered sent.length p last, ← seq, echo]
  rw [List.length_append, List.length_singleton] at few inside rested
  have index : i = sent.length := by
    have numbers := congrArg UInt16.toNat same
    rwa [UInt16.toNat_ofNat_of_lt' (by unfold UInt16.size; omega),
      UInt16.toNat_ofNat_of_lt' (by unfold UInt16.size; omega)] at numbers
  rw [index, List.getElem?_append_right (Nat.le_refl _), Nat.sub_self] at there
  cases there
  exact (rested (by rw [index])).2

end Sending

end Link
end LegLink
