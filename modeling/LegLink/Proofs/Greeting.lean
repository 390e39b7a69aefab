import LegLink.Proofs.Connection

set_option autoImplicit false

namespace LegLink

open Handshake (Outcome State)

namespace Handshake

def Outcome.state : Outcome → State
  | accepted ack => .accepted ack
  | rejected reason => .rejected reason
  | timedOut => .timedOut

theorem State.next_outcome (outcome : Outcome) :
    State.awaitingResponse.next outcome.event = outcome.state := by
  cases outcome with
  | accepted | rejected | timedOut => rfl

end Handshake

namespace Link

variable {σ ε : Type} [Transport σ ε]

theorem next_seq_recv_within (timeout : Duration) (l : Link σ) :
    (l.recvWithin timeout).2.nextSeq = l.nextSeq := by
  fun_induction recvWithin timeout l with
  | case1 | case2 => rfl
  | case3 l rx decoded byte line read ih => exact ih

theorem next_seq_receive_all (n : Nat) (l : Link σ) :
    (receiveAll (List.replicate n .recv) l).2.nextSeq = l.nextSeq := by
  induction n generalizing l with
  | zero => rfl
  | succ n ih => exact (ih l.recv.2).trans (next_seq_recv_within _ l)

theorem Awaited.next_seq {seq : UInt16} {accept : Packet → Bool} {budget : Nat} {l l' : Link σ}
    {earlier : List (Except (ReadError ε) Packet)} {last : Except (ReadError ε) Packet}
    {verdict : Except ε (Option Packet)}
    (awaited : Awaited seq accept budget l earlier last verdict l') : l'.nextSeq = l.nextSeq := by
  have kept := next_seq_receive_all (earlier.length + 1) l
  rwa [awaited.received] at kept

end Link

-- Without a reply the silence has used up the budget.
inductive Course (ε : Type) where
  | unsent (e : ε)
  | broken (e : ε)
  | decided (reply : Option Packet)

namespace Course

variable {ε : Type}

def result (version : UInt8) : Course ε → Except (ControllerError ε) Outcome
  | unsent e | broken e => .error (.io e)
  | decided reply => .ok (Handshake.classify version reply)

def state (version : UInt8) (before : State) : Course ε → State
  | unsent _ => if before = .awaitingResponse then .awaitingResponse else .idle
  | broken _ => .awaitingResponse
  | decided reply => (Handshake.classify version reply).state

end Course

namespace Controller

variable {σ ε : Type} [Transport σ ε]

-- The HELLO takes a number and empties the buffer. Once it is written, `recv` is called until a
-- packet with its number, a fault, or the silence that uses up the budget.
inductive Greeted (c : Controller σ) : Course ε → Link σ → Prop
  | unsent (e : ε) (line : σ)
    (written : Transport.write c.hello.frame c.link.line = (.error e, line)) :
    Greeted c (.unsent e) ⟨line, .empty, c.link.nextSeq + 1⟩
  | broken (e : ε) (line : σ) (earlier : List (Except (ReadError ε) Packet))
    (last : Except (ReadError ε) Packet) (link : Link σ)
    (written : Transport.write c.hello.frame c.link.line = (.ok (), line))
    (awaited : Link.Awaited c.link.nextSeq (fun _ => true) c.replyBudget
      ⟨line, .empty, c.link.nextSeq + 1⟩ earlier last (.error e) link) :
    Greeted c (.broken e) link
  | decided (reply : Option Packet) (line : σ) (earlier : List (Except (ReadError ε) Packet))
    (last : Except (ReadError ε) Packet) (link : Link σ)
    (written : Transport.write c.hello.frame c.link.line = (.ok (), line))
    (awaited : Link.Awaited c.link.nextSeq (fun _ => true) c.replyBudget
      ⟨line, .empty, c.link.nextSeq + 1⟩ earlier last (.ok reply) link) :
    Greeted c (.decided reply) link

section Exchange

variable (c : Controller σ)

theorem exists_greeted : ∃ course link, c.Greeted course link := by
  rcases written : Transport.write c.hello.frame c.link.line with ⟨result, line⟩
  cases result with
  | error e => exact ⟨_, _, .unsent e line written⟩
  | ok =>
    obtain ⟨earlier, last, verdict, link, awaited⟩ := Link.exists_awaited c.link.nextSeq
      (fun _ => true) c.replyBudget ⟨line, .empty, c.link.nextSeq + 1⟩ c.reply_budget_pos
    cases verdict with
    | error e => exact ⟨_, link, .broken e line earlier last link written awaited⟩
    | ok reply => exact ⟨_, link, .decided reply line earlier last link written awaited⟩

theorem prepared_state :
    c.prepared.state = if c.state = .awaitingResponse then .awaitingResponse else .idle := by
  by_cases waiting : c.state = .awaitingResponse
  · rw [if_pos waiting, prepared, waiting]
    rfl
  · rw [if_neg waiting, prepared_idle c waiting]

theorem next_seq_greeted (course : Course ε) (link : Link σ) (greeted : c.Greeted course link) :
    link.nextSeq = c.link.nextSeq + 1 := by
  cases greeted with
  | unsent e line written => rfl
  | broken e line earlier last _ written awaited => exact awaited.next_seq
  | decided reply line earlier last _ written awaited => exact awaited.next_seq

theorem handshake_once_course (course : Course ε) (link : Link σ)
    (greeted : c.Greeted course link) :
    c.handshakeOnce = (course.result c.config.protocolVersion,
      { c with link, state := course.state c.config.protocolVersion c.state }) := by
  cases greeted with
  | unsent e line written =>
    have refused := Link.send_packet_written c.hello c.greeting _ line written
    rw [handshake_once_eq, refused, prepared_state]
    rfl
  | broken e line earlier last _ written awaited =>
    have sent := Link.send_packet_written c.hello c.greeting _ line written
    have waited := Link.await_reply_awaited _ _ _ _ link earlier last _ awaited
    rw [handshake_once_eq, sent, prepared_greets]
    dsimp only [greeting]
    rw [waited]
    rfl
  | decided reply line earlier last _ written awaited =>
    have sent := Link.send_packet_written c.hello c.greeting _ line written
    have waited := Link.await_reply_awaited _ _ _ _ link earlier last _ awaited
    rw [c.handshake_once_answered reply _ link sent waited, prepared_greets, State.next_outcome]
    rfl

end Exchange

section History

def Stalled : List Operation → Controller σ → Prop
  | [], _ => True
  | op :: ops, c =>
    (op.isRequest = true ∨ op = .handshakeOnce ∧ ∃ e link, c.Greeted (.unsent e) link) ∧
      Stalled ops (c.perform op).2

theorem waiting_greeted (c : Controller σ) (waiting : c.handshakeOnce.2.state = .awaitingResponse) :
    (∃ e link, c.Greeted (.broken e) link) ∨
      (c.state = .awaitingResponse ∧ ∃ e link, c.Greeted (.unsent e) link) := by
  obtain ⟨course, link, greeted⟩ := c.exists_greeted
  rw [handshake_once_course c course link greeted] at waiting
  cases course with
  | broken e => exact .inl ⟨e, link, greeted⟩
  | unsent e =>
    by_cases already : c.state = .awaitingResponse
    · exact .inr ⟨already, e, link, greeted⟩
    · simp only [Course.state, if_neg already] at waiting
      cases waiting
  | decided reply =>
    dsimp only [Course.state] at waiting
    cases found : Handshake.classify c.config.protocolVersion reply with
    | accepted | rejected | timedOut =>
      rw [found] at waiting
      cases waiting

theorem exists_broken (past : List Operation) (start : Controller σ) (others : .handshake ∉ past)
    (waiting : (after past start).state = .awaitingResponse) :
    (start.state = .awaitingResponse ∧ Stalled past start) ∨
    ∃ earlier later e link, past = earlier ++ .handshakeOnce :: later ∧
      (after earlier start).Greeted (.broken e) link ∧
      Stalled later (after earlier start).handshakeOnce.2 := by
  -- By induction on the operations, as for an acceptance.
  induction past generalizing start with
  | nil => exact .inl ⟨waiting, trivial⟩
  | cons op past ih =>
    rw [List.mem_cons, not_or] at others
    rcases ih (start.perform op).2 others.2 waiting with ⟨before, stalled⟩ | later
    · rcases op.request_or with asks | rfl | rfl | rfl | rfl
      · rw [state_request op start asks] at before
        exact .inl ⟨before, .inl asks, stalled⟩
      · cases before
      · cases before
      · exact absurd rfl others.1
      · rcases start.waiting_greeted before with ⟨e, link, broken⟩ | ⟨already, e, link, unsent⟩
        · exact .inr ⟨[], past, e, link, rfl, broken, stalled⟩
        · exact .inl ⟨already, .inr ⟨rfl, e, link, unsent⟩, stalled⟩
    · obtain ⟨earlier, later, e, link, rfl, broken, stalled⟩ := later
      exact .inr ⟨op :: earlier, later, e, link, rfl, broken, stalled⟩

/-- One HELLO of a session with any past: the way it goes tells the result, the link and the state
after it. The state before matters only to a HELLO that can not be written. The line is assumed to
obey `Transport.pending_read_byte`: it delivers finitely many bytes between two failed reads. -/
theorem handshake_once_in_step (line : σ) (config : ControllerConfig) (ops : List Operation) :
    let start := ofLine line config
    let past := history ops start
    let c := after ops start
    (∃ course link, c.Greeted course link) ∧
    (∀ course link, c.Greeted course link → link.nextSeq = c.link.nextSeq + 1 ∧
      c.handshakeOnce = (course.result c.config.protocolVersion,
        { c with link, state := course.state c.config.protocolVersion c.state })) ∧
    (after past start = c ∧ .handshake ∉ past) ∧
    (c.state = .awaitingResponse →
      ∃ earlier later e link, past = earlier ++ .handshakeOnce :: later ∧
        (after earlier start).Greeted (.broken e) link ∧
        Stalled later (after earlier start).handshakeOnce.2) := by
  intro start past c
  obtain ⟨whole, others⟩ := after_history ops start
  refine ⟨c.exists_greeted, ?_, ⟨whole, others⟩, ?_⟩
  · intro course link greeted
    exact ⟨c.next_seq_greeted course link greeted, c.handshake_once_course course link greeted⟩
  · intro waiting
    have reached : (after past start).state = .awaitingResponse := by rwa [whole]
    rcases exists_broken past start others reached with ⟨before, _⟩ | broken
    · cases before
    · exact broken

theorem handshake_once_in_step_stalled :
    let script : Line.Script :=
      { byteTimeout := .ofMillis 20, items := [.fault ⟨7⟩], writesLeft := some 1 }
    let start := ofLine script {}
    let c := after [.handshakeOnce] start
    c.state = .awaitingResponse ∧
      (∃ earlier later e link, history [.handshakeOnce] start = earlier ++ .handshakeOnce :: later ∧
        (after earlier start).Greeted (.broken e) link) ∧
      c.handshakeOnce.1 = .error (.io .write) ∧ c.handshakeOnce.2.state = .awaitingResponse ∧
      c.handshakeOnce.2.link.nextSeq = 2 := by
  intro script start c
  let sent : Line.Script := (Transport.write start.hello.frame script).2
  let link := (Link.recv ⟨sent, .empty, 1⟩).2
  have received : Link.recv ⟨sent, .empty, 1⟩ = (.error (.io ⟨7⟩), link) :=
    Prod.ext (by decide +kernel) rfl
  have greeted : start.Greeted (.broken ⟨7⟩) link := .broken ⟨7⟩ sent [] _ link rfl
    (Link.awaited_at_once _ _ _ _ link _ _ start.reply_budget_pos received
      (.fault (Line.Fault.mk 7)))
  have broken : c = { start with link, state := .awaitingResponse } :=
    congrArg Prod.snd (start.handshake_once_course _ link greeted)
  have waiting : c.state = .awaitingResponse := congrArg Controller.state broken
  obtain ⟨_, told, _, interrupted⟩ := handshake_once_in_step script {} [.handshakeOnce]
  obtain ⟨earlier, later, e, before, past, first, _⟩ := interrupted waiting
  have refused : (Transport.write c.hello.frame c.link.line).1 = .error .write := by
    rw [broken]
    decide +kernel
  obtain ⟨numbered, once⟩ := told _ _ (.unsent .write _ (Prod.ext refused rfl))
  refine ⟨waiting, ⟨earlier, later, e, before, past, first⟩, ?_, ?_, ?_⟩
  · rw [once]
    rfl
  · rw [once]
    exact if_pos waiting
  · rw [once]
    refine numbered.trans ?_
    change c.link.nextSeq + 1 = 2
    rw [broken]
    decide +kernel

end History

end Controller
end LegLink
