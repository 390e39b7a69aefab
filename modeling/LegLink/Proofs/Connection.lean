import LegLink.Proofs.Fronts
import LegLink.Proofs.Provenance
import LegLink.Proofs.RecordedHost

set_option autoImplicit false

namespace LegLink

open Handshake (Outcome State)

def Operation.isRequest : Operation → Bool
  | openSession | closeSession | handshake | handshakeOnce => false
  | setAngleCalibrations _ | setTargetAngle _ _ | setPowerRelay _ | heartbeat
  | getAngleCalibrations | getCurrent | getVoltage | getSensor _ => true

theorem Operation.request_or (op : Operation) :
    op.isRequest = true ∨ op = .openSession ∨ op = .closeSession ∨ op = .handshake ∨
      op = .handshakeOnce := by
  cases op with
  | openSession | closeSession | handshake | handshakeOnce => simp
  | setAngleCalibrations | setTargetAngle | setPowerRelay | heartbeat | getAngleCalibrations
  | getCurrent | getVoltage | getSensor => exact .inl rfl

def Returned.error? {ε : Type} : Returned ε → Option (ControllerError ε)
  | done result => failure? result
  | device result => failure? result
  | outcome result => failure? result
  | ranges result => failure? result
  | value result => failure? result

theorem Handshake.classify_accepted (version : UInt8) (reply : Option Packet) (ack : HelloAck)
    (accepted : classify version reply = .accepted ack) :
    ∃ p, reply = some p ∧ p.cmd = Command.ack.code ∧
      p.payload.bytes.take 3 = [ack.version, ack.status, ack.deviceId] ∧
      ack.version = version ∧ ack.status = statusOk := by
  cases reply with
  | none => cases accepted
  | some p =>
    by_cases nack : p.cmd = Command.nack.code
    · simp only [classify, if_pos nack] at accepted
      split at accepted
      · cases accepted
      · cases accepted
    by_cases code : p.cmd = Command.ack.code
    · simp only [classify, if_neg nack, if_pos code] at accepted
      cases read : HelloAck.ofBytes? p.payload.bytes with
      | none =>
        rw [read] at accepted
        cases accepted
      | some body =>
        simp only [read] at accepted
        by_cases same : body.version = version
        · by_cases good : body.status = statusOk
          · rw [if_neg (not_not_intro same), if_neg (not_not_intro good)] at accepted
            cases accepted
            exact ⟨p, rfl, code, (HelloAck.reads_front.written _ ack read).symm, same, good⟩
          · rw [if_neg (not_not_intro same), if_pos good] at accepted
            cases accepted
        · rw [if_pos same] at accepted
          cases accepted
    · simp only [classify, if_neg nack, if_neg code] at accepted
      cases accepted

namespace Controller

section Line

variable {σ ε : Type} [Transport σ ε] (c : Controller σ)

theorem is_accepted_eq : c.state.isAccepted = c.device?.isSome := by
  unfold device?
  cases c.state with
  | idle | awaitingResponse | accepted | rejected | timedOut => rfl

theorem prepared_unconnected : c.prepared.device? = none := by
  unfold prepared device?
  cases c.state with
  | idle | awaitingResponse | accepted | rejected | timedOut => rfl

-- How a HELLO was accepted: it was written, nothing but reads followed, the packets that these and
-- no earlier bytes decode to end with the reply, and the reply is an ACK to that HELLO.
structure Acceptance (sent : σ) (heard : Bytes) (packets : List Packet) (reply : Packet)
    (ack : HelloAck) : Prop where
  written : Transport.write c.hello.frame c.link.line = (.ok (), sent)
  read : Yields heard sent c.handshakeOnce.2.link.line
  decoded : RxBuffer.Feeding heard (packets ++ [reply]) c.handshakeOnce.2.link.rx
  numbered : reply.seq = c.hello.seq
  code : reply.cmd = Command.ack.code
  body : reply.payload.bytes.take 3 = [ack.version, ack.status, ack.deviceId]
  version : ack.version = c.config.protocolVersion
  status : ack.status = statusOk

theorem prepared_greets : c.prepared.state.next .helloSent = .awaitingResponse := by
  unfold prepared
  cases c.state with
  | idle | awaitingResponse | accepted | rejected | timedOut => rfl

theorem outcome_of_connected (outcome : Outcome) (ack : HelloAck)
    (connected : (State.awaitingResponse.next outcome.event).device? = some ack) :
    outcome = .accepted ack := by
  cases outcome with
  | accepted other =>
    cases connected
    rfl
  | rejected | timedOut => cases connected

theorem handshake_once_line :
    c.handshakeOnce.2.config = c.config ∧
    (∃ heard, Yields heard (Transport.write c.hello.frame c.link.line).2
      c.handshakeOnce.2.link.line) ∧
    ∀ ack, c.handshakeOnce.2.device? = some ack →
      ∃ sent heard packets reply, c.Acceptance sent heard packets reply ack := by
  have once := handshake_once_eq c
  rcases sent : Transport.write c.hello.frame c.link.line with ⟨result, line⟩
  rw [Link.send_packet_written c.hello c.greeting result line sent] at once
  cases result with
  | error e =>
    rw [once]
    refine ⟨rfl, ⟨[], .nothing line⟩, ?_⟩
    intro ack connected
    cases c.prepared_unconnected.symm.trans connected
  | ok =>
    obtain ⟨heard, found, gathers, replied⟩ := Link.await_reply_gathers c.link.nextSeq
      (fun _ => true) c.replyBudget { c.greeting with line } c.reply_budget_pos
    rcases awaited : Link.awaitReply c.link.nextSeq (fun _ => true) c.replyBudget
      { c.greeting with line } with ⟨reply, link⟩
    rw [awaited] at gathers replied
    dsimp only at once
    rw [awaited, prepared_greets] at once
    cases reply with
    | error e =>
      rw [once]
      refine ⟨rfl, ⟨heard, gathers.yields⟩, ?_⟩
      intro ack connected
      cases connected
    | ok reply =>
      rw [once]
      refine ⟨rfl, ⟨heard, gathers.yields⟩, ?_⟩
      intro ack connected
      obtain ⟨p, rfl, code, body, version, status⟩ :=
        Handshake.classify_accepted _ reply ack (outcome_of_connected _ ack connected)
      obtain ⟨numbered, packets, rfl⟩ := replied p rfl
      have decoded := gathers.feeding [] [] .start
      rw [List.nil_append, List.nil_append] at decoded
      refine ⟨line, heard, packets, p, sent, ?_, ?_, numbered, code, body, version, status⟩
      · rw [once]
        exact gathers.yields
      · rw [once]
        exact decoded

theorem exchange_line (r : Request) (replyCode : UInt8) :
    (c.exchange r replyCode).2.config = c.config ∧ (c.exchange r replyCode).2.state = c.state ∧
    (c.device?.isSome = true → ∃ heard,
      Yields heard (Transport.write (r.packet c.link.nextSeq).frame c.link.line).2
        (c.exchange r replyCode).2.link.line) := by
  cases accepted : c.state.isAccepted with
  | false =>
    rw [exchange_closed r c replyCode accepted]
    refine ⟨rfl, rfl, ?_⟩
    intro connected
    rw [← is_accepted_eq, accepted] at connected
    cases connected
  | true =>
    have exchanged := exchange_eq r c replyCode accepted
    rcases sent : Transport.write (r.packet c.link.nextSeq).frame c.link.line with ⟨result, line⟩
    rw [Link.send_packet_written (r.packet c.link.nextSeq) c.asking result line sent] at exchanged
    cases result with
    | error e =>
      rw [exchanged]
      exact ⟨rfl, rfl, fun _ => ⟨[], .nothing line⟩⟩
    | ok =>
      obtain ⟨heard, _, gathers, _⟩ := Link.await_reply_gathers c.link.nextSeq
        (fun p => p.cmd == replyCode || p.cmd == Command.nack.code) c.replyBudget
        { c.asking with line } c.reply_budget_pos
      dsimp only at exchanged
      rcases awaited : Link.awaitReply c.link.nextSeq
        (fun p => p.cmd == replyCode || p.cmd == Command.nack.code) c.replyBudget
        { c.asking with line } with ⟨reply, link⟩
      rw [awaited] at gathers exchanged
      rcases reply with e | - | reply
      all_goals
        rw [exchanged]
        exact ⟨rfl, rfl, fun _ => ⟨heard, gathers.yields⟩⟩

theorem request_ack_exchange (r : Request) :
    (c.requestAck r).2 = (c.exchange r Command.ack.code).2 := by
  rw [requestAck]
  rcases c.exchange r Command.ack.code with ⟨result, next⟩
  cases result with
  | error | ok => rfl

theorem request_data_exchange {α : Type} (r : Request) (parse : Packet → Option α) :
    (c.requestData r parse).2 = (c.exchange r r.command.code).2 := by
  rw [requestData]
  rcases c.exchange r r.command.code with ⟨result, next⟩
  cases result with
  | error | ok => rfl

theorem perform_exchange (op : Operation) (request : op.isRequest = true) :
    ∃ r replyCode, (c.perform op).2 = (c.exchange r replyCode).2 := by
  cases op with
  | openSession | closeSession | handshake | handshakeOnce => cases request
  | setAngleCalibrations | setTargetAngle | setPowerRelay | heartbeat =>
    exact ⟨_, _, request_ack_exchange c _⟩
  | getAngleCalibrations | getCurrent | getVoltage | getSensor =>
    exact ⟨_, _, request_data_exchange c _ _⟩

theorem perform_unconnected (op : Operation) (request : op.isRequest = true)
    (unconnected : c.device? = none) :
    (c.perform op).1.error? = some .notConnected ∧ (c.perform op).2 = c := by
  have closed : c.state.isAccepted = false := by
    rw [is_accepted_eq, unconnected]
    rfl
  cases op with
  | openSession | closeSession | handshake | handshakeOnce => cases request
  | setAngleCalibrations | setTargetAngle | setPowerRelay | heartbeat =>
    simp only [perform, setAngleCalibrations, setTargetAngle, setPowerRelay, heartbeat,
      request_ack_closed _ c closed]
    exact ⟨rfl, trivial⟩
  | getAngleCalibrations | getCurrent | getVoltage | getSensor =>
    simp only [perform, getAngleCalibrations, getCurrent, getVoltage, getSensor,
      request_data_closed _ c _ closed]
    exact ⟨rfl, trivial⟩

end Line

section History

variable {σ ε : Type} [Transport σ ε]

def after (ops : List Operation) (c : Controller σ) : Controller σ :=
  ops.foldl (fun c op => (c.perform op).2) c

theorem after_append (first later : List Operation) (c : Controller σ) :
    after (first ++ later) c = after later (after first c) := List.foldl_append

def tries : Nat → Controller σ → Nat
  | 0, _ => 0
  | left + 1, c =>
    match c.handshakeOnce with
    | (.error _, _) | (.ok (.accepted _), _) => 1
    | (.ok _, c) => tries left c + 1

def single (c : Controller σ) : Operation → List Operation
  | .handshake => List.replicate (tries c.attempts c) .handshakeOnce
  | op => [op]

def history : List Operation → Controller σ → List Operation
  | [], _ => []
  | op :: ops, c => c.single op ++ history ops (c.perform op).2

theorem after_tries (last : Outcome) (left : Nat) (c : Controller σ) :
    after (List.replicate (tries left c) .handshakeOnce) c = (c.handshakeFrom last left).2 := by
  induction left generalizing last c with
  | zero => rfl
  | succ left ih =>
    rcases once : c.handshakeOnce with ⟨result, next⟩
    have here : (c.perform .handshakeOnce).2 = next := congrArg Prod.snd once
    rcases result with e | ack | reason | -
    · simp only [tries, handshakeFrom, once]
      exact here
    · simp only [tries, handshakeFrom, once]
      exact here
    · simp only [tries, handshakeFrom, once, List.replicate_succ]
      rw [← ih _ next, ← here]
      rfl
    · simp only [tries, handshakeFrom, once, List.replicate_succ]
      rw [← ih _ next, ← here]
      rfl

theorem after_single (op : Operation) (c : Controller σ) :
    after (c.single op) c = (c.perform op).2 := by
  cases op with
  | handshake => exact after_tries .timedOut c.attempts c
  | openSession | closeSession | handshakeOnce | setAngleCalibrations | setTargetAngle
  | setPowerRelay | heartbeat | getAngleCalibrations | getCurrent | getVoltage | getSensor => rfl

theorem handshake_not_mem (op : Operation) (c : Controller σ) : .handshake ∉ c.single op := by
  cases op with
  | handshake =>
    intro member
    cases (List.mem_replicate.mp member).2
  | openSession | closeSession | handshakeOnce | setAngleCalibrations | setTargetAngle
  | setPowerRelay | heartbeat | getAngleCalibrations | getCurrent | getVoltage | getSensor =>
    intro member
    cases List.mem_singleton.mp member

theorem after_history (ops : List Operation) (c : Controller σ) :
    after (history ops c) c = after ops c ∧ .handshake ∉ history ops c := by
  induction ops generalizing c with
  | nil => exact ⟨rfl, List.not_mem_nil⟩
  | cons op ops ih =>
    obtain ⟨same, others⟩ := ih (c.perform op).2
    rw [history, after_append, after_single]
    exact ⟨same, fun member => (List.mem_append.mp member).elim (handshake_not_mem op c) others⟩

theorem state_request (op : Operation) (c : Controller σ) (asks : op.isRequest = true) :
    (c.perform op).2.state = c.state := by
  obtain ⟨r, replyCode, performed⟩ := c.perform_exchange op asks
  rw [performed]
  exact (c.exchange_line r replyCode).2.1

theorem config_perform (op : Operation) (c : Controller σ) (other : op ≠ .handshake) :
    (c.perform op).2.config = c.config := by
  rcases op.request_or with asks | rfl | rfl | rfl | rfl
  · obtain ⟨r, replyCode, performed⟩ := c.perform_exchange op asks
    rw [performed]
    exact (c.exchange_line r replyCode).1
  · rfl
  · rfl
  · exact absurd rfl other
  · exact c.handshake_once_line.1

theorem config_after (ops : List Operation) (c : Controller σ) (others : .handshake ∉ ops) :
    (after ops c).config = c.config := by
  induction ops generalizing c with
  | nil => rfl
  | cons op ops ih =>
    rw [List.mem_cons, not_or] at others
    exact (ih (c.perform op).2 others.2).trans (config_perform op c fun same => others.1 same.symm)

theorem exists_acceptance (past : List Operation) (start : Controller σ) (ack : HelloAck)
    (others : .handshake ∉ past) (connected : (after past start).device? = some ack) :
    ((∀ op ∈ past, op.isRequest = true) ∧ start.device? = some ack) ∨
    ∃ earlier later sent heard packets reply, past = earlier ++ .handshakeOnce :: later ∧
      (∀ op ∈ later, op.isRequest = true) ∧
      (after earlier start).Acceptance sent heard packets reply ack := by
  -- By induction on the operations: requests leave the device as it was, and the others decide it.
  induction past generalizing start with
  | nil => exact .inl ⟨fun op none => absurd none List.not_mem_nil, connected⟩
  | cons op past ih =>
    rw [List.mem_cons, not_or] at others
    rcases ih (start.perform op).2 others.2 connected with ⟨requests, before⟩ | later
    · rcases op.request_or with asks | rfl | rfl | rfl | rfl
      · rw [device?, state_request op start asks] at before
        refine .inl ⟨?_, before⟩
        intro request member
        rcases List.mem_cons.mp member with rfl | member
        · exact asks
        · exact requests request member
      · cases before
      · cases before
      · exact absurd rfl others.1
      · obtain ⟨sent, heard, packets, reply, accepted⟩ := start.handshake_once_line.2.2 ack before
        exact .inr ⟨[], past, sent, heard, packets, reply, rfl, requests, accepted⟩
    · obtain ⟨earlier, later, sent, heard, packets, reply, rfl, requests, accepted⟩ := later
      exact .inr ⟨op :: earlier, later, sent, heard, packets, reply, rfl, requests, accepted⟩

end History

section Written

variable {σ ε : Type} [Transport σ ε]

def IsGreeting (frame : Bytes) : Prop :=
  ∃ p : Packet, p.cmd = Command.hello.code ∧ frame = p.frame

theorem writes_handshake_once (c : Controller (Line.Recorded σ)) :
    c.handshakeOnce.2.link.line.writes = c.link.line.writes ++ [c.hello.frame] := by
  obtain ⟨heard, yields⟩ := c.handshake_once_line.2.1
  rw [yields.writes]
  exact Link.writes_send_packet c.hello c.link

theorem writes_greetings (n : Nat) (c : Controller (Line.Recorded σ)) :
    ∃ written, (after (List.replicate n .handshakeOnce) c).link.line.writes =
      c.link.line.writes ++ written ∧ ∀ frame ∈ written, IsGreeting frame := by
  induction n generalizing c with
  | zero => exact ⟨[], (List.append_nil _).symm, fun frame none => absurd none List.not_mem_nil⟩
  | succ n ih =>
    obtain ⟨written, writes, greetings⟩ := ih c.handshakeOnce.2
    refine ⟨c.hello.frame :: written, ?_, ?_⟩
    · rw [List.append_cons, ← writes_handshake_once]
      exact writes
    · intro frame member
      rcases List.mem_cons.mp member with rfl | member
      · exact ⟨c.hello, rfl, rfl⟩
      · exact greetings frame member

theorem writes_request (op : Operation) (c : Controller (Line.Recorded σ))
    (asks : op.isRequest = true) (connected : c.device?.isSome = true) :
    ∃ frame, (c.perform op).2.link.line.writes = c.link.line.writes ++ [frame] := by
  obtain ⟨r, replyCode, performed⟩ := c.perform_exchange op asks
  obtain ⟨heard, yields⟩ := (c.exchange_line r replyCode).2.2 connected
  refine ⟨(r.packet c.link.nextSeq).frame, ?_⟩
  rw [performed, yields.writes]
  exact Link.writes_send_packet (r.packet c.link.nextSeq) c.link

theorem writes_perform (op : Operation) (c : Controller (Line.Recorded σ)) :
    ∃ written, (c.perform op).2.link.line.writes = c.link.line.writes ++ written ∧
      ((∀ frame ∈ written, IsGreeting frame) ∨
        (op.isRequest = true ∧ c.device?.isSome = true)) := by
  have silent : ∀ frame ∈ ([] : List Bytes), IsGreeting frame :=
    fun frame none => absurd none List.not_mem_nil
  rcases op.request_or with asks | rfl | rfl | rfl | rfl
  · cases device : c.device? with
    | none =>
      refine ⟨[], ?_, .inl silent⟩
      rw [(c.perform_unconnected op asks device).2, List.append_nil]
    | some ack =>
      have connected : c.device?.isSome = true := by
        rw [device]
        rfl
      obtain ⟨frame, writes⟩ := writes_request op c asks connected
      exact ⟨[frame], writes, .inr ⟨asks, rfl⟩⟩
  · refine ⟨[], ?_, .inl silent⟩
    rw [List.append_nil]
    exact c.link.line.writes_note .openLine _ fun data => nofun
  · refine ⟨[], ?_, .inl silent⟩
    rw [List.append_nil]
    exact c.link.line.writes_note .closeLine _ fun data => nofun
  · rw [← after_single]
    obtain ⟨written, writes, greetings⟩ := writes_greetings (tries c.attempts c) c
    exact ⟨written, writes, .inl greetings⟩
  · obtain ⟨written, writes, greetings⟩ := writes_greetings 1 c
    exact ⟨written, writes, .inl greetings⟩

theorem after_unrecorded (ops : List Operation) (c : Controller (Line.Recorded σ)) :
    after ops c.unrecorded = (after ops c).unrecorded := by
  induction ops generalizing c with
  | nil => rfl
  | cons op ops ih =>
    rw [after, List.foldl_cons, perform_unrecorded]
    exact ih (c.perform op).2

/-- A connected host owes it to the last HELLO of its past and has made nothing but requests since;
one that is not connected carries out no request; and what is written besides HELLOs is written by a
connected host. The line is assumed to obey `Transport.pending_read_byte`: it delivers finitely many
bytes between two failed reads. -/
theorem genuine_connection (line : σ) (config : ControllerConfig) (ops : List Operation) :
    let start : Controller (Line.Recorded σ) := ofLine { line } config
    let past := history ops start
    let c := after ops start
    after ops (ofLine line config) = c.unrecorded ∧
    (after past start = c ∧ .handshake ∉ past) ∧
    (∀ ack, c.device? = some ack →
      ack.version = config.protocolVersion ∧ ack.status = statusOk ∧
      ∃ earlier later sent heard packets reply, past = earlier ++ .handshakeOnce :: later ∧
        (∀ op ∈ later, op.isRequest = true) ∧
        (after earlier start).Acceptance sent heard packets reply ack) ∧
    ∀ op, c.unrecorded.perform op = ((c.perform op).1, (c.perform op).2.unrecorded) ∧
      (c.device? = none → op.isRequest = true →
        (c.perform op).1.error? = some .notConnected ∧ (c.perform op).2 = c) ∧
      ∃ written, (c.perform op).2.link.line.writes = c.link.line.writes ++ written ∧
        ((∀ frame ∈ written, IsGreeting frame) ∨
          (op.isRequest = true ∧ c.device?.isSome = true)) := by
  intro start past c
  obtain ⟨whole, others⟩ := after_history ops start
  refine ⟨after_unrecorded ops start, ⟨whole, others⟩, ?_, ?_⟩
  · intro ack connected
    rcases exists_acceptance past start ack others (by rw [whole]; exact connected) with
      ⟨_, before⟩ | ⟨earlier, later, sent, heard, packets, reply, split, requests, accepted⟩
    · cases before
    · have kept : (after earlier start).config = config := by
        apply config_after earlier start
        intro member
        apply others
        rw [show history ops start = _ from split]
        exact List.mem_append_left _ member
      exact ⟨accepted.version.trans (congrArg ControllerConfig.protocolVersion kept),
        accepted.status, earlier, later, sent, heard, packets, reply, split, requests, accepted⟩
  · intro op
    refine ⟨perform_unrecorded c op, ?_, writes_perform op c⟩
    intro unconnected asks
    exact c.perform_unconnected op asks unconnected

theorem genuine_connection_answered :
    let answer := (HelloAck.mk 1 statusOk 7).packet 0
    let script : Line.Script :=
      { byteTimeout := .ofMillis 20, items := answer.frame.map .byte }
    let start : Controller (Line.Recorded Line.Script) := ofLine { line := script } {}
    let ops := [Operation.openSession, .handshakeOnce]
    (after ops start).device? = some ⟨1, statusOk, 7⟩ ∧
      ∃ earlier later sent heard packets reply,
        history ops start = earlier ++ .handshakeOnce :: later ∧
        (after earlier start).Acceptance sent heard packets reply ⟨1, statusOk, 7⟩ := by
  intro answer script start ops
  let c := start.openSession.2
  let link := (c.greeting.sendPacket c.hello).2
  have received : link.recv = (.ok answer, link.recv.2) := Prod.ext (by decide +kernel) rfl
  have awaited := Link.await_reply_taken 0 (fun _ => true) c.replyBudget link _ answer received
    ⟨rfl, rfl⟩
  have answered := handshake_once_answered c (some answer) link link.recv.2 rfl awaited
  have connected : (after ops start).device? = some ⟨1, statusOk, 7⟩ := by
    change c.handshakeOnce.2.device? = _
    rw [answered]
    rfl
  obtain ⟨_, _, accepted, _⟩ := genuine_connection script {} ops
  obtain ⟨_, _, earlier, later, sent, heard, packets, reply, past, _, acceptance⟩ :=
    accepted ⟨1, statusOk, 7⟩ connected
  exact ⟨connected, earlier, later, sent, heard, packets, reply, past, acceptance⟩

end Written
end Controller
end LegLink
