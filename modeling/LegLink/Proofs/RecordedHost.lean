import LegLink.Proofs.Awaiting
import LegLink.Proofs.HostOperations

set_option autoImplicit false

namespace LegLink

namespace Link

variable {σ ε : Type} [Transport σ ε]

theorem await_reply_unrecorded (seq : UInt16) (accept : Packet → Bool) (budget : Nat)
    (l : Link (Line.Recorded σ)) (some : 0 < budget) :
    l.unrecorded.awaitReply seq accept budget =
      ((l.awaitReply seq accept budget).1, (l.awaitReply seq accept budget).2.unrecorded) := by
  obtain ⟨earlier, last, verdict, l', awaited⟩ := exists_awaited seq accept budget l some
  have plain : Awaited seq accept budget l.unrecorded earlier last verdict l'.unrecorded := by
    refine ⟨?_, awaited.passed, awaited.patient, awaited.decided⟩
    rw [receive_all_unrecorded, awaited.received]
  rw [await_reply_awaited seq accept budget l l' earlier last verdict awaited]
  exact await_reply_awaited seq accept budget _ _ earlier last verdict plain

end Link

namespace Controller

variable {σ ε : Type} [Transport σ ε]

variable (c : Controller (Line.Recorded σ))

def unrecorded : Controller σ :=
  { link := c.link.unrecorded, config := c.config, state := c.state }

theorem handshake_once_unrecorded :
    c.unrecorded.handshakeOnce = (c.handshakeOnce.1, c.handshakeOnce.2.unrecorded) := by
  have plain := Link.send_packet_unrecorded c.hello c.greeting
  change c.unrecorded.greeting.sendPacket c.unrecorded.hello = _ at plain
  rw [handshake_once_eq, handshake_once_eq, plain]
  rcases c.greeting.sendPacket c.hello with ⟨result, link⟩
  cases result with
  | error e => rfl
  | ok =>
    have waited := Link.await_reply_unrecorded c.link.nextSeq (fun _ => true) c.replyBudget link
      c.reply_budget_pos
    change link.unrecorded.awaitReply c.unrecorded.link.nextSeq _ c.unrecorded.replyBudget = _
      at waited
    dsimp only
    rw [waited]
    rcases link.awaitReply c.link.nextSeq (fun _ => true) c.replyBudget with ⟨reply, link'⟩
    cases reply with
    | error e => rfl
    | ok reply => rfl

theorem handshake_from_unrecorded (last : Handshake.Outcome) (left : Nat) :
    c.unrecorded.handshakeFrom last left =
      ((c.handshakeFrom last left).1, (c.handshakeFrom last left).2.unrecorded) := by
  induction left generalizing c last with
  | zero => rfl
  | succ left ih =>
    rw [handshakeFrom, handshakeFrom, handshake_once_unrecorded]
    rcases c.handshakeOnce with ⟨result, next⟩
    cases result with
    | error e => rfl
    | ok outcome =>
      cases outcome with
      | accepted ack => rfl
      | rejected reason => exact ih next _
      | timedOut => exact ih next _

section Requests

variable (r : Request)

theorem exchange_unrecorded (replyCode : UInt8) :
    c.unrecorded.exchange r replyCode =
      ((c.exchange r replyCode).1, (c.exchange r replyCode).2.unrecorded) := by
  cases accepted : c.state.isAccepted with
  | false => rw [exchange_closed r c replyCode accepted, exchange_closed r c.unrecorded _ accepted]
  | true =>
    have plain := Link.send_packet_unrecorded (r.packet c.link.nextSeq) c.asking
    change c.unrecorded.asking.sendPacket (r.packet c.unrecorded.link.nextSeq) = _ at plain
    rw [exchange_eq r c replyCode accepted, exchange_eq r c.unrecorded replyCode accepted, plain]
    rcases c.asking.sendPacket (r.packet c.link.nextSeq) with ⟨result, link⟩
    cases result with
    | error e => rfl
    | ok =>
      have waited := Link.await_reply_unrecorded c.link.nextSeq
        (fun p => p.cmd == replyCode || p.cmd == Command.nack.code) c.replyBudget link
        c.reply_budget_pos
      change link.unrecorded.awaitReply c.unrecorded.link.nextSeq _ c.unrecorded.replyBudget = _
        at waited
      dsimp only
      rw [waited]
      rcases link.awaitReply c.link.nextSeq
        (fun p => p.cmd == replyCode || p.cmd == Command.nack.code) c.replyBudget with
        ⟨reply, link'⟩
      cases reply with
      | error e => rfl
      | ok reply =>
        cases reply with
        | none => rfl
        | some reply => rfl

theorem request_ack_unrecorded :
    c.unrecorded.requestAck r = ((c.requestAck r).1, (c.requestAck r).2.unrecorded) := by
  rw [requestAck, requestAck, exchange_unrecorded]
  rcases c.exchange r Command.ack.code with ⟨result, next⟩
  cases result with
  | error e => rfl
  | ok reply => rfl

theorem request_data_unrecorded {α : Type} (parse : Packet → Option α) :
    c.unrecorded.requestData r parse =
      ((c.requestData r parse).1, (c.requestData r parse).2.unrecorded) := by
  rw [requestData, requestData, exchange_unrecorded]
  rcases c.exchange r r.command.code with ⟨result, next⟩
  cases result with
  | error e => rfl
  | ok reply => rfl

end Requests

theorem perform_unrecorded (op : Operation) :
    c.unrecorded.perform op = ((c.perform op).1, (c.perform op).2.unrecorded) := by
  cases op with
  | openSession | closeSession => rfl
  | handshake =>
    have plain := handshake_from_unrecorded c .timedOut c.attempts
    change c.unrecorded.handshake = _ at plain
    rw [perform, plain]
    rfl
  | handshakeOnce =>
    rw [perform, handshake_once_unrecorded]
    rfl
  | setAngleCalibrations | setTargetAngle | setPowerRelay | heartbeat =>
    simp only [perform, setAngleCalibrations, setTargetAngle, setPowerRelay, heartbeat,
      request_ack_unrecorded]
  | getAngleCalibrations | getCurrent | getVoltage | getSensor =>
    simp only [perform, getAngleCalibrations, getCurrent, getVoltage, getSensor,
      request_data_unrecorded]

end Controller
end LegLink
