import LegLink.Controller
import LegLink.Proofs.Codec
import LegLink.Proofs.Receiving

set_option autoImplicit false

namespace LegLink

open Handshake (Outcome)

inductive Operation where
  | openSession
  | closeSession
  | handshake
  | handshakeOnce
  | setAngleCalibrations (table : CalibrationTable)
  | setTargetAngle (channel : Channel) (angle : UInt16)
  | setPowerRelay (on : Bool)
  | heartbeat
  | getAngleCalibrations
  | getCurrent
  | getVoltage
  | getSensor (channel : UInt8)

inductive Returned (ε : Type) where
  | done (result : Except (ControllerError ε) Unit)
  | device (result : Except (ControllerError ε) HelloAck)
  | outcome (result : Except (ControllerError ε) Outcome)
  | ranges (result : Except (ControllerError ε) (PerChannel PulseRange))
  | value (result : Except (ControllerError ε) Single)

namespace Controller

variable {σ ε : Type} [Transport σ ε]

def perform (c : Controller σ) : Operation → Returned ε × Controller σ
  | .openSession => (.done c.openSession.1, c.openSession.2)
  | .closeSession => (.done c.closeSession.1, c.closeSession.2)
  | .handshake => (.device c.handshake.1, c.handshake.2)
  | .handshakeOnce => (.outcome c.handshakeOnce.1, c.handshakeOnce.2)
  | .setAngleCalibrations table =>
    (.done (c.setAngleCalibrations table).1, (c.setAngleCalibrations table).2)
  | .setTargetAngle channel angle =>
    (.done (c.setTargetAngle channel angle).1, (c.setTargetAngle channel angle).2)
  | .setPowerRelay on => (.done (c.setPowerRelay on).1, (c.setPowerRelay on).2)
  | .heartbeat => (.done c.heartbeat.1, c.heartbeat.2)
  | .getAngleCalibrations => (.ranges c.getAngleCalibrations.1, c.getAngleCalibrations.2)
  | .getCurrent => (.value c.getCurrent.1, c.getCurrent.2)
  | .getVoltage => (.value c.getVoltage.1, c.getVoltage.2)
  | .getSensor channel => (.value (c.getSensor channel).1, (c.getSensor channel).2)

theorem await_reply_link (seq : UInt16) (accept : Packet → Bool) (c : Controller σ)
    (result : Except ε (Option Packet)) (link : Link σ)
    (awaited : c.link.awaitReply seq accept c.replyBudget = (result, link)) :
    c.awaitReply seq accept = (result.mapError .io, { c with link }) := by
  simp only [awaitReply, awaited]

section Requests

variable (r : Request) (c : Controller σ)

theorem exchange_closed (replyCode : UInt8) (closed : c.state.isAccepted = false) :
    c.exchange r replyCode = (.error .notConnected, c) := by
  simp only [exchange, sendRequest, closed, Bool.false_eq_true, if_false]

theorem request_ack_closed (closed : c.state.isAccepted = false) :
    c.requestAck r = (.error .notConnected, c) := by
  simp only [requestAck, exchange_closed r c _ closed]

theorem request_data_closed {α : Type} (parse : Packet → Option α)
    (closed : c.state.isAccepted = false) :
    c.requestData r parse = (.error .notConnected, c) := by
  simp only [requestData, exchange_closed r c _ closed]

def asking (c : Controller σ) : Link σ := { c.link with nextSeq := c.link.nextSeq + 1 }

theorem exchange_eq (replyCode : UInt8) (accepted : c.state.isAccepted = true) :
    c.exchange r replyCode =
      match c.asking.sendPacket (r.packet c.link.nextSeq) with
      | (.error e, link) => (.error (.io e), { c with link })
      | (.ok (), link) =>
        match link.awaitReply c.link.nextSeq
          (fun p => p.cmd == replyCode || p.cmd == Command.nack.code) c.replyBudget with
        | (.error e, link) => (.error (.io e), { c with link })
        | (.ok none, link) => (.error (.noReply r.command.code), { c with link })
        | (.ok (some reply), link) => (.ok reply, { c with link }) := by
  have requested : c.sendRequest r =
      match c.asking.sendPacket (r.packet c.link.nextSeq) with
      | (.error e, link) => (.error (.io e), { c with link })
      | (.ok (), link) => (.ok c.link.nextSeq, { c with link }) := if_pos accepted
  rw [exchange, requested]
  rcases c.asking.sendPacket (r.packet c.link.nextSeq) with ⟨result, link⟩
  cases result with
  | error e => rfl
  | ok =>
    rcases awaited : link.awaitReply c.link.nextSeq
      (fun p => p.cmd == replyCode || p.cmd == Command.nack.code) c.replyBudget with ⟨result, link'⟩
    dsimp only
    rw [await_reply_link c.link.nextSeq _ { c with link } result link' awaited, awaited]
    cases result with
    | error e => rfl
    | ok reply =>
      cases reply with
      | none => rfl
      | some reply => rfl

theorem exchange_awaited (replyCode : UInt8) (reply : Option Packet) (link link' : Link σ)
    (accepted : c.state.isAccepted = true)
    (sent : c.asking.sendPacket (r.packet c.link.nextSeq) = (.ok (), link))
    (awaited : link.awaitReply c.link.nextSeq
      (fun p => p.cmd == replyCode || p.cmd == Command.nack.code) c.replyBudget =
        (.ok reply, link')) :
    c.exchange r replyCode = (match reply with
      | none => .error (.noReply r.command.code)
      | some reply => .ok reply, { c with link := link' }) := by
  rw [exchange_eq r c replyCode accepted, sent]
  cases reply with
  | none => simp only [awaited]
  | some reply => simp only [awaited]

theorem request_ack_exchanged (seq : UInt16) (command : Command) (c' : Controller σ)
    (same : command.code = r.command.code)
    (exchanged : c.exchange r Command.ack.code =
      (.ok (Reply.commandAck seq command statusOk), c')) : c.requestAck r = (.ok (), c') := by
  have acked : Reply.commandAck? (Reply.commandAck seq command statusOk) =
      some (command.code, statusOk) := rfl
  have code : (Reply.commandAck seq command statusOk).cmd ≠ Command.nack.code := by
    simp only [Reply.commandAck]
    decide
  simp only [requestAck, exchanged, readAck, acked, same, if_neg code, ne_eq, not_true_eq_false,
    if_false]

theorem request_data_exchanged {α : Type} (parse : Packet → Option α) (reply : Packet) (value : α)
    (c' : Controller σ) (exchanged : c.exchange r r.command.code = (.ok reply, c'))
    (other : reply.cmd ≠ Command.nack.code) (parsed : parse reply = some value) :
    c.requestData r parse = (.ok value, c') := by
  simp only [requestData, exchanged, readData, if_neg other, parsed]

end Requests

section Greeting

theorem prepared_idle (c : Controller σ) (ready : c.state ≠ .awaitingResponse) :
    c.prepared.state = .idle := by
  unfold prepared
  cases start : c.state with
  | awaitingResponse => exact absurd start ready
  | idle | accepted | rejected | timedOut => rfl

def hello (c : Controller σ) : Packet :=
  (Hello.mk c.config.protocolVersion c.config.capabilities).packet c.link.nextSeq

def greeting (c : Controller σ) : Link σ :=
  { c.link with rx := .empty, nextSeq := c.link.nextSeq + 1 }

theorem handshake_once_eq (c : Controller σ) :
    c.handshakeOnce =
      match c.greeting.sendPacket c.hello with
      | (.error e, link) => (.error (.io e), { c with link, state := c.prepared.state })
      | (.ok (), link) =>
        match link.awaitReply c.link.nextSeq (fun _ => true) c.replyBudget with
        | (.error e, link) =>
          (.error (.io e), { c with link, state := c.prepared.state.next .helloSent })
        | (.ok reply, link) =>
          (.ok (Handshake.classify c.config.protocolVersion reply),
            { c with
              link
              state := (c.prepared.state.next .helloSent).next
                (Handshake.classify c.config.protocolVersion reply).event }) := by
  have greeted : c.prepared.link.takeSeq.2.sendPacket
      ((Hello.mk c.prepared.config.protocolVersion c.prepared.config.capabilities).packet
        c.prepared.link.takeSeq.1) = c.greeting.sendPacket c.hello := rfl
  unfold handshakeOnce
  dsimp only
  rw [greeted]
  rcases c.greeting.sendPacket c.hello with ⟨result, link⟩
  cases result with
  | error e => rfl
  | ok =>
    rcases awaited : link.awaitReply c.link.nextSeq (fun _ => true) c.replyBudget with
      ⟨result, link'⟩
    have heard : awaitReply c.prepared.link.takeSeq.1 (fun _ => true)
        { c.prepared with link, state := c.prepared.state.next .helloSent } = _ :=
      await_reply_link c.link.nextSeq (fun _ => true) _ result link' awaited
    dsimp only
    rw [heard, awaited]
    cases result with
    | error e => rfl
    | ok reply => rfl

theorem handshake_once_answered (c : Controller σ) (reply : Option Packet) (link link' : Link σ)
    (sent : c.greeting.sendPacket c.hello = (.ok (), link))
    (awaited : link.awaitReply c.link.nextSeq (fun _ => true) c.replyBudget = (.ok reply, link')) :
    c.handshakeOnce = (.ok (Handshake.classify c.config.protocolVersion reply),
      { c with
        link := link'
        state := (c.prepared.state.next .helloSent).next
          (Handshake.classify c.config.protocolVersion reply).event }) := by
  simp only [handshake_once_eq, sent, awaited]

end Greeting

end Controller

namespace Handshake

theorem classify_ack (version deviceId : UInt8) (seq : UInt16) :
    classify version (some (HelloAck.packet ⟨version, statusOk, deviceId⟩ seq)) =
      .accepted ⟨version, statusOk, deviceId⟩ := by
  have code : Command.ack.code ≠ Command.nack.code := by decide
  simp only [classify, HelloAck.packet, HelloAck.ofBytes?, if_neg code, ne_eq, not_true_eq_false,
    if_true, if_false]

theorem body_of_accepted (version : UInt8) (body ack : HelloAck) (seq : UInt16)
    (accepted : classify version (some (body.packet seq)) = .accepted ack) : ack = body := by
  have code : Command.ack.code ≠ Command.nack.code := by decide
  simp only [classify, HelloAck.packet, HelloAck.ofBytes?, if_neg code, if_true] at accepted
  split at accepted
  · cases accepted
  split at accepted
  · cases accepted
  · exact (Outcome.accepted.inj accepted).symm

theorem classify_nack (version error : UInt8) (seq : UInt16) :
    classify version (some (Reply.nack seq error)) = .rejected (.nack error) := rfl

end Handshake
end LegLink
