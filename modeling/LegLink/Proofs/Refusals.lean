import LegLink.Proofs.Connection

set_option autoImplicit false

namespace LegLink

def Operation.request? : Operation → Option Request
  | openSession | closeSession | handshake | handshakeOnce => none
  | setAngleCalibrations table => some (.setAngleCalibrations table)
  | setTargetAngle channel angle => some (.setTargetAngle channel.raw angle)
  | setPowerRelay on => some (.setPowerRelay (if on then 1 else 0))
  | heartbeat => some .heartbeat
  | getAngleCalibrations => some .getAngleCalibrations
  | getCurrent => some .getCurrent
  | getVoltage => some .getVoltage
  | getSensor channel => some (.getSensor channel)

namespace Request

def replyCode (r : Request) : UInt8 :=
  if r.command.hasDataReply then r.command.code else Command.ack.code

def takes (r : Request) (p : Packet) : Bool := p.cmd == r.replyCode || p.cmd == Command.nack.code

def refusal {ε : Type} (r : Request) : Bytes → ControllerError ε
  | code :: _ => .nack r.command.code code
  | [] => if r.command.hasDataReply then .nack r.command.code 0 else .malformed r.command.code

end Request

namespace Controller

variable {σ ε : Type} [Transport σ ε]

section Refused

variable (r : Request) (reply : Packet) (c c' : Controller σ)
  (exchanged : c.exchange r r.replyCode = (.ok reply, c'))
  (refused : reply.cmd = Command.nack.code)

include exchanged refused

theorem request_ack_refused (silent : r.command.hasDataReply = false) :
    c.requestAck r = (.error (r.refusal reply.payload.bytes), c') := by
  have code : r.replyCode = Command.ack.code := by simp [Request.replyCode, silent]
  rw [code] at exchanged
  cases data : reply.payload.bytes with
  | nil => simp [requestAck, exchanged, readAck, refused, data, Request.refusal, silent]
  | cons error rest => simp [requestAck, exchanged, readAck, refused, data, Request.refusal]

theorem request_data_refused {α : Type} (parse : Packet → Option α)
    (answers : r.command.hasDataReply = true) :
    c.requestData r parse = (.error (r.refusal reply.payload.bytes), c') := by
  have code : r.replyCode = r.command.code := by simp [Request.replyCode, answers]
  rw [code] at exchanged
  cases data : reply.payload.bytes with
  | nil => simp [requestData, exchanged, readData, refused, data, Request.refusal, answers]
  | cons error rest => simp [requestData, exchanged, readData, refused, data, Request.refusal]

end Refused

theorem perform_refused (op : Operation) (r : Request) (reply : Packet) (c c' : Controller σ)
    (asks : op.request? = some r) (exchanged : c.exchange r r.replyCode = (.ok reply, c'))
    (refused : reply.cmd = Command.nack.code) :
    (c.perform op).1.error? = some (r.refusal reply.payload.bytes) ∧ (c.perform op).2 = c' := by
  cases op with
  | openSession | closeSession | handshake | handshakeOnce => cases asks
  | setAngleCalibrations | setTargetAngle | setPowerRelay | heartbeat =>
    cases asks
    simp only [perform, setAngleCalibrations, setTargetAngle, setPowerRelay, heartbeat,
      request_ack_refused _ reply c c' exchanged refused rfl]
    exact ⟨rfl, trivial⟩
  | getAngleCalibrations | getCurrent | getVoltage | getSensor =>
    cases asks
    simp only [perform, getAngleCalibrations, getCurrent, getVoltage, getSensor,
      request_data_refused _ reply c c' exchanged refused _ rfl]
    exact ⟨rfl, trivial⟩

/-- The error is told by the payload of the NACK alone, and the session goes on. A NACK without a
byte is malformed to a request that only wants to be acknowledged, and an error with code 0 to one
that wants data. -/
theorem refusal_reported (op : Operation) (r : Request) (reply : Packet) (c : Controller σ)
    (link link' : Link σ) (asks : op.request? = some r) (connected : c.device?.isSome = true)
    (sent : c.asking.sendPacket (r.packet c.link.nextSeq) = (.ok (), link))
    (awaited : link.awaitReply c.link.nextSeq r.takes c.replyBudget = (.ok (some reply), link'))
    (refused : reply.cmd = Command.nack.code) :
    (c.perform op).1.error? = some (r.refusal reply.payload.bytes) ∧
      (c.perform op).2 = { c with link := link' } := by
  have accepted : c.state.isAccepted = true := c.is_accepted_eq.trans connected
  have exchanged := exchange_awaited r c r.replyCode (some reply) link link' accepted sent awaited
  exact perform_refused op r reply c _ asks exchanged refused

theorem refusal_reported_empty :
    let empty : Packet := ⟨1, Command.nack.code, .empty⟩
    let script : Line.Script :=
      { byteTimeout := .ofMillis 20, items := empty.frame.map .byte }
    let c : Controller Line.Script :=
      { link := { line := script, nextSeq := 1 }, state := .accepted ⟨1, statusOk, 7⟩ }
    (c.perform .heartbeat).1.error? = some (.malformed 0x08) ∧
      (c.perform .getCurrent).1.error? = some (.nack 0x05 0) := by
  intro empty script c
  have told (op : Operation) (r : Request) (asks : op.request? = some r)
      (link : Link Line.Script)
      (sent : c.asking.sendPacket (r.packet c.link.nextSeq) = (.ok (), link))
      (received : link.recv.1 = .ok empty) :
      (c.perform op).1.error? = some (r.refusal []) := by
    have awaited := Link.await_reply_taken 1 r.takes c.replyBudget link _ empty
      (Prod.ext received rfl) ⟨rfl, by simp [Request.takes, empty]⟩
    exact (refusal_reported op r empty c link _ asks rfl sent awaited rfl).1
  constructor
  · exact told .heartbeat .heartbeat rfl _ rfl (by decide +kernel)
  · exact told .getCurrent .getCurrent rfl _ rfl (by decide +kernel)

end Controller
end LegLink
