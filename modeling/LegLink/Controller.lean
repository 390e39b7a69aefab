import LegLink.Handshake
import LegLink.Digits
import LegLink.Link

set_option autoImplicit false

namespace LegLink

open Handshake (Outcome Event State)

inductive ControllerError (ε : Type) where
  | handshakeFailed (attempts : Nat) (last : Outcome)
  | notConnected
  | noReply (command : UInt8)
  | nack (command code : UInt8)
  | status (command status : UInt8)
  | malformed (command : UInt8)
  | frame (error : FrameError)
  | io (error : ε)
deriving DecidableEq

namespace ControllerError

variable {ε : Type}

def name : ControllerError ε → String
  | handshakeFailed _ _ => "HandshakeFailed"
  | notConnected => "NotConnected"
  | noReply _ => "NoReply"
  | nack _ _ => "Nack"
  | status _ _ => "Status"
  | malformed _ => "Malformed"
  | frame _ => "Frame"
  | io _ => "Io"

def message (describe : ε → String) : ControllerError ε → String
  | handshakeFailed attempts last =>
    s!"handshake failed after {attempts} attempt(s): {last.describe}"
  | notConnected => "no handshake with the device yet"
  | noReply command => s!"no reply to command 0x{Hex.byte command}"
  | nack command code => s!"command 0x{Hex.byte command} refused with error 0x{Hex.byte code}"
  | status command found =>
    s!"command 0x{Hex.byte command} acknowledged with status 0x{Hex.byte found}"
  | malformed command => s!"malformed reply to command 0x{Hex.byte command}"
  | frame error => s!"framing error: {error.name}"
  | io error => s!"transport error: {describe error}"

end ControllerError

structure ControllerConfig where
  attempts : UInt32 := 3
  replyAttempts : UInt32 := 10
  capabilities : UInt8 := 0
  protocolVersion : UInt8 := LegLink.protocolVersion
deriving DecidableEq

structure Controller (σ : Type) where
  link : Link σ
  config : ControllerConfig := {}
  state : State := .idle

namespace Controller

variable {σ ε α : Type} [Transport σ ε]

def ofLine (line : σ) (config : ControllerConfig) : Controller σ := { link := { line }, config }

def device? (c : Controller σ) : Option HelloAck := c.state.device?

def attempts (c : Controller σ) : Nat := max c.config.attempts.toNat 1
def replyBudget (c : Controller σ) : Nat := max c.config.replyAttempts.toNat 1

def openSession (c : Controller σ) : Except (ControllerError ε) Unit × Controller σ :=
  let (result, link) := c.link.openLink
  (result.mapError .io, { c with link, state := .idle })

def closeSession (c : Controller σ) : Except (ControllerError ε) Unit × Controller σ :=
  let (result, link) := c.link.closeLink
  (result.mapError .io, { c with link, state := .idle })

def awaitReply (seq : UInt16) (accept : Packet → Bool) (c : Controller σ) :
    Except (ControllerError ε) (Option Packet) × Controller σ :=
  let (result, link) := c.link.awaitReply seq accept c.replyBudget
  (result.mapError .io, { c with link })

def prepared (c : Controller σ) : Controller σ :=
  { c with
    state := if c.state.isTerminal then c.state.next .retry else c.state
    link := c.link.discardInput }

def handshakeOnce (c : Controller σ) : Except (ControllerError ε) Outcome × Controller σ :=
  let c := c.prepared
  let (seq, link) := c.link.takeSeq
  let hello : Hello := ⟨c.config.protocolVersion, c.config.capabilities⟩
  match link.sendPacket (hello.packet seq) with
  | (.error e, link) => (.error (.io e), { c with link })
  | (.ok (), link) =>
    let c := { c with link, state := c.state.next .helloSent }
    match c.awaitReply seq fun _ => true with
    | (.error e, c) => (.error e, c)
    | (.ok reply, c) =>
      let outcome := Handshake.classify c.config.protocolVersion reply
      (.ok outcome, { c with state := c.state.next outcome.event })

-- Tries again after a timeout and after a rejection alike; the first acceptance wins.
def handshakeFrom (last : Outcome) : Nat → Controller σ →
    Except (ControllerError ε) HelloAck × Controller σ
  | 0, c => (.error (.handshakeFailed c.attempts last), c)
  | left + 1, c =>
    match c.handshakeOnce with
    | (.error e, c) => (.error e, c)
    | (.ok (.accepted ack), c) => (.ok ack, c)
    | (.ok last, c) => handshakeFrom last left c

def handshake (c : Controller σ) : Except (ControllerError ε) HelloAck × Controller σ :=
  handshakeFrom .timedOut c.attempts c

def sendRequest (r : Request) (c : Controller σ) :
    Except (ControllerError ε) UInt16 × Controller σ :=
  if c.state.isAccepted then
    let (seq, link) := c.link.takeSeq
    match link.sendPacket (r.packet seq) with
    | (.error e, link) => (.error (.io e), { c with link })
    | (.ok (), link) => (.ok seq, { c with link })
  else (.error .notConnected, c)

def exchange (r : Request) (replyCode : UInt8) (c : Controller σ) :
    Except (ControllerError ε) Packet × Controller σ :=
  match c.sendRequest r with
  | (.error e, c) => (.error e, c)
  | (.ok seq, c) =>
    match c.awaitReply seq fun p => p.cmd == replyCode || p.cmd == Command.nack.code with
    | (.error e, c) => (.error e, c)
    | (.ok none, c) => (.error (.noReply r.command.code), c)
    | (.ok (some reply), c) => (.ok reply, c)

def readAck (command : UInt8) (reply : Packet) : Except (ControllerError ε) Unit :=
  if reply.cmd = Command.nack.code then
    match reply.payload.bytes with
    | code :: _ => .error (.nack command code)
    | [] => .error (.malformed command)
  else
    match Reply.commandAck? reply with
    | none => .error (.malformed command)
    | some (acked, status) =>
      if acked ≠ command then .error (.malformed command)
      else if status ≠ statusOk then .error (.status command status)
      else .ok ()

-- A NACK without a code counts as code 0.
def readData (command : UInt8) (parse : Packet → Option α) (reply : Packet) :
    Except (ControllerError ε) α :=
  if reply.cmd = Command.nack.code then .error (.nack command (reply.payload.bytes.headD 0))
  else
    match parse reply with
    | some value => .ok value
    | none => .error (.malformed command)

def requestAck (r : Request) (c : Controller σ) :
    Except (ControllerError ε) Unit × Controller σ :=
  match c.exchange r Command.ack.code with
  | (.error e, c) => (.error e, c)
  | (.ok reply, c) => (readAck r.command.code reply, c)

def requestData (r : Request) (parse : Packet → Option α) (c : Controller σ) :
    Except (ControllerError ε) α × Controller σ :=
  match c.exchange r r.command.code with
  | (.error e, c) => (.error e, c)
  | (.ok reply, c) => (readData r.command.code parse reply, c)

def setAngleCalibrations (table : CalibrationTable) (c : Controller σ) :
    Except (ControllerError ε) Unit × Controller σ :=
  c.requestAck (.setAngleCalibrations table)

def setTargetAngle (channel : Channel) (angle : UInt16) (c : Controller σ) :
    Except (ControllerError ε) Unit × Controller σ :=
  c.requestAck (.setTargetAngle channel.raw angle)

def setPowerRelay (on : Bool) (c : Controller σ) :
    Except (ControllerError ε) Unit × Controller σ :=
  c.requestAck (.setPowerRelay (if on then 1 else 0))

def heartbeat (c : Controller σ) : Except (ControllerError ε) Unit × Controller σ :=
  c.requestAck .heartbeat

def getAngleCalibrations (c : Controller σ) :
    Except (ControllerError ε) (PerChannel PulseRange) × Controller σ :=
  c.requestData .getAngleCalibrations Reply.calibrations?

def getCurrent (c : Controller σ) : Except (ControllerError ε) Single × Controller σ :=
  c.requestData .getCurrent Reply.single?

def getVoltage (c : Controller σ) : Except (ControllerError ε) Single × Controller σ :=
  c.requestData .getVoltage Reply.single?

def getSensor (channel : UInt8) (c : Controller σ) :
    Except (ControllerError ε) Single × Controller σ :=
  c.requestData (.getSensor channel) Reply.single?

end Controller
end LegLink
