import LegLink.Calibration
import LegLink.Handshake
import LegLink.Link

set_option autoImplicit false

namespace LegLink

class ServoBank (β : Type) where
  setCalibration : Channel → Calibration → β → β
  calibration : Channel → β → PulseRange
  setAngle : Channel → Single → β → β

class AnalogSensors (β : Type) where
  readCurrent : β → Option Single × β
  readVoltage : β → Option Single × β
  readSensor : UInt8 → β → Option Single × β

class PowerRelay (β : Type) where
  setPower : Bool → β → β
  isPowered : β → Bool

namespace ServoBank

variable {β : Type} [ServoBank β]

def applyTable (table : CalibrationTable) (bank : β) : β :=
  Channel.all.foldl (fun bank c => setCalibration c (table.get c) bank) bank

def calibrations (bank : β) : PerChannel PulseRange :=
  Vector.ofFn fun c : Channel => calibration c bank

end ServoBank

open Handshake (Gate)

structure DeviceConfig where
  protocolVersion : UInt8 := LegLink.protocolVersion
  deviceId : UInt8 := 1
  pollTimeout : Duration := .ofMicros 100
deriving DecidableEq

inductive IgnoreReason where
  | gated
  | unknownCommand (code : UInt8)
  | truncated
  | sensorFault
deriving DecidableEq

def IgnoreReason.name : IgnoreReason → String
  | gated => "Gated"
  | unknownCommand _ => "UnknownCommand"
  | truncated => "Truncated"
  | sensorFault => "SensorFault"

inductive Dispatch where
  | idle
  | handled (command : Command)
  | ignored (reason : IgnoreReason)
deriving DecidableEq

structure DeviceStats where
  handled : UInt32 := 0
  ignored : UInt32 := 0
  handshakes : UInt32 := 0
deriving DecidableEq

structure Device (σ β γ δ : Type) where
  link : Link σ
  servos : β
  sensors : γ
  relay : δ
  gate : Gate := .closed
  config : DeviceConfig := {}
  stats : DeviceStats := {}

namespace Device

variable {σ ε β γ δ : Type} [Transport σ ε] [ServoBank β] [AnalogSensors γ] [PowerRelay δ]

inductive Reaction where
  | reply (command : Command) (packet : Packet)
  | ignore (reason : IgnoreReason)
deriving DecidableEq

def reactHello (p : Packet) (d : Device σ β γ δ) : Reaction × Device σ β γ δ :=
  let answer := Handshake.respond p.payload.bytes d.config.protocolVersion d.config.deviceId
  let d := if answer.isAck then
      { d with gate := .opened, stats.handshakes := d.stats.handshakes + 1 }
    else d
  (.reply .hello (answer.packet p.seq), d)

def reading (seq : UInt16) (command : Command) : Option Single → Reaction
  | some value => .reply command (Reply.single seq command value)
  | none => .ignore .sensorFault

def acknowledged (seq : UInt16) (command : Command) : Reaction :=
  .reply command (Reply.commandAck seq command statusOk)

def execute (p : Packet) (r : Request) (d : Device σ β γ δ) : Reaction × Device σ β γ δ :=
  match r with
  | .hello _ _ => d.reactHello p
  | .setAngleCalibrations table =>
    (acknowledged p.seq r.command, { d with servos := ServoBank.applyTable table d.servos })
  | .setTargetAngle channel angle =>
    let d := match Channel.ofIndex? channel with
      | some c => { d with servos := ServoBank.setAngle c (Single.ofWord angle) d.servos }
      | none => d
    (acknowledged p.seq r.command, d)
  | .setPowerRelay value =>
    let d := if value = 1 then { d with relay := PowerRelay.setPower true d.relay }
      else if value = 0 then { d with relay := PowerRelay.setPower false d.relay }
      else d
    (acknowledged p.seq r.command, d)
  | .getAngleCalibrations =>
    (.reply r.command (Reply.calibrations p.seq (ServoBank.calibrations d.servos)), d)
  | .getCurrent =>
    let (value, sensors) := AnalogSensors.readCurrent d.sensors
    (reading p.seq r.command value, { d with sensors })
  | .getVoltage =>
    let (value, sensors) := AnalogSensors.readVoltage d.sensors
    (reading p.seq r.command value, { d with sensors })
  | .getSensor channel =>
    let (value, sensors) := AnalogSensors.readSensor channel d.sensors
    (reading p.seq r.command value, { d with sensors })
  | .heartbeat => (acknowledged p.seq r.command, d)

-- A HELLO is always answered; anything else only once the gate is open.
def react (p : Packet) (d : Device σ β γ δ) : Reaction × Device σ β γ δ :=
  if p.cmd = Command.hello.code then d.reactHello p
  else if d.gate.isOpen then
    match Request.ofPacket p with
    | .ok r => d.execute p r
    | .error (.unknownCommand code) => (.ignore (.unknownCommand code), d)
    | .error .truncated => (.ignore .truncated, d)
  else (.ignore .gated, d)

-- The packet is worked out first, then its reply is sent, and then it is counted, so a reply that
-- can not be sent leaves everything but the count as if it had been.
def handle (p : Packet) (d : Device σ β γ δ) : Except ε Dispatch × Device σ β γ δ :=
  match d.react p with
  | (.ignore reason, d) =>
    (.ok (.ignored reason), { d with stats.ignored := d.stats.ignored + 1 })
  | (.reply command reply, d) =>
    match d.link.sendPacket reply with
    | (.error e, link) => (.error e, { d with link })
    | (.ok (), link) =>
      (.ok (.handled command), { d with link, stats.handled := d.stats.handled + 1 })

def poll (d : Device σ β γ δ) : Except ε Dispatch × Device σ β γ δ :=
  match d.link.poll d.config.pollTimeout with
  | (.ok p, link) => { d with link }.handle p
  | (.error .timeout, link) => (.ok .idle, { d with link })
  | (.error (.io e), link) => (.error e, { d with link })

def run (running : Device σ β γ δ → Bool) : Nat → Device σ β γ δ → Except ε Unit × Device σ β γ δ
  | 0, d => (.ok (), d)
  | polls + 1, d =>
    if running d then
      match d.poll with
      | (.error e, d) => (.error e, d)
      | (.ok _, d) => run running polls d
    else (.ok (), d)

def drain : Nat → Device σ β γ δ → List (Except ε Dispatch) × Device σ β γ δ
  | 0, d => ([], d)
  | polls + 1, d =>
    match d.poll with
    | (.ok .idle, d) => ([], d)
    | (.error e, d) => ([.error e], d)
    | (.ok dispatch, d) =>
      let (rest, d) := drain polls d
      (.ok dispatch :: rest, d)

end Device
end LegLink
