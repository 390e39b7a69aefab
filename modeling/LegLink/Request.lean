import LegLink.Calibration
import LegLink.Command
import LegLink.Frame

set_option autoImplicit false

namespace LegLink

inductive Request where
  | hello (version capabilities : UInt8)
  | setAngleCalibrations (table : CalibrationTable)
  | setTargetAngle (channel : UInt8) (angle : UInt16)
  | setPowerRelay (value : UInt8)
  | getAngleCalibrations
  | getCurrent
  | getVoltage
  | getSensor (channel : UInt8)
  | heartbeat
deriving DecidableEq

inductive RequestError where
  | unknownCommand (code : UInt8)
  | truncated
deriving DecidableEq

namespace Request

def command : Request → Command
  | hello _ _ => .hello
  | setAngleCalibrations _ => .setAngleCalibrations
  | setTargetAngle _ _ => .setTargetAngle
  | setPowerRelay _ => .setPowerRelay
  | getAngleCalibrations => .getAngleCalibrations
  | getCurrent => .getCurrent
  | getVoltage => .getVoltage
  | getSensor _ => .getSensor
  | heartbeat => .heartbeat

def arguments : Request → Bytes
  | hello version capabilities => [version, capabilities]
  | setAngleCalibrations table => table.flatten Calibration.bytes
  | setTargetAngle channel angle => channel :: Bytes.ofWord angle
  | setPowerRelay value => [value]
  | getSensor channel => [channel]
  | getAngleCalibrations | getCurrent | getVoltage | heartbeat => []

theorem length_arguments_le (r : Request) : r.arguments.length ≤ maxPayload := by
  cases r <;> simp only [arguments, maxPayload, List.length_cons, List.length_nil,
    Bytes.length_of_word] <;> try omega
  rw [PerChannel.length_flatten _ _ 4 Calibration.length_bytes]
  decide

def packet (r : Request) (seq : UInt16) : Packet :=
  ⟨seq, r.command.code, ⟨r.arguments, r.length_arguments_le⟩⟩

def table? (data : Bytes) : Option CalibrationTable :=
  if data.length < servoCount * 4 then none
  else some (Vector.ofFn fun c : Channel =>
    ⟨Bytes.wordAt data (4 * c.val), Bytes.wordAt data (4 * c.val + 2)⟩)

-- Arguments stand at the front of the payload; bytes after them are ignored.
def ofPacket (p : Packet) : Except RequestError Request :=
  match Command.ofCode? p.cmd, p.payload.bytes with
  | none, _ | some .ack, _ | some .nack, _ => .error (.unknownCommand p.cmd)
  | some .hello, version :: capabilities :: _ => .ok (.hello version capabilities)
  | some .setAngleCalibrations, data =>
    match table? data with
    | some table => .ok (.setAngleCalibrations table)
    | none => .error .truncated
  | some .setTargetAngle, channel :: lo :: hi :: _ =>
    .ok (.setTargetAngle channel (Bytes.word lo hi))
  | some .setPowerRelay, value :: _ => .ok (.setPowerRelay value)
  | some .getSensor, channel :: _ => .ok (.getSensor channel)
  | some .getAngleCalibrations, _ => .ok .getAngleCalibrations
  | some .getCurrent, _ => .ok .getCurrent
  | some .getVoltage, _ => .ok .getVoltage
  | some .heartbeat, _ => .ok .heartbeat
  | some .hello, _ | some .setTargetAngle, _ | some .setPowerRelay, _ | some .getSensor, _ =>
    .error .truncated

end Request
end LegLink

namespace LegLink.Reply

def commandAck (seq : UInt16) (command : Command) (status : UInt8) : Packet :=
  ⟨seq, Command.ack.code, ⟨[command.code, status], by simp [maxPayload]⟩⟩

def nack (seq : UInt16) (error : UInt8) : Packet :=
  ⟨seq, Command.nack.code, ⟨[error], by simp [maxPayload]⟩⟩

def single (seq : UInt16) (command : Command) (value : Single) : Packet :=
  ⟨seq, command.code, ⟨Bytes.ofSingle value, by simp [Bytes.length_of_single, maxPayload]⟩⟩

theorem length_ranges (ranges : PerChannel PulseRange) :
    (ranges.flatten PulseRange.bytes).length ≤ maxPayload := by
  rw [PerChannel.length_flatten _ _ 8 PulseRange.length_bytes]
  decide

def calibrations (seq : UInt16) (ranges : PerChannel PulseRange) : Packet :=
  ⟨seq, Command.getAngleCalibrations.code, ⟨ranges.flatten PulseRange.bytes, length_ranges ranges⟩⟩

def single? (p : Packet) : Option Single :=
  match p.payload.bytes with
  | a :: b :: c :: d :: _ => some (Bytes.single a b c d)
  | _ => none

def calibrations? (p : Packet) : Option (PerChannel PulseRange) :=
  let data := p.payload.bytes
  if data.length < servoCount * 8 then none
  else some (Vector.ofFn fun c : Channel =>
    ⟨Bytes.singleAt data (8 * c.val), Bytes.singleAt data (8 * c.val + 4)⟩)

def commandAck? (p : Packet) : Option (UInt8 × UInt8) :=
  match p.payload.bytes with
  | command :: status :: _ => some (command, status)
  | _ => none

end LegLink.Reply
