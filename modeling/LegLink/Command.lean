set_option autoImplicit false

namespace LegLink

inductive Command where
  | hello
  | ack
  | nack
  | setAngleCalibrations
  | setTargetAngle
  | setPowerRelay
  | getAngleCalibrations
  | getCurrent
  | getVoltage
  | getSensor
  | heartbeat
deriving DecidableEq

namespace Command

def code : Command → UInt8
  | hello => 0x10
  | ack => 0x11
  | nack => 0x12
  | setAngleCalibrations => 0x01
  | setTargetAngle => 0x02
  | setPowerRelay => 0x03
  | getAngleCalibrations => 0x04
  | getCurrent => 0x05
  | getVoltage => 0x06
  | getSensor => 0x07
  | heartbeat => 0x08

def ofCode? : UInt8 → Option Command
  | 0x10 => some hello
  | 0x11 => some ack
  | 0x12 => some nack
  | 0x01 => some setAngleCalibrations
  | 0x02 => some setTargetAngle
  | 0x03 => some setPowerRelay
  | 0x04 => some getAngleCalibrations
  | 0x05 => some getCurrent
  | 0x06 => some getVoltage
  | 0x07 => some getSensor
  | 0x08 => some heartbeat
  | _ => none

def name : Command → String
  | hello => "Hello"
  | ack => "Ack"
  | nack => "Nack"
  | setAngleCalibrations => "SetAngleCalibrations"
  | setTargetAngle => "SetTargetAngle"
  | setPowerRelay => "SetPowerRelay"
  | getAngleCalibrations => "GetAngleCalibrations"
  | getCurrent => "GetCurrent"
  | getVoltage => "GetVoltage"
  | getSensor => "GetSensor"
  | heartbeat => "Heartbeat"

def isHandshake : Command → Bool
  | hello | ack | nack => true
  | _ => false

def hasDataReply : Command → Bool
  | getAngleCalibrations | getCurrent | getVoltage | getSensor => true
  | _ => false

theorem of_code_code (c : Command) : ofCode? c.code = some c := by
  cases c <;> rfl

end Command

def statusOk : UInt8 := 0x00

def errorTimeout : UInt8 := 0xA1
def errorVersionMismatch : UInt8 := 0xA2

def protocolVersion : UInt8 := 1

end LegLink
