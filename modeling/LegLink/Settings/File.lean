import LegLink.FileTree
import LegLink.Settings
import LegLink.Toml.Document
import LegLink.Toml.Table

set_option autoImplicit false

namespace LegLink.Settings

open Toml (Value Entries)

def asText : Value → Option String
  | .string text => some text
  | _ => none

def asNat (limit : Nat) : Value → Option Nat
  | .integer (.ofNat n) => if n < limit then some n else none
  | _ => none

def asByte (v : Value) : Option UInt8 := (asNat UInt8.size v).map UInt8.ofNat
def asWord (v : Value) : Option UInt16 := (asNat UInt16.size v).map UInt16.ofNat
def asLong (v : Value) : Option UInt32 := (asNat UInt32.size v).map UInt32.ofNat
def asHuge (v : Value) : Option UInt64 := (asNat UInt64.size v).map UInt64.ofNat

-- A section is a table, or an array of its values in a fixed order, of which the last may be
-- missing; a date stands for a section that names nothing.
inductive Fields where
  | named (entries : Entries)
  | placed (items : List Value)

namespace Fields

def ofValue? : Value → Option Fields
  | .table _ entries => some (named entries)
  | .array items => some (placed items)
  | .tables items => some (placed (items.map (.table .header)))
  | .moment _ => some (named [])
  | _ => none

def find? (f : Fields) (place : Nat) (name : String) : Option Value :=
  match f with
  | named entries => entries.lookup name
  | placed items => items[place]?

def get {α : Type} (f : Fields) (place : Nat) (name : String) (read : Value → Option α)
    (default : α) : Option α :=
  match f.find? place name with
  | none => some default
  | some v => read v

end Fields

def readSerial (v : Value) : Option SerialSettings := do
  let f ← Fields.ofValue? v
  let base : SerialSettings := {}
  pure {
    port := ← f.get 0 "port" (fun v => (asText v).map some) base.port
    baudRate := ← f.get 1 "baud_rate" asLong base.baudRate
    timeoutMillis := ← f.get 2 "timeout_ms" asHuge base.timeoutMillis }

def readHandshake (v : Value) : Option ControllerConfig := do
  let f ← Fields.ofValue? v
  let base : ControllerConfig := {}
  pure {
    attempts := ← f.get 0 "attempts" asLong base.attempts
    replyAttempts := ← f.get 1 "reply_attempts" asLong base.replyAttempts
    capabilities := ← f.get 2 "capabilities" asByte base.capabilities
    protocolVersion := ← f.get 3 "protocol_version" asByte base.protocolVersion }

def readLevel (v : Value) : Option String := do
  let f ← Fields.ofValue? v
  f.get 0 "level" asText ({} : Settings).level

def readDevice (v : Value) : Option DeviceSettings := do
  let f ← Fields.ofValue? v
  let base : DeviceSettings := {}
  pure {
    deviceId := ← f.get 0 "device_id" asByte base.deviceId
    pollTimeoutMillis := ← f.get 1 "poll_timeout_ms" asHuge base.pollTimeoutMillis }

def readEntry : Value → Option CalibrationEntry
  | .array (name :: low :: high :: _) => do
    pure { name := ← asText name, calibration := ⟨← asWord low, ← asWord high⟩ }
  | _ => none

def readEntries : Value → Option (List CalibrationEntry)
  | .array items => items.mapM readEntry
  | _ => none

def ofDocument? (entries : Entries) : Option Settings := do
  let f := Fields.named entries
  let base : Settings := {}
  pure {
    title := ← f.get 0 "title" (fun v => (asText v).map some) base.title
    calibrations := ← f.get 1 "MotorCalibrations" readEntries base.calibrations
    serial := ← f.get 2 "serial" readSerial base.serial
    handshake := ← f.get 3 "handshake" readHandshake base.handshake
    level := ← f.get 4 "logging" readLevel base.level
    device := ← f.get 5 "device" readDevice base.device }

end LegLink.Settings

namespace LegLink

namespace Settings

def defaultFile : String := "hexapod.toml"

def parse? (text : String) : Option Settings := (Toml.Document.parse text).bind ofDocument?

def ofFile (file : FileContents) : Except Failure Settings :=
  match file with
  | .error e => .error (.config ("Failed to read config: " ++ e.describe))
  | .ok bytes =>
    match String.fromUTF8? bytes with
    | none => .error (.config "Failed to read config: stream did not contain valid UTF-8")
    | some text =>
      match parse? text with
      | none => .error (.config "Failed to parse config")
      | some settings =>
        match settings.validate with
        | .error e => .error e.failure
        | .ok () => .ok settings

def load (path : Option String) (read : String → FileContents) : Except Failure Settings :=
  match path with
  | some path => ofFile (read path)
  | none =>
    let file := read defaultFile
    if file matches .error .missing then .ok {} else ofFile file

end Settings
end LegLink
