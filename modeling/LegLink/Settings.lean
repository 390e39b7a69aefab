import LegLink.Controller
import LegLink.Device
import LegLink.Failure

set_option autoImplicit false

namespace LegLink

structure SerialSettings where
  port : Option String := none
  baudRate : UInt32 := 115200
  timeoutMillis : UInt64 := 100
deriving DecidableEq

structure DeviceSettings where
  deviceId : UInt8 := 1
  pollTimeoutMillis : UInt64 := 20
deriving DecidableEq

structure CalibrationEntry where
  name : String
  calibration : Calibration
deriving DecidableEq

structure Settings where
  title : Option String := none
  calibrations : List CalibrationEntry := []
  serial : SerialSettings := {}
  handshake : ControllerConfig := {}
  level : String := "info"
  device : DeviceSettings := {}
deriving DecidableEq

namespace SerialSettings

def timeout (s : SerialSettings) : Duration := .ofMillis s.timeoutMillis.toNat

end SerialSettings

namespace DeviceSettings

def config (d : DeviceSettings) : DeviceConfig where
  deviceId := d.deviceId
  pollTimeout := .ofMillis d.pollTimeoutMillis.toNat

end DeviceSettings

inductive CalibrationListError where
  | count (found : Nat)
  | name (text : String) (error : JointError)
  | repeated (joint : Joint)
deriving DecidableEq

namespace CalibrationListError

def message : CalibrationListError → String
  | count found => s!"expected {servoCount} MotorCalibrations entries, found {found}"
  | name text error => "\"" ++ text ++ "\": " ++ error.message
  | repeated joint => joint.name ++ " is listed more than once"

end CalibrationListError

inductive SettingsError where
  | title (found : String)
  | baudRate
  | timeout
  | attempts
  | calibrations (error : CalibrationListError)
deriving DecidableEq

namespace Settings

def requiredTitle : String := "Hexapod Config File"

def placeAll : List CalibrationEntry → List Channel → CalibrationTable →
    Except CalibrationListError CalibrationTable
  | [], _, table => .ok table
  | entry :: rest, seen, table =>
    match Joint.ofName entry.name with
    | .error e => .error (.name entry.name e)
    | .ok joint =>
      if joint.channel ∈ seen then .error (.repeated joint)
      else placeAll rest (joint.channel :: seen) (table.set joint.channel entry.calibration)

-- A list that is empty stands for the factory's table.
def calibrationTable (s : Settings) : Except CalibrationListError CalibrationTable :=
  if s.calibrations.isEmpty then .ok .factory
  else if s.calibrations.length ≠ servoCount then .error (.count s.calibrations.length)
  else placeAll s.calibrations [] .factory

def validate (s : Settings) : Except SettingsError Unit :=
  match s.title.filter (· ≠ requiredTitle) with
  | some found => .error (.title found)
  | none =>
    if s.serial.baudRate = 0 then .error .baudRate
    else if s.serial.timeoutMillis = 0 then .error .timeout
    else if s.handshake.attempts = 0 then .error .attempts
    else
      match s.calibrationTable with
      | .error e => .error (.calibrations e)
      | .ok _ => .ok ()

end Settings

namespace CalibrationListError

def failure (e : CalibrationListError) : Failure := .calibration e.message

end CalibrationListError

namespace SettingsError

def failure : SettingsError → Failure
  | title found =>
    .config ("title must be \"" ++ Settings.requiredTitle ++ "\", found \"" ++ found ++ "\"")
  | baudRate => .config "baud_rate must be non-zero"
  | timeout => .config "timeout_ms must be non-zero"
  | attempts => .config "handshake attempts must be at least 1"
  | calibrations e => e.failure

end SettingsError
end LegLink
