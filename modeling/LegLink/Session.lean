import LegLink.Bench
import LegLink.Digits
import LegLink.Failure
import LegLink.Settings

set_option autoImplicit false

namespace LegLink.Session

open Handshake (Outcome)

variable {σ ε : Type} [Transport σ ε]

def tries : Nat → Controller σ →
    Except (ControllerError ε) (Option HelloAck) × List Outcome × Controller σ
  | 0, c => (.ok none, [], c)
  | left + 1, c =>
    match c.handshakeOnce with
    | (.error e, c) => (.error e, [], c)
    | (.ok (.accepted ack), c) => (.ok (some ack), [.accepted ack], c)
    | (.ok outcome, c) =>
      let (result, outcomes, c) := tries left c
      (result, outcome :: outcomes, c)

def handshake (describe : ε → String) (c : Controller σ) : Except Failure HelloAck × Controller σ :=
  match tries c.attempts c with
  | (.error e, _, c) => (.error (.ofController describe e), c)
  | (.ok (some ack), _, c) => (.ok ack, c)
  | (.ok none, outcomes, c) =>
    let last := outcomes.getLastD .timedOut
    let e : ControllerError ε := .handshakeFailed c.attempts last
    (.error (.ofController describe e), c)

def connect (describe : ε → String) (c : Controller σ) : Except Failure HelloAck × Controller σ :=
  match c.openSession with
  | (.error e, c) => (.error (.ofController describe e), c)
  | (.ok (), c) => handshake describe c

abbrev Run (σ : Type) := ExceptT Failure (StateM (Controller σ))

def ask {α : Type} (describe : ε → String)
    (request : Controller σ → Except (ControllerError ε) α × Controller σ) : Run σ α :=
  fun c =>
    let (result, c) := request c
    (result.mapError (.ofController describe), c)

end LegLink.Session

namespace LegLink.Selftest

structure Report where
  device : HelloAck
  calibrationsMatch : Bool
  voltage : Single
  current : Single
  sensors : List Single
  stats : DeviceStats

def describe (e : Empty) : String := nomatch e

def sensorChannels : List UInt8 := [0, 1, 2, 3, 4, 5]

def sameRanges (sent : CalibrationTable) (found : PerChannel PulseRange) : Bool :=
  Channel.all.all fun c => (found.get c).same (sent.get c).range

def exercise (table : CalibrationTable) : Session.Run Bench Report := do
  let ask {α : Type} := Session.ask (α := α) describe
  let device ← Session.connect describe
  ask Controller.heartbeat
  ask (Controller.setAngleCalibrations table)
  let found ← ask Controller.getAngleCalibrations
  ask (Controller.setPowerRelay true)
  for c in Channel.all do
    ask (Controller.setTargetAngle c 0)
  let voltage ← ask Controller.getVoltage
  let current ← ask Controller.getCurrent
  let sensors ← sensorChannels.mapM fun c => ask (Controller.getSensor c)
  ask (Controller.setPowerRelay false)
  ask Controller.closeSession
  pure {
    device
    calibrationsMatch := sameRanges table found
    voltage
    current
    sensors
    stats := {} }

def run (s : Settings) : Except Failure Report :=
  match s.calibrationTable with
  | .error e => .error e.failure
  | .ok table =>
    let host := Controller.ofLine (Bench.ofConfig s.device.config) s.handshake
    let (result, host) := (exercise table).run host
    result.map fun report => { report with stats := host.link.line.device.stats }

def identity (a : HelloAck) : String :=
  s!"device 0x{Hex.byte a.deviceId}, protocol version {a.version}"

def Report.lines (r : Report) : List String :=
  [identity r.device,
    "calibrations read back: " ++ (if r.calibrationsMatch then "ok" else "MISMATCH"),
    "rail: " ++ r.voltage.toFixed 2 ++ " V, " ++ r.current.toFixed 3 ++ " A"] ++
  (r.sensors.zipIdx.map fun (volts, c) => s!"sensor {c}: " ++ volts.toFixed 3 ++ " V") ++
  [s!"device handled {r.stats.handled} request(s), ignored {r.stats.ignored}"]

def Report.trouble? (r : Report) : Option Trouble :=
  if r.calibrationsMatch then none
  else some { message := "calibrations read back differ from those sent" }

end LegLink.Selftest
