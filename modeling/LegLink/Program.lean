import LegLink.CommandLine
import LegLink.Line.Serial
import LegLink.Session
import LegLink.Settings.File

set_option autoImplicit false

namespace LegLink.Program

open CommandLine (Refusal)

inductive Start where
  | refused (why : Refusal)
  | failed (trouble : Trouble)
  | ready (settings : Settings) (task : Task)

def settingsFile (args : List String) : String :=
  match CommandLine.parse args with
  | .error _ => Settings.defaultFile
  | .ok invocation => invocation.overrides.config.getD Settings.defaultFile

def start (args : List String) (read : String → FileContents) : Start :=
  match CommandLine.parse args with
  | .error why => .refused why
  | .ok invocation =>
    match Settings.load invocation.overrides.config read with
    | .error f => .failed ((Trouble.ofFailure f).during "Failed to load config")
    | .ok settings => .ready (invocation.overrides.apply settings) invocation.task

structure Surroundings (σ : Type) where
  ports : List PortInfo
  openPort : String → SerialSettings → Except SystemError σ
  polls : Nat := 0

structure Outcome (σ : Type) where
  lines : List String := []
  trouble : Option Trouble := none
  line : Option σ := none

namespace Outcome

variable {σ : Type}

def output (o : Outcome σ) : String := String.join (o.lines.map (· ++ "\n"))
def complaint (o : Outcome σ) : String := (o.trouble.map Trouble.render).getD ""
def exitCode (o : Outcome σ) : Nat := if o.trouble.isSome then 1 else 0

end Outcome

variable {σ ε : Type} [Transport σ ε]

def openLine (w : Surroundings σ) (s : Settings) : Except Trouble σ :=
  match PortInfo.choose s.serial.port w.ports with
  | none =>
    .error ((Trouble.ofFailure .noPort).during
      "No serial port given and none detected; pass --port")
  | some path =>
    match w.openPort path s.serial with
    | .error e =>
      .error ((Trouble.ofFailure (.serial e.text)).during ("Failed to open serial port " ++ path))
    | .ok line => .ok line

def rangeLine (c : Channel) (r : PulseRange) : String :=
  let number := toString c.val
  let room := if number.length < 2 then " " else ""
  room ++ number ++ " " ++ (Joint.ofChannel c).name ++ "  " ++ r.minPulse.toFixed 0 ++ " - " ++
    r.maxPulse.toFixed 0 ++ " us"

def request (describe : ε → String) (table : Option CalibrationTable) (device : HelloAck) :
    Task → Session.Run σ (List String)
  | .handshake => pure [Selftest.identity device]
  | .calibrate => do
    if let some table := table then
      Session.ask describe (Controller.setAngleCalibrations table)
    pure []
  | .calibrations => do
    let ranges ← Session.ask describe Controller.getAngleCalibrations
    pure (Channel.all.map fun c => rangeLine c (ranges.get c))
  | .angle channel angle => do
    Session.ask describe (Controller.setTargetAngle channel angle)
    pure []
  | .relay on => do
    Session.ask describe (Controller.setPowerRelay on)
    pure []
  | .current => do
    let amps ← Session.ask describe Controller.getCurrent
    pure [amps.toFixed 3 ++ " A"]
  | .voltage => do
    let volts ← Session.ask describe Controller.getVoltage
    pure [volts.toFixed 3 ++ " V"]
  | .sensor channel => do
    let volts ← Session.ask describe (Controller.getSensor channel)
    pure [volts.toFixed 3 ++ " V"]
  | .heartbeat => do
    Session.ask describe Controller.heartbeat
    pure ["device alive"]
  | .ports | .emulate | .selftest => pure []

-- What was printed stays printed if the line can not be closed.
def session (describe : ε → String) (s : Settings) (table : Option CalibrationTable) (task : Task)
    (line : σ) : Outcome σ :=
  let host := Controller.ofLine line s.handshake
  match Session.connect describe host with
  | (.error f, host) =>
    let trouble := match f with
      | .handshakeFailed _ => Trouble.ofFailure f
      | f => (Trouble.ofFailure f).during "Failed to start session"
    { trouble := some trouble, line := some host.link.line }
  | (.ok device, host) =>
    match (request describe table device task).run host with
    | (.error f, host) => { trouble := some (.ofFailure f), line := some host.link.line }
    | (.ok lines, host) =>
      let (closed, host) := (Session.ask describe Controller.closeSession).run host
      let trouble := match closed with
        | .ok () => none
        | .error f => some (Trouble.ofFailure f)
      { lines, trouble, line := some host.link.line }

-- A bad list is refused before the port is opened.
def tableFor (s : Settings) : Task → Except CalibrationListError (Option CalibrationTable)
  | .calibrate => s.calibrationTable.map some
  | _ => .ok none

def runSession (describe : ε → String) (w : Surroundings σ) (s : Settings) (task : Task) :
    Outcome σ :=
  match tableFor s task with
  | .error e => { trouble := some (.ofFailure e.failure) }
  | .ok table =>
    match openLine w s with
    | .error trouble => { trouble := some trouble }
    | .ok line => session describe s table task line

def stopped (describe : ε → String) (e : ε) : Trouble :=
  { message := "emulated device stopped: Io(" ++ describe e ++ ")" }

def runEmulator (describe : ε → String) (w : Surroundings σ) (s : Settings) : Outcome σ :=
  match openLine w s with
  | .error trouble => { trouble := some trouble }
  | .ok line =>
    let (result, d) := (Emulator.build line s.device.config).run (fun _ => true) w.polls
    let trouble := match result with
      | .ok () => none
      | .error e => some (stopped describe e)
    { trouble, line := some d.link.line }

def runSelftest (s : Settings) : Outcome σ :=
  match Selftest.run s with
  | .error f => { trouble := some ((Trouble.ofFailure f).during "Selftest failed") }
  | .ok report => { lines := report.lines, trouble := report.trouble? }

def listPorts (ports : List PortInfo) : List String :=
  if ports.isEmpty then ["No serial ports found"] else (PortInfo.sorted ports).map PortInfo.describe

def run (describe : ε → String) (w : Surroundings σ) (s : Settings) : Task → Outcome σ
  | .ports => { lines := listPorts w.ports }
  | .emulate => runEmulator describe w s
  | .selftest => runSelftest s
  | task => runSession describe w s task

end LegLink.Program
