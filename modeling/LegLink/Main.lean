import LegLink.CommandLine.Refusal
import LegLink.Line.Replay
import LegLink.Program

set_option autoImplicit false

namespace LegLink.Main

open Line (Answer Call Replay)

-- Some calls give the number of an error with its sign turned, in 32 bits.
def errorNumber (code : UInt32) : Nat := if code.toInt32 < 0 then (-code).toNat else code.toNat

def systemError : IO.Error → SystemError
  | .otherError code text | .resourceBusy code text | .resourceVanished code text
  | .unsupportedOperation code text | .hardwareFault code text
  | .unsatisfiedConstraints code text | .illegalOperation code text | .protocolError code text
  | .timeExpired code text | .alreadyExists _ code text | .interrupted _ code text
  | .noFileOrDirectory _ code text | .invalidArgument _ code text | .permissionDenied _ code text
  | .resourceExhausted _ code text | .inappropriateType _ code text | .noSuchThing _ code text =>
    .ofCode (errorNumber code) text
  | .userError text => ⟨0, text⟩
  | .unexpectedEof => ⟨0, "end of file"⟩

-- The port has to be raw, at the right speed, and set to let a read return without a byte after a
-- short while; the timeouts of the link are kept by reading again until they are over.
structure Port where
  input : IO.FS.Handle
  output : IO.FS.Handle

namespace Port

def attach (path : String) : IO Port := do
  pure { input := ← IO.FS.Handle.mk path .read, output := ← IO.FS.Handle.mk path .write }

partial def drain (port : Port) : IO Unit := do
  if !(← port.input.read 1).isEmpty then port.drain

partial def readUntil (deadline : Nat) (port : Port) : IO Answer := do
  match (← port.input.read 1).toList with
  | byte :: _ => pure (.byte byte)
  | [] => if deadline ≤ (← IO.monoNanosNow) then pure .silence else port.readUntil deadline

def carryOut (call : Call) (port : Port) : IO Answer := do
  try
    match call with
    | .openLine => port.drain; pure .done
    | .closeLine => port.output.flush; pure .done
    | .write data => port.output.write ⟨data.toArray⟩; port.output.flush; pure .done
    | .readByte timeout => port.readUntil ((← IO.monoNanosNow) + timeout.nanos)
  catch e => pure (.fault (systemError e).text)

partial def settle {α : Type} (run : List Answer → α × Option Call) (answers : List Answer)
    (port : Port) : IO α := do
  match run answers with
  | (result, none) => pure result
  | (_, some call) => port.settle run (answers ++ [← port.carryOut call])

end Port

def readFile (path : String) : IO FileContents := do
  try .ok <$> IO.FS.readBinFile path catch e => pure (.error (systemError e))

def findPort (name levels : String) : IO (Option PortInfo) := do
  let read (what : String) : IO String := do
    let text ← IO.FS.readFile ("/sys/class/tty/" ++ name ++ "/device/" ++ levels ++ what)
    pure text.trimAscii.toString
  try
    let vendor := Hex.nat? (← read "idVendor").toList
    let product := Hex.nat? (← read "idProduct").toList
    let productName ← try some <$> read "product" catch _ => pure none
    let kind := match vendor, product with
      | some vendor, some product => .usb (.ofNat vendor) (.ofNat product) productName
      | _, _ => .other
    pure (some { name := "/dev/" ++ name, kind })
  catch _ => pure none

def findPorts : IO (List PortInfo) := do
  let numbers := List.range 64
  let modems ← numbers.filterMapM fun n => findPort s!"ttyACM{n}" "../"
  let adapters ← numbers.filterMapM fun n => findPort s!"ttyUSB{n}" "../../"
  pure (modems ++ adapters)

def surroundings (s : Settings) (ports : List PortInfo) (found : Except SystemError Port)
    (answers : List Answer) : Program.Surroundings Replay where
  ports := ports
  openPort _ _ := found.map fun _ => { byteTimeout := s.serial.timeout, answers }

def attachPort (s : Settings) (ports : List PortInfo) : IO (Except SystemError Port) := do
  match PortInfo.choose s.serial.port ports with
  | none => pure (.error .missing)
  | some path => try .ok <$> Port.attach path catch e => pure (.error (systemError e))

partial def emulate (d : Emulator.EmulatedDevice Replay) (port : Port) : IO Trouble := do
  let poll (answers : List Answer) :=
    let (result, d) := { d with link.line.answers := answers }.poll
    ((result, d), d.link.line.wanted)
  match ← port.settle poll [] with
  | (.ok _, d) => emulate d port
  | (.error e, _) => pure (Program.stopped id e)

def perform (s : Settings) (task : Task) : IO (Program.Outcome Replay) := do
  let ports ← findPorts
  let found ←
    if task = .ports || task = .selftest then pure (.error .missing) else attachPort s ports
  let run (answers : List Answer) :=
    let outcome := Program.run id (surroundings s ports found answers) s task
    (outcome, outcome.line.bind (·.wanted))
  match found with
  | .error _ => pure (run []).1
  | .ok port =>
    if task = .emulate then
      let line : Replay := { byteTimeout := s.serial.timeout }
      pure { trouble := some (← emulate (Emulator.build line s.device.config) port) }
    else port.settle run []

def finish {σ : Type} (outcome : Program.Outcome σ) : IO UInt32 := do
  IO.print outcome.output
  IO.eprint outcome.complaint
  pure (.ofNat outcome.exitCode)

def runWith (args : List String) : IO UInt32 := do
  let path := Program.settingsFile args
  let file ← readFile path
  match Program.start args fun wanted => if wanted = path then file else .error .missing with
  | .refused why =>
    if why.exitCode = 0 then IO.print why.message else IO.eprint why.message
    pure (.ofNat why.exitCode)
  | .failed trouble => finish (σ := Replay) { trouble }
  | .ready s task => finish (← perform s task)

end LegLink.Main

def main (args : List String) : IO UInt32 := LegLink.Main.runWith args
