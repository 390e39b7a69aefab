import LegLink.CommandLine.Option
import LegLink.CommandLine.Task

set_option autoImplicit false

namespace LegLink.CommandLine

structure Invocation where
  task : Task
  overrides : Overrides
deriving DecidableEq

inductive Operand where
  | channel
  | angle
  | power
  | sensor
deriving DecidableEq

def operands : Verb → List Operand
  | .angle => [.channel, .angle]
  | .relay => [.power]
  | .sensor => [.sensor]
  | _ => []

-- A value that is given on its own is looked at only when the next argument needs it done, so that
-- an argument that can not be placed is told before a value that can not be read.
inductive Pending where
  | nothing
  | awaiting (switch : Switch)
  | option (switch : Switch) (value : String)
  | operand (kind : Operand) (value : String)
deriving DecidableEq

structure State where
  overrides : Overrides := {}
  pending : Pending := .nothing
  channel : Option Channel := none
  angle : Option UInt16 := none
  power : Option Bool := none
  sensor : Option UInt8 := none
deriving DecidableEq

namespace State

def setOperand (s : State) (kind : Operand) (value : String) : Except Refusal State :=
  match kind with
  | .channel =>
    match Channel.parse value with
    | .ok c => .ok { s with channel := some c }
    | .error _ => .error .valueValidation
  | .angle => (Overrides.number UInt16.size value).map fun n => { s with angle := some (.ofNat n) }
  | .sensor => (Overrides.number UInt8.size value).map fun n => { s with sensor := some (.ofNat n) }
  | .power =>
    if value = "on" then .ok { s with power := some true }
    else if value = "off" then .ok { s with power := some false }
    else .error .invalidValue

def setOption (s : State) (switch : Switch) (value : String) : Except Refusal State :=
  (s.overrides.set switch value).map fun overrides => { s with overrides }

def settle (s : State) : Except Refusal State :=
  let done := { s with pending := .nothing }
  match s.pending with
  | .nothing => .ok s
  | .awaiting _ => .error .invalidValue
  | .option switch value => done.setOption switch value
  | .operand kind value => done.setOperand kind value

def takeSwitch (s : State) (switch : Switch) (value : Option String) : Except Refusal State :=
  match switch.request?, value with
  | some request, none => s.settle.bind fun _ => .error request
  | some _, some _ => .error .tooManyValues
  | none, some value => s.settle.bind fun s => s.setOption switch value
  | none, none => s.settle.map fun s => { s with pending := .awaiting switch }

def splitLong (text : List Char) : String × Option String :=
  match text.dropWhile (· ≠ '=') with
  | '=' :: value => (String.ofList (text.takeWhile (· ≠ '=')), some (String.ofList value))
  | _ => (String.ofList text, none)

def takeLong (s : State) (text : List Char) : Except Refusal State :=
  let (name, value) := splitLong text
  match Switch.ofLong? name with
  | none => .error .unknownArgument
  | some switch => s.takeSwitch switch value

def takeShort (s : State) (letter : Char) (rest : List Char) : Except Refusal State :=
  match Switch.ofShort? letter with
  | none => .error .unknownArgument
  | some switch =>
    if switch.request?.isSome then s.takeSwitch switch none
    else
      match rest with
      | [] => s.takeSwitch switch none
      | '=' :: value => s.takeSwitch switch (some (String.ofList value))
      | value => s.takeSwitch switch (some (String.ofList value))

def takeOption? (s : State) (arg : String) : Option (Except Refusal State) :=
  match arg.toList with
  | '-' :: '-' :: text => some (s.takeLong text)
  | '-' :: letter :: rest => some (s.takeShort letter rest)
  | _ => none

def task? (s : State) : Verb → Option Task
  | .ports => some .ports
  | .handshake => some .handshake
  | .calibrate => some .calibrate
  | .calibrations => some .calibrations
  | .angle => do pure (.angle (← s.channel) (← s.angle))
  | .relay => s.power.map .relay
  | .current => some .current
  | .voltage => some .voltage
  | .sensor => s.sensor.map .sensor
  | .heartbeat => some .heartbeat
  | .emulate => some .emulate
  | .selftest => some .selftest

end State

def afterName (verb : Verb) (trailing : Bool) (left : List Operand) :
    List String → State → Except Refusal Invocation
  | [], s => do
    let s ← s.settle
    match s.task? verb with
    | some task => .ok { task, overrides := s.overrides }
    | none => .error .missingRequired
  | arg :: rest, s =>
    let place (_ : Unit) : Except Refusal Invocation :=
      match left with
      | [] => .error .unknownArgument
      | kind :: left => do
        let s ← s.settle
        afterName verb trailing left rest { s with pending := .operand kind arg }
    if trailing then place ()
    else if arg = "--" then afterName verb true left rest s
    else
      match s.takeOption? arg, s.pending with
      | some taken, _ => do afterName verb false left rest (← taken)
      | none, .awaiting switch =>
        afterName verb false left rest { s with pending := .option switch arg }
      | none, _ => place ()

def helpName : String := "help"

def isName (text : String) : Bool := text == helpName || (Verb.ofName? text).isSome

def help : List String → Refusal
  | [] => .displayHelp
  | [name] => if isName name then .displayHelp else .invalidSubcommand
  | _ => .invalidSubcommand

def beforeName (trailing : Bool) : List String → State → Except Refusal Invocation
  | [], s => do
    let s ← s.settle
    .error (if s.overrides.isEmpty then .helpOnMissing else .missingSubcommand)
  | arg :: rest, s =>
    if trailing then .error (if isName arg then .unknownArgument else .invalidSubcommand)
    else
      match s.pending, s.takeOption? arg with
      | .awaiting switch, none => beforeName false rest { s with pending := .option switch arg }
      | _, option =>
        if arg = "--" then beforeName true rest s
        else
          match option, Verb.ofName? arg with
          | some taken, _ => do beforeName false rest (← taken)
          | none, some verb => do
            let later ← afterName verb false (operands verb) rest {}
            let s ← s.settle
            .ok { later with overrides := s.overrides.followedBy later.overrides }
          | none, none =>
            .error (if arg = helpName then help rest else .invalidSubcommand)

def parse (args : List String) : Except Refusal Invocation := beforeName false args {}

end LegLink.CommandLine
