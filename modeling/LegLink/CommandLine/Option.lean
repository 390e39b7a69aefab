import LegLink.CommandLine.Refusal
import LegLink.Digits
import LegLink.Settings

set_option autoImplicit false

namespace LegLink.CommandLine

inductive Switch where
  | config
  | logLevel
  | port
  | baud
  | help
  | version
deriving DecidableEq

namespace Switch

def ofLong? : String → Option Switch
  | "config" => some config
  | "log-level" => some logLevel
  | "port" => some port
  | "baud" => some baud
  | "help" => some help
  | "version" => some version
  | _ => none

def ofShort? : Char → Option Switch
  | 'c' => some config
  | 'l' => some logLevel
  | 'p' => some port
  | 'b' => some baud
  | 'h' => some help
  | 'V' => some version
  | _ => none

def request? : Switch → Option Refusal
  | help => some .displayHelp
  | version => some .displayVersion
  | config | logLevel | port | baud => none

end Switch

structure Overrides where
  config : Option String := none
  logLevel : Option String := none
  port : Option String := none
  baud : Option UInt32 := none
deriving DecidableEq

namespace Overrides

def isEmpty (o : Overrides) : Bool := o == {}

def number (limit : Nat) (text : String) : Except Refusal Nat :=
  match Decimal.int? text.toList with
  | some (.ofNat n) => if n < limit then .ok n else .error .valueValidation
  | _ => .error .valueValidation

def set (o : Overrides) (switch : Switch) (value : String) : Except Refusal Overrides :=
  match switch with
  | .config =>
    if o.config.isSome then .error .argumentConflict
    else if value.isEmpty then .error .invalidValue
    else .ok { o with config := some value }
  | .logLevel =>
    if o.logLevel.isSome then .error .argumentConflict
    else .ok { o with logLevel := some value }
  | .port =>
    if o.port.isSome then .error .argumentConflict else .ok { o with port := some value }
  | .baud =>
    if o.baud.isSome then .error .argumentConflict
    else (number UInt32.size value).map fun n => { o with baud := some (UInt32.ofNat n) }
  | .help | .version => .error .tooManyValues

-- The options behind the task's name win; on either side of it each may be given once.
def followedBy (o later : Overrides) : Overrides where
  config := later.config <|> o.config
  logLevel := later.logLevel <|> o.logLevel
  port := later.port <|> o.port
  baud := later.baud <|> o.baud

def apply (o : Overrides) (s : Settings) : Settings :=
  { s with
    level := o.logLevel.getD s.level
    serial := { s.serial with
      port := o.port <|> s.serial.port
      baudRate := o.baud.getD s.serial.baudRate } }

end Overrides
end LegLink.CommandLine
