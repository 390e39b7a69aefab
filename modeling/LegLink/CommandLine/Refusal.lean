set_option autoImplicit false

namespace LegLink.CommandLine

inductive Refusal where
  | displayHelp
  | displayVersion
  | helpOnMissing
  | missingSubcommand
  | invalidSubcommand
  | unknownArgument
  | missingRequired
  | invalidValue
  | valueValidation
  | tooManyValues
  | argumentConflict
deriving DecidableEq

def version : String := "leglink 0.1.0"

def usageLines : List String := [
  "Talks to the hexapod leg controller over its framed serial link.",
  "",
  "Usage: leglink [OPTIONS] <COMMAND>",
  "",
  "Commands:",
  "  ports                    List serial ports",
  "  handshake                Handshake with the device and report its identity",
  "  calibrate                Send the configured calibration table",
  "  calibrations             Read back the device's calibration table",
  "  angle <CHANNEL> <ANGLE>  Move one servo, given by number or as in R31",
  "  relay <on|off>           Switch the servo power relay",
  "  current                  Read the servo rail current",
  "  voltage                  Read the servo rail voltage",
  "  sensor <CHANNEL>         Read one analog sensor header",
  "  heartbeat                Check that the device is answering",
  "  emulate                  Run a virtual device on the serial port",
  "  selftest                 Run host and virtual device against each other",
  "  help                     Print this message",
  "",
  "Options:",
  "  -c, --config <CONFIG>        Configuration file, instead of hexapod.toml",
  "  -l, --log-level <LOG_LEVEL>  Log level",
  "  -p, --port <PORT>            Serial port",
  "  -b, --baud <BAUD>            Baud rate",
  "  -h, --help                   Print help",
  "  -V, --version                Print version"]

def usage : String := String.join (usageLines.map (· ++ "\n"))

namespace Refusal

def name : Refusal → String
  | displayHelp => "DisplayHelp"
  | displayVersion => "DisplayVersion"
  | helpOnMissing => "DisplayHelpOnMissingArgumentOrSubcommand"
  | missingSubcommand => "MissingSubcommand"
  | invalidSubcommand => "InvalidSubcommand"
  | unknownArgument => "UnknownArgument"
  | missingRequired => "MissingRequiredArgument"
  | invalidValue => "InvalidValue"
  | valueValidation => "ValueValidation"
  | tooManyValues => "TooManyValues"
  | argumentConflict => "ArgumentConflict"

def exitCode : Refusal → Nat
  | displayHelp | displayVersion => 0
  | _ => 2

def message : Refusal → String
  | displayHelp | helpOnMissing => usage
  | displayVersion => version ++ "\n"
  | missingSubcommand => "error: a command is missing\n"
  | invalidSubcommand => "error: there is no such command\n"
  | unknownArgument => "error: an argument was not expected\n"
  | missingRequired => "error: an argument is missing\n"
  | invalidValue => "error: a value is missing or not one of those there are\n"
  | valueValidation => "error: a value can not be read\n"
  | tooManyValues => "error: a value was not expected\n"
  | argumentConflict => "error: an option is given more than once\n"

end Refusal
end LegLink.CommandLine
