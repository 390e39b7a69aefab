import LegLink.Controller

set_option autoImplicit false

namespace LegLink

inductive Failure where
  | config (reason : String)
  | calibration (reason : String)
  | serial (reason : String)
  | noPort
  | handshakeFailed (reason : String)
  | device (reason : String)
  | emulator (reason : String)
  | io (reason : String)
deriving DecidableEq

namespace Failure

def kind : Failure → String
  | config _ => "Config"
  | calibration _ => "Calibration"
  | serial _ => "Serial"
  | noPort => "NoPort"
  | handshakeFailed _ => "HandshakeFailed"
  | device _ => "Device"
  | emulator _ => "Emulator"
  | io _ => "Io"

def message : Failure → String
  | config reason => "configuration error: " ++ reason
  | calibration reason => "invalid calibration: " ++ reason
  | serial reason => "serial port error: " ++ reason
  | noPort => "no serial port found"
  | handshakeFailed reason => "handshake failed: " ++ reason
  | device reason => "device error: " ++ reason
  | emulator reason => "emulated device stopped: " ++ reason
  | io reason => "I/O error: " ++ reason

def causes : Failure → List String
  | serial reason | io reason => [reason]
  | _ => []

def ofController {ε : Type} (describe : ε → String) (e : ControllerError ε) : Failure :=
  match e with
  | .handshakeFailed _ _ => .handshakeFailed (e.message describe)
  | _ => .device (e.message describe)

end Failure

structure Trouble where
  message : String
  causes : List String := []
deriving DecidableEq

namespace Trouble

def ofFailure (f : Failure) : Trouble := ⟨f.message, f.causes⟩

def during (doing : String) (t : Trouble) : Trouble := ⟨doing, t.message :: t.causes⟩

def indent (first margin text : String) : String :=
  "\n" ++ first ++ ("\n" ++ margin).intercalate (text.splitOn "\n")

def numbered (n : Nat) (text : String) : String :=
  let number := toString n
  let room := String.ofList (List.replicate (5 - number.length) ' ')
  indent (room ++ number ++ ": ") "       " text

def renderCauses : List String → String
  | [] => ""
  | [cause] => "\n\nCaused by:" ++ indent "    " "    " cause
  | causes => "\n\nCaused by:" ++ String.join (causes.zipIdx.map fun (text, n) => numbered n text)

def render (t : Trouble) : String := "Error: " ++ t.message ++ renderCauses t.causes ++ "\n"

end Trouble
end LegLink
