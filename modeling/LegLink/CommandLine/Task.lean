import LegLink.Digits
import LegLink.Joint

set_option autoImplicit false

namespace LegLink

inductive Task where
  | ports
  | handshake
  | calibrate
  | calibrations
  | angle (channel : Channel) (angle : UInt16)
  | relay (on : Bool)
  | current
  | voltage
  | sensor (channel : UInt8)
  | heartbeat
  | emulate
  | selftest
deriving DecidableEq

inductive Verb where
  | ports
  | handshake
  | calibrate
  | calibrations
  | angle
  | relay
  | current
  | voltage
  | sensor
  | heartbeat
  | emulate
  | selftest
deriving DecidableEq

namespace Verb

def all : List Verb :=
  [ports, handshake, calibrate, calibrations, angle, relay, current, voltage, sensor, heartbeat,
    emulate, selftest]

def name : Verb → String
  | ports => "ports"
  | handshake => "handshake"
  | calibrate => "calibrate"
  | calibrations => "calibrations"
  | angle => "angle"
  | relay => "relay"
  | current => "current"
  | voltage => "voltage"
  | sensor => "sensor"
  | heartbeat => "heartbeat"
  | emulate => "emulate"
  | selftest => "selftest"

def ofName? (text : String) : Option Verb := all.find? fun v => v.name == text

end Verb

def Task.verb : Task → Verb
  | ports => .ports
  | handshake => .handshake
  | calibrate => .calibrate
  | calibrations => .calibrations
  | angle _ _ => .angle
  | relay _ => .relay
  | current => .current
  | voltage => .voltage
  | sensor _ => .sensor
  | heartbeat => .heartbeat
  | emulate => .emulate
  | selftest => .selftest

inductive ChannelError where
  | none (index : UInt8)
  | neither (text : String) (error : JointError)
deriving DecidableEq

namespace ChannelError

def message : ChannelError → String
  | none index => s!"no servo channel {index}"
  | neither text error =>
    "\"" ++ text ++ "\" is neither a channel number nor a joint name: " ++ error.message

end ChannelError

namespace Channel

-- A number that a byte can hold is a channel; any other text is the name of a joint.
def parse (text : String) : Except ChannelError Channel :=
  match (Decimal.unsigned? text.toList).filter (· < UInt8.size) with
  | some n =>
    match ofIndex? (UInt8.ofNat n) with
    | some c => .ok c
    | none => .error (.none (UInt8.ofNat n))
  | none =>
    match Joint.ofName text with
    | .ok joint => .ok joint.channel
    | .error e => .error (.neither text e)

end Channel
end LegLink
