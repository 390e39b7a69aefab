import LegLink.Request

set_option autoImplicit false

namespace LegLink

structure Hello where
  version : UInt8
  capabilities : UInt8
deriving DecidableEq

structure HelloAck where
  version : UInt8
  status : UInt8
  deviceId : UInt8
deriving DecidableEq

namespace Hello

def packet (h : Hello) (seq : UInt16) : Packet :=
  ⟨seq, Command.hello.code, ⟨[h.version, h.capabilities], by simp [maxPayload]⟩⟩

def ofBytes? : Bytes → Option Hello
  | version :: capabilities :: _ => some ⟨version, capabilities⟩
  | _ => none

end Hello

namespace HelloAck

def packet (a : HelloAck) (seq : UInt16) : Packet :=
  ⟨seq, Command.ack.code, ⟨[a.version, a.status, a.deviceId], by simp [maxPayload]⟩⟩

def ofBytes? : Bytes → Option HelloAck
  | version :: status :: deviceId :: _ => some ⟨version, status, deviceId⟩
  | _ => none

end HelloAck

namespace Handshake

inductive Answer where
  | ack (body : HelloAck)
  | nack (error : UInt8)
deriving DecidableEq

namespace Answer

def packet (seq : UInt16) : Answer → Packet
  | ack body => body.packet seq
  | nack error => Reply.nack seq error

def isAck : Answer → Bool
  | ack _ => true
  | nack _ => false

end Answer

def respond (payload : Bytes) (version deviceId : UInt8) : Answer :=
  match Hello.ofBytes? payload with
  | some hello =>
    if hello.version = version then .ack ⟨version, statusOk, deviceId⟩
    else .nack errorVersionMismatch
  | none => .nack errorTimeout

inductive Rejection where
  | nack (code : UInt8)
  | malformedNack
  | malformedAck
  | versionMismatch (expected actual : UInt8)
  | status (status : UInt8)
  | unexpectedCommand (code : UInt8)
deriving DecidableEq

inductive Outcome where
  | accepted (ack : HelloAck)
  | rejected (reason : Rejection)
  | timedOut
deriving DecidableEq

def classify (expected : UInt8) : Option Packet → Outcome
  | none => .timedOut
  | some p =>
    if p.cmd = Command.nack.code then
      match p.payload.bytes with
      | code :: _ => .rejected (.nack code)
      | [] => .rejected .malformedNack
    else if p.cmd = Command.ack.code then
      match HelloAck.ofBytes? p.payload.bytes with
      | none => .rejected .malformedAck
      | some ack =>
        if ack.version ≠ expected then .rejected (.versionMismatch expected ack.version)
        else if ack.status ≠ statusOk then .rejected (.status ack.status)
        else .accepted ack
    else .rejected (.unexpectedCommand p.cmd)

namespace Rejection

def name : Rejection → String
  | nack _ => "Nack"
  | malformedNack => "MalformedNack"
  | malformedAck => "MalformedAck"
  | versionMismatch _ _ => "VersionMismatch"
  | status _ => "Status"
  | unexpectedCommand _ => "UnexpectedCommand"

def describe (r : Rejection) : String :=
  match r with
  | malformedNack | malformedAck => r.name
  | nack byte | status byte | unexpectedCommand byte => s!"{r.name}({byte})"
  | versionMismatch expected actual =>
    s!"{r.name} \x7b expected: {expected}, actual: {actual} \x7d"

end Rejection

namespace Outcome

def name : Outcome → String
  | accepted _ => "Accepted"
  | rejected _ => "Rejected"
  | timedOut => "TimedOut"

def isAccepted : Outcome → Bool
  | accepted _ => true
  | _ => false

def describe : Outcome → String
  | accepted ack =>
    s!"Accepted(HelloAck \x7b version: {ack.version}, status: {ack.status}, device_id: {ack.deviceId} \x7d)"
  | rejected reason => s!"Rejected({reason.describe})"
  | timedOut => "TimedOut"

end Outcome

inductive Event where
  | helloSent
  | ackReceived (ack : HelloAck)
  | rejected (reason : Rejection)
  | replyTimeout
  | retry
deriving DecidableEq

def Outcome.event : Outcome → Event
  | accepted ack => .ackReceived ack
  | rejected reason => .rejected reason
  | timedOut => .replyTimeout

inductive State where
  | idle
  | awaitingResponse
  | accepted (ack : HelloAck)
  | rejected (reason : Rejection)
  | timedOut
deriving DecidableEq

namespace State

def name : State → String
  | idle => "Idle"
  | awaitingResponse => "AwaitingResponse"
  | accepted _ => "Accepted"
  | rejected _ => "Rejected"
  | timedOut => "TimedOut"

def isTerminal : State → Bool
  | accepted _ | rejected _ | timedOut => true
  | idle | awaitingResponse => false

def isAccepted : State → Bool
  | accepted _ => true
  | _ => false

def device? : State → Option HelloAck
  | accepted ack => some ack
  | _ => none

def next : State → Event → State
  | idle, .helloSent => awaitingResponse
  | awaitingResponse, .ackReceived ack => accepted ack
  | awaitingResponse, .rejected reason => rejected reason
  | awaitingResponse, .replyTimeout => timedOut
  | accepted _, .retry | rejected _, .retry | timedOut, .retry => idle
  | state, _ => state

end State

inductive Gate where
  | closed
  | opened
deriving DecidableEq, Inhabited

namespace Gate

def isOpen : Gate → Bool
  | closed => false
  | opened => true

end Gate
end Handshake
end LegLink
