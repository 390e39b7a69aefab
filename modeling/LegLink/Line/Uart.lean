import LegLink.Transport

set_option autoImplicit false

namespace LegLink

class Clock (κ : Type) where
  now : κ → UInt64 × κ

namespace Clock

variable {κ : Type} [Clock κ]

def elapsed (since : UInt64) (clock : κ) : UInt64 × κ :=
  let (time, clock) := now clock
  (if since ≤ time then time - since else 0, clock)

end Clock

structure ScriptedClock where
  readings : List UInt64
  step : UInt64
  last : UInt64 := 0
  calls : Nat := 0

namespace ScriptedClock

def advance (c : ScriptedClock) : UInt64 :=
  UInt64.ofNat (min (c.last.toNat + c.step.toNat) (UInt64.size - 1))

def now (c : ScriptedClock) : UInt64 × ScriptedClock :=
  match c.readings with
  | time :: readings => (time, { c with readings, last := time, calls := c.calls + 1 })
  | [] => (c.advance, { c with last := c.advance, calls := c.calls + 1 })

instance : Clock ScriptedClock where
  now := now

end ScriptedClock

class IoPort (ι : Type) (ε : outParam Type) where
  readReady : ι → Except ε Bool × ι
  readSome : Nat → ι → Except ε Bytes × ι
  writeSome : Bytes → ι → Except ε Nat × ι
  flush : ι → Except ε Unit × ι

class Uart (υ : Type) (ε : outParam Type) where
  write : Bytes → υ → Except ε Unit × υ
  flush : υ → Except ε Unit × υ
  takeByte : υ → Except ε (Option UInt8) × υ

class FiniteUart (υ : Type) (ε : outParam Type) extends Uart υ ε where
  arrivals : υ → Nat
  arrivals_take_byte (uart uart' : υ) (byte : UInt8) :
    takeByte uart = (.ok (some byte), uart') → arrivals uart' < arrivals uart
  arrivals_nothing (uart uart' : υ) :
    takeByte uart = (.ok none, uart') → arrivals uart' ≤ arrivals uart

inductive PortError (ε : Type) where
  | fault (e : ε)
  | stalled
deriving DecidableEq

namespace IoPort

variable {ι ε : Type} [IoPort ι ε]

def writeAll (data : Bytes) (port : ι) : Except (PortError ε) Unit × ι :=
  match data with
  | [] => (.ok (), port)
  | byte :: rest =>
    match writeSome (byte :: rest) port with
    | (.error e, port) => (.error (.fault e), port)
    | (.ok 0, port) => (.error .stalled, port)
    | (.ok (taken + 1), port) => writeAll (rest.drop taken) port
termination_by data.length
decreasing_by
  simp only [List.length_drop, List.length_cons]
  omega

def flushAll (port : ι) : Except (PortError ε) Unit × ι :=
  match flush port with
  | (.error e, port) => (.error (.fault e), port)
  | (.ok (), port) => (.ok (), port)

def takeByte (port : ι) : Except (PortError ε) (Option UInt8) × ι :=
  match readReady port with
  | (.error e, port) => (.error (.fault e), port)
  | (.ok false, port) => (.ok none, port)
  | (.ok true, port) =>
    match readSome 1 port with
    | (.error e, port) => (.error (.fault e), port)
    | (.ok data, port) => (.ok data.head?, port)

end IoPort

structure UartConfig where
  byteTimeout : Duration := .ofMillis 10
  maxWait : Duration := .ofMillis 100
deriving DecidableEq

structure UartLine (υ κ : Type) where
  uart : υ
  clock : κ
  config : UartConfig := {}

namespace UartLine

variable {υ κ ε : Type} [Uart υ ε] [Clock κ]

def limit (timeout : Duration) (line : UartLine υ κ) : UInt64 :=
  UInt64.ofNat (min (timeout.min line.config.maxWait).wholeMicros (UInt64.size - 1))

-- Polls and looks at the clock in turn, and polls once at least. It has no result if neither ever
-- settles it.
def await (start limit : UInt64) (line : UartLine υ κ) :
    Option (Except (ReadError ε) UInt8 × UartLine υ κ) :=
  match Uart.takeByte line.uart with
  | (.error e, uart) => some (.error (.io e), { line with uart })
  | (.ok (some byte), uart) => some (.ok byte, { line with uart })
  | (.ok none, uart) =>
    let (passed, clock) := Clock.elapsed start line.clock
    if limit ≤ passed then some (.error .timeout, { line with uart, clock })
    else { line with uart, clock } |>.await start limit
partial_fixpoint

def readByte? (timeout : Duration) (line : UartLine υ κ) :
    Option (Except (ReadError ε) UInt8 × UartLine υ κ) :=
  let (start, clock) := Clock.now line.clock
  await start (line.limit timeout) { line with clock }

-- A wait that never ends has no result either; it stands here as a timeout.
def readByte (timeout : Duration) (line : UartLine υ κ) :
    Except (ReadError ε) UInt8 × UartLine υ κ :=
  (line.readByte? timeout).getD (.error .timeout, line)

def write (data : Bytes) (line : UartLine υ κ) : Except ε Unit × UartLine υ κ :=
  match Uart.write data line.uart with
  | (.error e, uart) => (.error e, { line with uart })
  | (.ok (), uart) =>
    let (result, uart) := Uart.flush uart
    (result, { line with uart })

section Finite

variable {υ κ ε : Type} [FiniteUart υ ε] [Clock κ]

-- By induction on the polls that were made before the byte was there.
theorem arrivals_await (start limit : UInt64) (line line' : UartLine υ κ) (byte : UInt8)
    (taken : await start limit line = some (.ok byte, line')) :
    FiniteUart.arrivals line'.uart < FiniteUart.arrivals line.uart := by
  refine await.partial_correctness start limit
    (fun line outcome => outcome.1 = .ok byte →
      FiniteUart.arrivals outcome.2.uart < FiniteUart.arrivals line.uart)
    ?_ line (.ok byte, line') taken rfl
  intro again ih line outcome settled found
  split at settled
  · cases settled
    cases found
  · rename_i value uart polled
    cases settled
    cases found
    exact FiniteUart.arrivals_take_byte _ _ _ polled
  · rename_i uart polled
    have kept := FiniteUart.arrivals_nothing _ _ polled
    dsimp only at settled
    split at settled
    · cases settled
      cases found
    · exact Nat.lt_of_lt_of_le (ih _ outcome settled found) kept

theorem arrivals_read_byte (timeout : Duration) (line line' : UartLine υ κ) (byte : UInt8)
    (taken : readByte timeout line = (.ok byte, line')) :
    FiniteUart.arrivals line'.uart < FiniteUart.arrivals line.uart := by
  rcases settled : line.readByte? timeout with - | outcome
  · rw [readByte, settled] at taken
    cases taken
  · rw [readByte, settled] at taken
    cases taken
    let started : UartLine υ κ := { line with clock := (Clock.now line.clock).2 }
    exact arrivals_await (Clock.now line.clock).1 (line.limit timeout) started _ byte settled

instance : Transport (UartLine υ κ) ε where
  openLine line := (.ok (), line)
  closeLine line := (.ok (), line)
  write := write
  readByte := readByte
  byteTimeout line := line.config.byteTimeout
  pending line := FiniteUart.arrivals line.uart
  pending_read_byte := arrivals_read_byte

end Finite
end UartLine

inductive PortItem where
  | byte (value : UInt8)
  | notReady
  | readyButEmpty
  | readyFails
  | readFails
deriving DecidableEq

def PortItem.ofWord? : String → Option PortItem
  | "-" => some .notReady
  | "empty" => some .readyButEmpty
  | "ready_fails" => some .readyFails
  | "read_fails" => some .readFails
  | _ => none

structure PortFault where
deriving DecidableEq

structure ScriptedPort where
  items : List PortItem := []
  chunk : Option Nat := none
  failWriteAt : Option Nat := none
  failFlush : Bool := false
  written : Bytes := []
  writes : Nat := 0
  flushes : Nat := 0
  polls : Nat := 0

namespace ScriptedPort

def readReady (p : ScriptedPort) : Except PortFault Bool × ScriptedPort :=
  let p := { p with polls := p.polls + 1 }
  match p.items with
  | [] => (.ok false, p)
  | .notReady :: items => (.ok false, { p with items })
  | .readyFails :: items => (.error {}, { p with items })
  | .byte _ :: _ | .readyButEmpty :: _ | .readFails :: _ => (.ok true, p)

def readSome (_size : Nat) (p : ScriptedPort) : Except PortFault Bytes × ScriptedPort :=
  match p.items with
  | .byte b :: items => (.ok [b], { p with items })
  | .readFails :: items => (.error {}, { p with items })
  | .readyButEmpty :: items => (.ok [], { p with items })
  | _ => (.ok [], p)

def writeSome (data : Bytes) (p : ScriptedPort) : Except PortFault Nat × ScriptedPort :=
  if p.failWriteAt.any (· ≤ p.writes) then (.error {}, p)
  else
    let taken := min data.length (p.chunk.getD data.length)
    (.ok taken, { p with written := p.written ++ data.take taken, writes := p.writes + 1 })

def flush (p : ScriptedPort) : Except PortFault Unit × ScriptedPort :=
  if p.failFlush then (.error {}, p) else (.ok (), { p with flushes := p.flushes + 1 })

instance : IoPort ScriptedPort PortFault where
  readReady := readReady
  readSome := readSome
  writeSome := writeSome
  flush := flush

theorem items_take_byte (p p' : ScriptedPort) (byte : UInt8)
    (taken : IoPort.takeByte p = (.ok (some byte), p')) : p'.items.length < p.items.length := by
  rcases p with ⟨items⟩
  cases items with
  | nil => simp [IoPort.takeByte, IoPort.readReady, readReady] at taken
  | cons item items =>
    cases item <;>
      simp [IoPort.takeByte, IoPort.readReady, readReady, IoPort.readSome, readSome] at taken
    rw [← taken.2]
    simp

theorem items_nothing (p p' : ScriptedPort)
    (taken : IoPort.takeByte p = (.ok none, p')) : p'.items.length ≤ p.items.length := by
  rcases p with ⟨items⟩
  cases items with
  | nil =>
    simp [IoPort.takeByte, IoPort.readReady, readReady] at taken
    subst taken
    exact Nat.le_refl _
  | cons item items =>
    cases item <;>
      simp [IoPort.takeByte, IoPort.readReady, readReady, IoPort.readSome, readSome] at taken
    all_goals
      rw [← taken]
      simp

instance : FiniteUart ScriptedPort (PortError PortFault) where
  write := IoPort.writeAll
  flush := IoPort.flushAll
  takeByte := IoPort.takeByte
  arrivals p := p.items.length
  arrivals_take_byte := items_take_byte
  arrivals_nothing := items_nothing

end ScriptedPort
end LegLink
