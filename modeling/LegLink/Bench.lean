import LegLink.Controller
import LegLink.Device
import LegLink.Hardware.Analog
import LegLink.Hardware.Relay
import LegLink.Hardware.Servos

set_option autoImplicit false

namespace LegLink

structure SimulatedInputs where
  levels : Vector UInt16 8
  address : UInt8 := 0

namespace SimulatedInputs

-- The six sensor headers, the rail voltage and the rail current.
def defaultLevels : Vector UInt16 8 := #v[0, 410, 819, 1229, 1638, 2048, 2577, 134]

def ofList (given : List UInt16) : SimulatedInputs where
  levels := Vector.ofFn fun i : Fin 8 => given[i.val]?.getD (defaultLevels.get i)

def level (s : SimulatedInputs) : UInt16 :=
  s.levels.get ⟨s.address.toNat % 8, Nat.mod_lt _ (by decide)⟩

instance : AnalogFrontEnd SimulatedInputs where
  select address s := { s with address }
  settle _ s := s
  convert s := (some s.level, s)
  fullScale _ := 4096

end SimulatedInputs

namespace Emulator

abbrev EmulatedServos := Servos IdealPulse
abbrev EmulatedSensors := MuxedSensors SimulatedInputs
abbrev EmulatedRelay := PinRelay (TrackedPin FreePin)
abbrev EmulatedDevice (σ : Type) := Device σ EmulatedServos EmulatedSensors EmulatedRelay

def build {σ : Type} (line : σ) (config : DeviceConfig) : EmulatedDevice σ where
  link := { line }
  servos := Servos.ofTable (Vector.replicate servoCount {}) CalibrationTable.factory
  sensors := { frontEnd := { levels := SimulatedInputs.defaultLevels } }
  relay := PinRelay.ofPin (TrackedPin.ofPin {}) false
  config := config

end Emulator

namespace Line

structure Queue where
  inbox : Bytes := []
  outbox : Bytes := []

namespace Queue

def readByte (_timeout : Duration) (q : Queue) : Except (ReadError Empty) UInt8 × Queue :=
  match q.inbox with
  | [] => (.error .timeout, q)
  | byte :: inbox => (.ok byte, { q with inbox })

theorem pending_read_byte (timeout : Duration) (q q' : Queue) (byte : UInt8)
    (taken : readByte timeout q = (.ok byte, q')) : q'.inbox.length < q.inbox.length := by
  rcases q with ⟨inbox, outbox⟩
  cases inbox with
  | nil => simp [readByte] at taken
  | cons first inbox =>
    simp [readByte] at taken
    rw [← taken.2]
    simp

instance : Transport Queue Empty where
  openLine q := (.ok (), q)
  closeLine q := (.ok (), q)
  write data q := (.ok (), { q with outbox := q.outbox ++ data })
  readByte := readByte
  byteTimeout _ := ⟨0⟩
  pending q := q.inbox.length
  pending_read_byte := pending_read_byte

end Queue
end Line

inductive CableFault where
  | drop
  | double
  | xor (mask : UInt8)
  | insert (byte : UInt8)
deriving DecidableEq

structure Cable where
  faults : List (Nat × CableFault) := []
  sent : Nat := 0

namespace Cable

-- An added byte goes before the byte whose index it has.
def bend (copies : Bytes) : CableFault → Bytes
  | .drop => []
  | .double => copies ++ copies
  | .xor mask => copies.map (· ^^^ mask)
  | .insert _ => copies

def added : CableFault → Option UInt8
  | .insert byte => some byte
  | _ => none

def carryByte (c : Cable) (index : Nat) (byte : UInt8) : Bytes :=
  let here := (c.faults.filter fun f => f.1 == index).map Prod.snd
  here.filterMap added ++ here.foldl bend [byte]

def carry (c : Cable) (data : Bytes) : Bytes × Cable :=
  (((data.zipIdx c.sent).flatMap fun (byte, index) => c.carryByte index byte),
    { c with sent := c.sent + data.length })

end Cable

-- A host and an emulated device joined by two queues of bytes. The device runs when the host looks
-- for a byte and finds none, and goes on until it has nothing left to do.
structure Bench where
  device : Emulator.EmulatedDevice Line.Queue
  toDevice : Cable := {}
  fromDevice : Cable := {}
  toHost : Bytes := []
  stale : Bool := true
  dispatched : List Dispatch := []

namespace Bench

def ofConfig (config : DeviceConfig) : Bench := { device := Emulator.build {} config }

def atDevice (b : Bench) : Bytes := b.device.link.line.inbox

def enterDevice (data : Bytes) (b : Bench) : Bench :=
  { b with device.link.line.inbox := b.atDevice ++ data, stale := true }

def write (data : Bytes) (b : Bench) : Except Empty Unit × Bench :=
  let (arriving, toDevice) := b.toDevice.carry data
  (.ok (), enterDevice arriving { b with toDevice })

-- Every packet takes at least one byte, so this many polls find the device idle.
def pollBudget (b : Bench) : Nat := b.atDevice.length + b.device.link.rx.length + 1

def dispatches (results : List (Except Empty Dispatch)) : List Dispatch :=
  results.filterMap fun
    | .ok dispatch => some dispatch
    | .error e => nomatch e

def settle (b : Bench) : Bench :=
  let (results, device) := b.device.drain b.pollBudget
  let (arriving, fromDevice) := b.fromDevice.carry device.link.line.outbox
  { b with
    device := { device with link.line.outbox := [] }
    fromDevice
    toHost := b.toHost ++ arriving
    stale := false
    dispatched := b.dispatched ++ dispatches results }

def takeByte (b : Bench) : Except (ReadError Empty) UInt8 × Bench :=
  match b.toHost with
  | [] => (.error .timeout, b)
  | byte :: toHost => (.ok byte, { b with toHost })

def readByte (_timeout : Duration) (b : Bench) : Except (ReadError Empty) UInt8 × Bench :=
  if b.toHost.isEmpty ∧ b.stale then b.settle.takeByte else b.takeByte

def pending (b : Bench) : Nat :=
  b.toHost.length + if b.stale then b.settle.toHost.length else 0

theorem take_byte_to_host {b b' : Bench} {byte : UInt8} (taken : b.takeByte = (.ok byte, b')) :
    b' = { b with toHost := b'.toHost } ∧ b.toHost = byte :: b'.toHost := by
  unfold takeByte at taken
  split at taken
  · cases taken
  · rename_i first toHost waiting
    cases taken
    exact ⟨rfl, waiting⟩

theorem length_settle (b : Bench) :
    b.settle.toHost.length = b.toHost.length +
      (b.fromDevice.carry (b.device.drain b.pollBudget).2.link.line.outbox).1.length := by
  simp [settle]

theorem pending_read_byte (timeout : Duration) (b b' : Bench) (byte : UInt8)
    (taken : readByte timeout b = (.ok byte, b')) : b'.pending < b.pending := by
  unfold readByte at taken
  split at taken
  · rename_i asked
    obtain ⟨rest, waiting⟩ := take_byte_to_host taken
    have settled : b'.stale = false := by rw [rest]; rfl
    have shorter := congrArg List.length waiting
    simp only [List.length_cons] at shorter
    simp only [pending, settled, asked.2, if_true]
    simp
    omega
  · obtain ⟨rest, waiting⟩ := take_byte_to_host taken
    have shorter := congrArg List.length waiting
    simp only [List.length_cons] at shorter
    rw [rest]
    simp only [pending, length_settle, pollBudget, atDevice]
    split <;> omega

instance : Transport Bench Empty where
  openLine b := (.ok (), b)
  closeLine b := (.ok (), b)
  write := write
  readByte := readByte
  byteTimeout _ := ⟨0⟩
  pending := pending
  pending_read_byte := pending_read_byte

end Bench
end LegLink
