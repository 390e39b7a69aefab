import LegLink.Digits
import LegLink.Transport

set_option autoImplicit false

namespace LegLink.Line

structure Fault where
  code : Nat
deriving DecidableEq

namespace Fault

def describe (f : Fault) : String := s!"LineError({f.code})"
def write : Fault := ⟨1⟩
def opening : Fault := ⟨2⟩
def closing : Fault := ⟨3⟩

end Fault

inductive Item where
  | byte (value : UInt8)
  | silence
  | fault (f : Fault)
deriving DecidableEq

def Item.ofWord? (word : String) : Option Item :=
  match word.toList with
  | ['T'] => some .silence
  | 'E' :: digits => (Decimal.nat? digits).map fun n => .fault ⟨n⟩
  | _ => none

structure Script where
  byteTimeout : Duration
  items : List Item := []
  written : Bytes := []
  -- How many more writes succeed; none means all.
  writesLeft : Option Nat := none
  failsOpening : Bool := false
  failsClosing : Bool := false
  isOpen : Bool := false
  reads : Nat := 0
  timeouts : Nat := 0
  lastTimeout : Option Duration := none
  -- Cleared by the first read that finds the queue empty.
  fresh : Bool := true

namespace Script

def openLine (s : Script) : Except Fault Unit × Script :=
  if s.failsOpening then (.error .opening, s) else (.ok (), { s with isOpen := true })

def closeLine (s : Script) : Except Fault Unit × Script :=
  if s.failsClosing then (.error .closing, s) else (.ok (), { s with isOpen := false })

def write (data : Bytes) (s : Script) : Except Fault Unit × Script :=
  match s.writesLeft with
  | some 0 => (.error .write, s)
  | some (n + 1) => (.ok (), { s with written := s.written ++ data, writesLeft := some n })
  | none => (.ok (), { s with written := s.written ++ data })

def readByte (timeout : Duration) (s : Script) : Except (ReadError Fault) UInt8 × Script :=
  let s := { s with reads := s.reads + 1, lastTimeout := some timeout }
  match s.items with
  | [] => (.error .timeout, { s with timeouts := s.timeouts + 1, fresh := false })
  | .silence :: items => (.error .timeout, { s with items, timeouts := s.timeouts + 1 })
  | .fault f :: items => (.error (.io f), { s with items })
  | .byte b :: items => (.ok b, { s with items })

theorem pending_read_byte (timeout : Duration) (s s' : Script) (byte : UInt8)
    (taken : readByte timeout s = (.ok byte, s')) : s'.items.length < s.items.length := by
  rcases s with ⟨_, items⟩
  cases items with
  | nil => simp [readByte] at taken
  | cons item items =>
    cases item <;> simp [readByte] at taken
    rw [← taken.2]
    simp

instance : Transport Script Fault where
  openLine := openLine
  closeLine := closeLine
  write := write
  readByte := readByte
  byteTimeout := Script.byteTimeout
  pending s := s.items.length
  pending_read_byte := pending_read_byte

def feed (s : Script) (items : List Item) : Script := { s with items := s.items ++ items }

end Script
end LegLink.Line
