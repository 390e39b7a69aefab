import LegLink.Scalar

set_option autoImplicit false

namespace LegLink

structure Duration where
  nanos : Nat
deriving DecidableEq, Inhabited

namespace Duration

def ofMicros (n : Nat) : Duration := ⟨n * 1000⟩
def ofMillis (n : Nat) : Duration := ⟨n * 1000000⟩
def ofSeconds? (seconds nanos : Nat) : Option Duration :=
  if seconds + nanos / 1000000000 < UInt64.size then some ⟨seconds * 1000000000 + nanos⟩ else none

def wholeMicros (d : Duration) : Nat := d.nanos / 1000

def min (a b : Duration) : Duration := if a.nanos ≤ b.nanos then a else b

end Duration

inductive ReadError (ε : Type) where
  | timeout
  | io (error : ε)
deriving DecidableEq

-- A read waits for one byte and gives up after a timeout. The law `pending_read_byte` is an
-- assumption on the line: it delivers finitely many bytes between two failed reads, so that waiting
-- for a packet ends.
class Transport (σ : Type) (ε : outParam Type) where
  openLine : σ → Except ε Unit × σ
  closeLine : σ → Except ε Unit × σ
  write : Bytes → σ → Except ε Unit × σ
  readByte : Duration → σ → Except (ReadError ε) UInt8 × σ
  byteTimeout : σ → Duration
  pending : σ → Nat
  pending_read_byte (timeout : Duration) (line line' : σ) (byte : UInt8) :
    readByte timeout line = (.ok byte, line') → pending line' < pending line

namespace Transport

variable {σ ε : Type} [Transport σ ε]

def send (value : Scalar) (line : σ) : Except ε Unit × σ := write value.bytes line

def readBytes (timeout : Duration) : Nat → σ → Except (ReadError ε) Bytes × σ
  | 0, line => (.ok [], line)
  | n + 1, line =>
    match readByte timeout line with
    | (.error e, line) => (.error e, line)
    | (.ok byte, line) =>
      match readBytes timeout n line with
      | (.error e, line) => (.error e, line)
      | (.ok rest, line) => (.ok (byte :: rest), line)

def receive (kind : Scalar.Kind) (line : σ) : Except (ReadError ε) Scalar × σ :=
  match readBytes (byteTimeout line) kind.size line with
  | (.error e, line) => (.error e, line)
  | (.ok data, line) => (.ok (kind.ofBytes data), line)

end Transport
end LegLink
