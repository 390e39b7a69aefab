import LegLink.Line.Uart

set_option autoImplicit false

namespace LegLink

structure PeerClosed where
deriving DecidableEq

def PeerClosed.message : String := "loopback peer closed"

structure LoopbackPort where
  queue : Bytes := []
  -- A byte that was found waiting but not read yet; it goes before the queue.
  held : Option UInt8 := none
  present : Bool := true
deriving DecidableEq

structure Loopback where
  near : LoopbackPort := {}
  far : LoopbackPort := {}
  byteTimeout : Duration

namespace Loopback

def turned (l : Loopback) : Loopback := { l with near := l.far, far := l.near }

def leave (l : Loopback) : Loopback := { l with near.present := false }

def write (data : Bytes) (l : Loopback) : Except PeerClosed Unit × Loopback :=
  if data.isEmpty ∨ l.far.present then (.ok (), { l with far.queue := l.far.queue ++ data })
  else (.error {}, l)

def readByte (_timeout : Duration) (l : Loopback) :
    Except (ReadError PeerClosed) UInt8 × Loopback :=
  match l.near.held, l.near.queue with
  | some byte, _ => (.ok byte, { l with near.held := none })
  | none, byte :: queue => (.ok byte, { l with near.queue := queue })
  | none, [] => (.error (if l.far.present then .timeout else .io {}), l)

def readReady (l : Loopback) : Except PeerClosed Bool × Loopback :=
  match l.near.held, l.near.queue with
  | some _, _ => (.ok true, l)
  | none, byte :: queue =>
    (.ok true, { l with near.held := some byte, near.queue := queue })
  | none, [] => (if l.far.present then .ok false else .error {}, l)

-- Gives nothing where a real port would block.
def readSome (size : Nat) (l : Loopback) : Except PeerClosed Bytes × Loopback :=
  match size, l.near.held, l.near.queue with
  | 0, _, _ => (.ok [], l)
  | n + 1, some byte, queue =>
    (.ok (byte :: queue.take n), { l with near.held := none, near.queue := queue.drop n })
  | n + 1, none, byte :: queue =>
    (.ok (byte :: queue.take n), { l with near.queue := queue.drop n })
  | _ + 1, none, [] => (if l.far.present then .ok [] else .error {}, l)

def writeSome (data : Bytes) (l : Loopback) : Except PeerClosed Nat × Loopback :=
  let (result, l) := l.write data
  (result.map fun _ => data.length, l)

def waiting (l : Loopback) : Bytes := l.near.held.toList ++ l.near.queue

theorem waiting_read_byte (timeout : Duration) (l l' : Loopback) (byte : UInt8)
    (taken : readByte timeout l = (.ok byte, l')) : l.waiting = byte :: l'.waiting := by
  rcases l with ⟨⟨queue, held, present⟩, far, limit⟩
  cases held with
  | some first =>
    simp only [readByte, Prod.mk.injEq, Except.ok.injEq] at taken
    obtain ⟨rfl, rfl⟩ := taken
    rfl
  | none =>
    cases queue with
    | nil => simp [readByte] at taken
    | cons first queue =>
      simp only [readByte, Prod.mk.injEq, Except.ok.injEq] at taken
      obtain ⟨rfl, rfl⟩ := taken
      rfl

instance : Transport Loopback PeerClosed where
  openLine l := (.ok (), l)
  closeLine l := (.ok (), l)
  write := write
  readByte := readByte
  byteTimeout := Loopback.byteTimeout
  pending l := l.waiting.length
  pending_read_byte timeout l l' byte taken := by
    rw [waiting_read_byte timeout l l' byte taken]
    simp

instance : IoPort Loopback PeerClosed where
  readReady := readReady
  readSome := readSome
  writeSome := writeSome
  flush l := (.ok (), l)

end Loopback
end LegLink
