import LegLink.Frame.Decoder

set_option autoImplicit false

namespace LegLink

structure RxBuffer where
  bytes : Bytes
  fits : bytes.length ≤ Frame.maxSize := by decide
deriving DecidableEq

namespace RxBuffer

def empty : RxBuffer := ⟨[], by decide⟩

def length (b : RxBuffer) : Nat := b.bytes.length

def append? (b : RxBuffer) (data : Bytes) : Option RxBuffer :=
  if h : (b.bytes ++ data).length ≤ Frame.maxSize then some ⟨b.bytes ++ data, h⟩ else none

def push (b : RxBuffer) (byte : UInt8) : RxBuffer :=
  (b.append? [byte]).getD ⟨[byte], by show 1 ≤ _; decide⟩

def decode (b : RxBuffer) : Option Packet × RxBuffer :=
  ((Frame.decode b.bytes).1,
    ⟨(Frame.decode b.bytes).2, Nat.le_trans (Frame.length_decode_le b.bytes) b.fits⟩)

theorem length_push_le (b : RxBuffer) (byte : UInt8) : (b.push byte).length ≤ b.length + 1 := by
  unfold push append?
  split <;> simp [length]

theorem length_decode_le (b : RxBuffer) : b.decode.2.length ≤ b.length :=
  Frame.length_decode_le b.bytes

theorem length_decode_lt {b : RxBuffer} {packet : Packet} (h : b.decode.1 = some packet) :
    b.decode.2.length < b.length := by
  have split : Frame.decode b.bytes = (some packet, b.decode.2.bytes) := by
    rw [← h]
    rfl
  exact Frame.length_decode_lt split

def drain (b : RxBuffer) : List Packet × RxBuffer :=
  match h : b.decode with
  | (none, b') => ([], b')
  | (some packet, b') =>
    have : b'.length < b.length := by
      have taken : b.decode.1 = some packet := by rw [h]
      have shorter := length_decode_lt taken
      rwa [h] at shorter
    let (packets, final) := b'.drain
    (packet :: packets, final)
termination_by b.length

-- A buffer that is full stops it: then only the index of the byte that did not fit is told.
def feed : List (UInt8 × Nat) → RxBuffer → Except Nat (List (Nat × Packet)) × RxBuffer
  | [], b => (.ok [], b)
  | (byte, i) :: rest, b =>
    match b.append? [byte] with
    | none => (.error i, b)
    | some b =>
      let (packets, b) := b.drain
      let (later, b) := feed rest b
      (later.map (packets.map (fun p => (i, p)) ++ ·), b)

end RxBuffer
end LegLink
