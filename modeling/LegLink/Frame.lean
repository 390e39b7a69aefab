import LegLink.Bytes
import LegLink.Scalar

set_option autoImplicit false

namespace LegLink

def maxPayload : Nat := 252

structure Payload where
  bytes : Bytes
  fits : bytes.length ≤ maxPayload := by decide
deriving DecidableEq

namespace Payload

def empty : Payload := ⟨[], by decide⟩

def ofBytes? (data : Bytes) : Option Payload :=
  if h : data.length ≤ maxPayload then some ⟨data, h⟩ else none

def length (p : Payload) : Nat := p.bytes.length

def put? (p : Payload) (value : Scalar) : Option Payload := ofBytes? (p.bytes ++ value.bytes)

theorem of_bytes_eq_none_iff (data : Bytes) : ofBytes? data = none ↔ maxPayload < data.length := by
  unfold ofBytes?
  split <;> simp <;> omega

end Payload

structure Reader where
  rest : Bytes

namespace Reader

def read (r : Reader) (kind : Scalar.Kind) : Option Scalar × Reader :=
  match kind.read r.rest with
  | some (value, rest) => (some value, ⟨rest⟩)
  | none => (none, r)

def remaining (r : Reader) : Nat := r.rest.length

end Reader
end LegLink

namespace LegLink.Checksum

def generator : BitVec 16 := 0x1021#16
def preset : BitVec 16 := 0xFFFF#16

def bitStep (crc : BitVec 16) : BitVec 16 :=
  if crc.msb then (crc <<< 1) ^^^ generator else crc <<< 1

def bits : Nat → BitVec 16 → BitVec 16
  | 0, crc => crc
  | n + 1, crc => bits n (bitStep crc)

def byteStep (crc : BitVec 16) (byte : UInt8) : BitVec 16 :=
  bits 8 (crc ^^^ (byte.toBitVec.setWidth 16 <<< 8))

def register (crc : BitVec 16) (data : Bytes) : BitVec 16 := data.foldl byteStep crc

def crc16 (data : Bytes) : UInt16 := ⟨register preset data⟩

theorem register_append (crc : BitVec 16) (a b : Bytes) :
    register crc (a ++ b) = register (register crc a) b := by
  simp [register]

end LegLink.Checksum

namespace LegLink

structure Packet where
  seq : UInt16
  cmd : UInt8
  payload : Payload
deriving DecidableEq

inductive FrameError where
  | payloadTooLarge
  | bufferTooSmall
deriving DecidableEq

namespace FrameError

def name : FrameError → String
  | payloadTooLarge => "PayloadTooLarge"
  | bufferTooSmall => "BufferTooSmall"

end FrameError

namespace Frame

def stx : UInt8 := 0x7E
def etx : UInt8 := 0x7F
def headerSize : Nat := 3
def overhead : Nat := 5
def minSize : Nat := headerSize + overhead
def maxSize : Nat := minSize + maxPayload

end Frame

namespace Packet

def ofBytes (seq : UInt16) (cmd : UInt8) (data : Bytes) : Except FrameError Packet :=
  match Payload.ofBytes? data with
  | some payload => .ok ⟨seq, cmd, payload⟩
  | none => .error .payloadTooLarge

def count (p : Packet) : UInt8 := UInt8.ofNat (Frame.headerSize + p.payload.length)

def body (p : Packet) : Bytes :=
  p.count :: Bytes.ofWord p.seq ++ p.cmd :: p.payload.bytes

-- The count, the header and the payload are covered by the checksum, the markers are not.
def frame (p : Packet) : Bytes :=
  Frame.stx :: p.body ++ Bytes.ofWord (Checksum.crc16 p.body) ++ [Frame.etx]

def frameLength (p : Packet) : Nat := p.payload.length + Frame.minSize

theorem length_frame (p : Packet) : p.frame.length = p.frameLength := by
  simp [frame, body, frameLength, Payload.length, Frame.minSize, Frame.headerSize, Frame.overhead]
  omega

theorem length_frame_le (p : Packet) : p.frame.length ≤ Frame.maxSize := by
  have := p.payload.fits
  rw [length_frame, frameLength, Frame.maxSize, Payload.length]
  omega

def writeInto (p : Packet) (buffer : Bytes) : Except FrameError Nat × Bytes :=
  if buffer.length < p.frameLength then (.error .bufferTooSmall, buffer)
  else (.ok p.frameLength, p.frame ++ buffer.drop p.frameLength)

end Packet
end LegLink
