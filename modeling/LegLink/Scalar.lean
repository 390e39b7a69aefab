import LegLink.Bytes

set_option autoImplicit false

namespace LegLink

inductive Scalar where
  | u8 (value : UInt8)
  | u16 (value : UInt16)
  | u32 (value : UInt32)
  | i16 (value : Int16)
  | i32 (value : Int32)
  | f32 (value : Single)
deriving DecidableEq

namespace Scalar

inductive Kind where
  | u8 | u16 | u32 | i16 | i32 | f32
deriving DecidableEq

def kind : Scalar → Kind
  | .u8 _ => .u8
  | .u16 _ => .u16
  | .u32 _ => .u32
  | .i16 _ => .i16
  | .i32 _ => .i32
  | .f32 _ => .f32

def Kind.ofName? : String → Option Kind
  | "u8" => some .u8
  | "u16" => some .u16
  | "u32" => some .u32
  | "i16" => some .i16
  | "i32" => some .i32
  | "f32" => some .f32
  | _ => none

def Kind.ofInt (n : Int) : Kind → Scalar
  | u8 => .u8 (UInt8.ofInt n)
  | u16 => .u16 (UInt16.ofInt n)
  | u32 => .u32 (UInt32.ofInt n)
  | i16 => .i16 (Int16.ofInt n)
  | i32 => .i32 (Int32.ofInt n)
  | f32 => .f32 ⟨UInt32.ofInt n⟩

def Kind.size : Kind → Nat
  | .u8 => 1
  | .u16 | .i16 => 2
  | .u32 | .i32 | .f32 => 4

def bytes : Scalar → Bytes
  | .u8 v => [v]
  | .u16 v => Bytes.ofWord v
  | .u32 v => Bytes.ofLong v
  | .i16 v => Bytes.ofWord v.toUInt16
  | .i32 v => Bytes.ofLong v.toUInt32
  | .f32 v => Bytes.ofSingle v

theorem length_bytes (s : Scalar) : s.bytes.length = s.kind.size := by
  cases s <;> rfl

def Kind.ofBytes (kind : Kind) (data : Bytes) : Scalar :=
  match kind with
  | .u8 => .u8 (data.getD 0 0)
  | .u16 => .u16 (Bytes.wordAt data 0)
  | .u32 => .u32 (Bytes.longAt data 0)
  | .i16 => .i16 (Bytes.wordAt data 0).toInt16
  | .i32 => .i32 (Bytes.longAt data 0).toInt32
  | .f32 => .f32 (Bytes.singleAt data 0)

def Kind.read (kind : Kind) (data : Bytes) : Option (Scalar × Bytes) :=
  if data.length < kind.size then none
  else some (kind.ofBytes data, data.drop kind.size)

end Scalar
end LegLink
