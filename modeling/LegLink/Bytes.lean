set_option autoImplicit false

namespace LegLink

-- Carried as its bits, so that a number that only passes through arrives as it was sent.
structure Single where
  bits : UInt32
deriving DecidableEq, Inhabited, Repr

namespace Single

def value (x : Single) : Float32 := Float32.ofBits x.bits
def ofFloat (x : Float32) : Single := ⟨x.toBits⟩
def ofWord (w : UInt16) : Single := ofFloat w.toFloat32
def ofCount (n : UInt32) : Single := ofFloat n.toFloat32

instance : Add Single := ⟨fun x y => ofFloat (x.value + y.value)⟩
instance : Sub Single := ⟨fun x y => ofFloat (x.value - y.value)⟩
instance : Mul Single := ⟨fun x y => ofFloat (x.value * y.value)⟩
instance : Div Single := ⟨fun x y => ofFloat (x.value / y.value)⟩

def less (x y : Single) : Bool := decide (x.value < y.value)

def same (x y : Single) : Bool := x.value == y.value

def clamp (x low high : Single) : Single :=
  if x.less low then low else if high.less x then high else x

-- Truncates towards zero; below the range gives 0, above it 65535, a NaN 0.
def toWord (x : Single) : UInt16 := x.value.toUInt16

def zero : Single := ⟨0⟩
def one : Single := ⟨0x3F800000⟩
def half : Single := ⟨0x3F000000⟩

end Single

abbrev Bytes := List UInt8

namespace Bytes

-- The least significant byte goes first.
def ofWord (w : UInt16) : Bytes := [w.toUInt8, (w >>> 8).toUInt8]

def word (lo hi : UInt8) : UInt16 := lo.toUInt16 ||| (hi.toUInt16 <<< 8)

def ofLong (w : UInt32) : Bytes :=
  [w.toUInt8, (w >>> 8).toUInt8, (w >>> 16).toUInt8, (w >>> 24).toUInt8]

def long (a b c d : UInt8) : UInt32 :=
  a.toUInt32 ||| (b.toUInt32 <<< 8) ||| (c.toUInt32 <<< 16) ||| (d.toUInt32 <<< 24)

def ofSingle (x : Single) : Bytes := ofLong x.bits

def single (a b c d : UInt8) : Single := ⟨long a b c d⟩

def wordAt (data : Bytes) (i : Nat) : UInt16 := word (data.getD i 0) (data.getD (i + 1) 0)
def longAt (data : Bytes) (i : Nat) : UInt32 :=
  long (data.getD i 0) (data.getD (i + 1) 0) (data.getD (i + 2) 0) (data.getD (i + 3) 0)
def singleAt (data : Bytes) (i : Nat) : Single := ⟨longAt data i⟩

@[simp] theorem length_of_word (w : UInt16) : (ofWord w).length = 2 := rfl
@[simp] theorem length_of_single (x : Single) : (ofSingle x).length = 4 := rfl

end Bytes
end LegLink
