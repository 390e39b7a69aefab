import LegLink.Bytes

set_option autoImplicit false

namespace LegLink.Hex

def digit (n : Nat) : Char :=
  if n < 10 then Char.ofNat (0x30 + n) else Char.ofNat (0x61 + (n - 10))

def digits (n : Nat) : Nat → List Char
  | 0 => []
  | places + 1 => digits (n / 16) places ++ [digit (n % 16)]

def digit? (c : Char) : Option Nat :=
  if '0' ≤ c ∧ c ≤ '9' then some (c.toNat - 0x30)
  else if 'a' ≤ c ∧ c ≤ 'f' then some (c.toNat - 0x61 + 10)
  else if 'A' ≤ c ∧ c ≤ 'F' then some (c.toNat - 0x41 + 10)
  else none

def nat? (text : List Char) : Option Nat :=
  text.foldlM (fun n c => (digit? c).map (n * 16 + ·)) 0

def bytes? : List Char → Option (List UInt8)
  | [] => some []
  | [_] => none
  | high :: low :: rest => do
    let byte ← nat? [high, low]
    let rest ← bytes? rest
    pure (UInt8.ofNat byte :: rest)

def byte (b : UInt8) : String := String.ofList (digits b.toNat 2)
def bytes (data : List UInt8) : String := String.join (data.map byte)
def word (w : UInt16) : String := String.ofList (digits w.toNat 4)

end LegLink.Hex

namespace LegLink.Decimal

def digit? (c : Char) : Option Nat := if c.isDigit then some (c.toNat - 0x30) else none

def digits? (n : Nat) : List Char → Option Nat
  | [] => some n
  | c :: rest => (digit? c).bind fun d => digits? (n * 10 + d) rest

def nat? (text : List Char) : Option Nat := if text.isEmpty then none else digits? 0 text

def unsigned? : List Char → Option Nat
  | '+' :: text => nat? text
  | text => nat? text

def int? : List Char → Option Int
  | '-' :: text => (nat? text).map fun n => -(n : Int)
  | text => (unsigned? text).map fun n => (n : Int)

-- The nearest whole number, and halfway between two the even one.
def roundDiv (num den : Nat) : Nat :=
  let low := num / den
  let twice := 2 * (num % den)
  if twice < den ∨ (twice = den ∧ low % 2 = 0) then low else low + 1

def pointed (n places : Nat) : String :=
  let scale := Nat.pow 10 places
  let whole := toString (n / scale)
  if places = 0 then whole
  else
    let digits := Nat.toDigits 10 (n % scale)
    whole ++ "." ++ String.ofList (List.replicate (places - digits.length) '0' ++ digits)

end LegLink.Decimal

namespace LegLink.Single

def isNegative (x : Single) : Bool := x.bits >>> 31 == 1
def exponent (x : Single) : Nat := ((x.bits >>> 23) &&& 0xFF).toNat
def mantissa (x : Single) : Nat := (x.bits &&& 0x7FFFFF).toNat

def magnitude (x : Single) : Nat × Nat :=
  let (significand, power) :=
    if x.exponent = 0 then (x.mantissa, 1) else (x.mantissa + 0x800000, x.exponent)
  (significand <<< power, 1 <<< 150)

-- The sign is that of the value, also where it rounds to zero.
def toFixed (x : Single) (places : Nat) : String :=
  let sign := if x.isNegative then "-" else ""
  if x.exponent = 0xFF then
    if x.mantissa = 0 then sign ++ "inf" else "NaN"
  else
    let (num, den) := x.magnitude
    sign ++ Decimal.pointed (Decimal.roundDiv (num * Nat.pow 10 places) den) places

end LegLink.Single
