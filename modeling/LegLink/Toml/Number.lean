import LegLink.Digits
import LegLink.Toml.Scan
import LegLink.Toml.Table

set_option autoImplicit false

namespace LegLink.Toml.Number

def more (isDigit : Char → Bool) : Scan (List Char)
  | [] => some ([], [])
  | '_' :: c :: rest =>
    if isDigit c then (more isDigit rest).map fun (digits, rest) => (c :: digits, rest) else none
  | c :: rest =>
    if c = '_' then none
    else if isDigit c then (more isDigit rest).map fun (digits, rest) => (c :: digits, rest)
    else some ([], c :: rest)

def digits (isDigit : Char → Bool) : Scan (List Char)
  | [] => none
  | c :: rest =>
    if isDigit c then (more isDigit rest).map fun (digits, rest) => (c :: digits, rest) else none

def isDecimal (c : Char) : Bool := '0' ≤ c && c ≤ '9'
def isOctal (c : Char) : Bool := '0' ≤ c && c ≤ '7'
def isBinary (c : Char) : Bool := c == '0' || c == '1'
def isHex (c : Char) : Bool := (Hex.digit? c).isSome

def ofDigits (base : Nat) (digits : List Char) : Nat :=
  digits.foldl (fun n c => n * base + (Hex.digit? c).getD 0) 0

def whole : Scan (List Char)
  | '0' :: rest => some (['0'], rest)
  | text => digits isDecimal text

def integer (n : Int) : Option Value :=
  if -0x8000000000000000 ≤ n ∧ n < 0x8000000000000000 then some (.integer n) else none

def inBase (base : Nat) (isDigit : Char → Bool) : Scan Value := do
  let found ← digits isDigit
  integer (ofDigits base found)

def isSign (c : Char) : Bool := c == '+' || c == '-'

def sign : Scan (Option Char)
  | [] => some (none, [])
  | c :: rest => if isSign c then some (some c, rest) else some (none, c :: rest)

def exponent : Scan (Option Int) := do
  match ← Scan.peek? with
  | some 'e' | some 'E' =>
    let _ ← Scan.next
    let s ← sign
    let n := Int.ofNat (ofDigits 10 (← digits isDecimal))
    pure (some (if s = some '-' then -n else n))
  | _ => pure none

def fraction : Scan (Option (List Char)) := do
  match ← Scan.peek? with
  | some '.' =>
    let _ ← Scan.next
    pure (some (← digits isDecimal))
  | _ => pure none

-- Powers of ten past which every number of so many digits is infinite or zero.
def farthest : Int := 400

def nearest (n : Nat) (e : Int) : Float :=
  let size := (Nat.toDigits 10 n).length + e
  if n = 0 ∨ size < -farthest then 0
  else if farthest < size then 1 / 0
  else Float.ofScientific n (e < 0) e.natAbs

-- A number that is too large is refused if it is not negative.
def float (negative : Bool) (x : Float) : Option Value :=
  if negative then some (.float (-x)) else if x.isInf then none else some (.float x)

def decimal (s : Option Char) : Scan Value := do
  let negative := s == some '-'
  let units ← whole
  let places ← fraction
  let power ← exponent
  if places.isNone && power.isNone then
    let n := Int.ofNat (ofDigits 10 units)
    integer (if negative then -n else n)
  else
    let places := places.getD []
    float negative (nearest (ofDigits 10 (units ++ places)) (power.getD 0 - places.length))

def infinity : Scan Value := do
  Scan.word "inf"
  pure (.float (1 / 0))

def notANumber : Scan Value := do
  Scan.word "nan"
  pure (.float (0 / 0))

def number : Scan Value := do
  match ← sign with
  | none =>
    (do Scan.word "0x"; inBase 16 isHex) <|> (do Scan.word "0o"; inBase 8 isOctal) <|>
      (do Scan.word "0b"; inBase 2 isBinary) <|> infinity <|> notANumber <|> decimal none
  | some s =>
    (do
      match ← infinity with
      | .float x => pure (.float (if s = '-' then -x else x))
      | v => pure v) <|> notANumber <|> decimal (some s)

end LegLink.Toml.Number
