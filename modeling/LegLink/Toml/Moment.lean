import LegLink.Toml.Number

set_option autoImplicit false

namespace LegLink.Toml

def count (places : Nat) : Scan Nat := fun text =>
  let found := text.take places
  if found.length = places ∧ found.all Number.isDecimal then
    some (Number.ofDigits 10 found, text.drop places)
  else none

def within (low high : Nat) (scan : Scan Nat) : Scan Nat := do
  let n ← scan
  guard (low ≤ n ∧ n ≤ high)
  pure n

namespace Date

def isLeapYear (year : Nat) : Bool := year % 4 == 0 && (year % 100 != 0 || year % 400 == 0)

def daysIn (year month : Nat) : Nat :=
  if month = 2 then if isLeapYear year then 29 else 28
  else if month = 4 ∨ month = 6 ∨ month = 9 ∨ month = 11 then 30
  else 31

def scan : Scan Date := do
  let year ← count 4
  Scan.word "-"
  let month ← within 1 12 (count 2)
  Scan.word "-"
  let day ← within 1 (daysIn year month) (count 2)
  pure { year, month, day }

end Date

namespace Time

def hours : Scan Nat := within 0 23 (count 2)
def minutes : Scan Nat := within 0 59 (count 2)

-- A minute may have a leap second.
def scan : Scan Time := do
  let hour ← hours
  Scan.word ":"
  let minute ← minutes
  Scan.word ":"
  let second ← within 0 60 (count 2)
  match ← Scan.peek? with
  | some '.' =>
    let _ ← Scan.next
    let fraction ← Scan.while_ Number.isDecimal
    guard (!fraction.isEmpty)
    pure { hour, minute, second, fraction }
  | _ => pure { hour, minute, second, fraction := [] }

end Time

namespace Moment

def scanOffset : Scan (Option Int) := do
  match ← Scan.peek? with
  | some 'Z' | some 'z' =>
    let _ ← Scan.next
    pure (some 0)
  | some '+' | some '-' =>
    let sign ← Scan.next
    let hours ← Time.hours
    Scan.word ":"
    let minutes := Int.ofNat (hours * 60 + (← Time.minutes))
    pure (some (if sign = '-' then -minutes else minutes))
  | _ => pure none

def dateBegins (text : List Char) : Bool :=
  match text with
  | a :: b :: c :: d :: '-' :: _ => [a, b, c, d].all Number.isDecimal
  | _ => false

def timeBegins (text : List Char) : Bool :=
  match text with
  | a :: b :: ':' :: _ => [a, b].all Number.isDecimal
  | _ => false

def begins (text : List Char) : Bool := dateBegins text || timeBegins text

def isDelimiter (c : Char) : Bool := c == 'T' || c == 't' || c == ' '

def timeFollows (text : List Char) : Bool :=
  match text with
  | delimiter :: rest => isDelimiter delimiter && timeBegins rest
  | [] => false

def scan : Scan Moment := do
  if timeBegins (← get) then pure { time := some (← Time.scan) }
  else
    let date ← Date.scan
    if timeFollows (← get) then
      let _ ← Scan.next
      let time ← Time.scan
      pure { date := some date, time := some time, offset := ← scanOffset }
    else pure { date := some date }

end Moment
end LegLink.Toml
