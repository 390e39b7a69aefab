set_option autoImplicit false

namespace LegLink.Toml

abbrev Scan := StateT (List Char) Option

namespace Scan

variable {α : Type}

def next : Scan Char
  | [] => none
  | c :: rest => some (c, rest)

def peek? : Scan (Option Char) := fun text => some (text.head?, text)

def word (w : String) : Scan Unit := fun text =>
  if w.toList.isPrefixOf text then some ((), text.drop w.length) else none

def while_ (p : Char → Bool) : Scan (List Char) := fun text =>
  some (text.takeWhile p, text.dropWhile p)

def maybe (scan : Scan α) : Scan (Option α) := some <$> scan <|> pure none

def atEnd : Scan Bool := fun text => some (text.isEmpty, text)

-- No round takes less than a character, so these are enough.
def rounds (scan : Nat → Scan α) : Scan α := fun text => scan (text.length + 1) text

end Scan

def isBlank (c : Char) : Bool := c == ' ' || c == '\t'

def isPlain (c : Char) : Bool := c == '\t' || (0x20 ≤ c.toNat && c.toNat ≠ 0x7F)

def blanks : Scan Unit := do
  let _ ← Scan.while_ isBlank

def newline : Scan Unit := Scan.word "\n" <|> Scan.word "\r\n"

def comment : Scan Unit := do
  Scan.word "#"
  let _ ← Scan.while_ isPlain

def lineEnd : Scan Unit := do
  blanks
  let _ ← Scan.maybe comment
  if !(← Scan.atEnd) then newline

def skipGap (inComment : Bool) : List Char → Option (List Char)
  | [] => if inComment then none else some []
  | '\n' :: rest => skipGap false rest
  | '\r' :: '\n' :: rest => skipGap false rest
  | c :: rest =>
    if inComment then if isPlain c then skipGap true rest else none
    else if isBlank c then skipGap false rest
    else if c = '#' then skipGap true rest
    else some (c :: rest)

def gap : Scan Unit := fun text => (skipGap false text).map fun rest => ((), rest)

end LegLink.Toml
