import LegLink.Digits
import LegLink.Toml.Scan

set_option autoImplicit false

namespace LegLink.Toml.Quoted

def numbered (digits : List Char) : Option Char := do
  let n ← Hex.nat? digits
  if h : n.isValidChar then some (Char.ofNatAux n h) else none

def escaped : Char → Option Char
  | 'b' => some '\x08'
  | 't' => some '\t'
  | 'n' => some '\n'
  | 'f' => some '\x0c'
  | 'r' => some '\r'
  | '"' => some '"'
  | '\\' => some '\\'
  | _ => none

abbrev Body := Option (List Char × List Char)

def Body.push (c : Char) (body : Body) : Body :=
  body.map fun (text, rest) => (c :: text, rest)

def Body.push? (c : Option Char) (body : Body) : Body :=
  match c with
  | some c => push c body
  | none => none

def basic : List Char → Body
  | [] => none
  | '"' :: rest => some ([], rest)
  | '\\' :: 'u' :: a :: b :: c :: d :: rest => Body.push? (numbered [a, b, c, d]) (basic rest)
  | '\\' :: 'U' :: a :: b :: c :: d :: e :: f :: g :: h :: rest =>
    Body.push? (numbered [a, b, c, d, e, f, g, h]) (basic rest)
  | '\\' :: c :: rest => Body.push? (escaped c) (basic rest)
  | c :: rest => if isPlain c then Body.push c (basic rest) else none

def literal : List Char → Body
  | [] => none
  | '\'' :: rest => some ([], rest)
  | c :: rest => if isPlain c then Body.push c (literal rest) else none

def blankLine (text : List Char) : Bool :=
  match text.dropWhile isBlank with
  | '\n' :: _ | '\r' :: '\n' :: _ => true
  | _ => false

-- After a backslash at the end of a line everything up to the next visible character is skipped.
def basicLines (skipping : Bool) : List Char → Body
  | [] => none
  | '"' :: '"' :: '"' :: '"' :: '"' :: rest => some (['"', '"'], rest)
  | '"' :: '"' :: '"' :: '"' :: rest => some (['"'], rest)
  | '"' :: '"' :: '"' :: rest => some ([], rest)
  | '\n' :: rest =>
    if skipping then basicLines true rest else Body.push '\n' (basicLines false rest)
  | '\r' :: '\n' :: rest =>
    if skipping then basicLines true rest else Body.push '\n' (basicLines false rest)
  | '\\' :: 'u' :: a :: b :: c :: d :: rest =>
    Body.push? (numbered [a, b, c, d]) (basicLines false rest)
  | '\\' :: 'U' :: a :: b :: c :: d :: e :: f :: g :: h :: rest =>
    Body.push? (numbered [a, b, c, d, e, f, g, h]) (basicLines false rest)
  | '\\' :: c :: rest =>
    if blankLine (c :: rest) then basicLines true (c :: rest)
    else Body.push? (escaped c) (basicLines false rest)
  | c :: rest =>
    if skipping && isBlank c then basicLines true rest
    else if isPlain c then Body.push c (basicLines false rest)
    else none

def literalLines : List Char → Body
  | [] => none
  | '\'' :: '\'' :: '\'' :: '\'' :: '\'' :: rest => some (['\'', '\''], rest)
  | '\'' :: '\'' :: '\'' :: '\'' :: rest => some (['\''], rest)
  | '\'' :: '\'' :: '\'' :: rest => some ([], rest)
  | '\n' :: rest => Body.push '\n' (literalLines rest)
  | '\r' :: '\n' :: rest => Body.push '\n' (literalLines rest)
  | c :: rest => if isPlain c then Body.push c (literalLines rest) else none

def afterFirstLine : List Char → List Char
  | '\n' :: rest => rest
  | '\r' :: '\n' :: rest => rest
  | text => text

def finish (body : Body) : Option (String × List Char) :=
  body.map fun (text, rest) => (String.ofList text, rest)

def line : Scan String
  | '"' :: rest => finish (basic rest)
  | '\'' :: rest => finish (literal rest)
  | _ => none

def string : Scan String
  | '"' :: '"' :: '"' :: rest => finish (basicLines false (afterFirstLine rest))
  | '\'' :: '\'' :: '\'' :: rest => finish (literalLines (afterFirstLine rest))
  | text => line text

end LegLink.Toml.Quoted
