import LegLink.Toml.Moment
import LegLink.Toml.Quoted
import LegLink.Toml.Table

set_option autoImplicit false

namespace LegLink.Toml

def depthLimit : Nat := 80

def isBare (c : Char) : Bool :=
  ('a' ≤ c && c ≤ 'z') || ('A' ≤ c && c ≤ 'Z') || ('0' ≤ c && c ≤ '9') || c == '_' || c == '-'

def keyPart : Scan String := do
  blanks
  let part ← match ← Scan.peek? with
    | some '"' | some '\'' => Quoted.line
    | _ => do
      let name ← Scan.while_ isBare
      guard (!name.isEmpty)
      pure (String.ofList name)
  blanks
  pure part

def keyParts : Nat → Scan (List String)
  | 0 => failure
  | n + 1 => do
    let part ← keyPart
    match ← Scan.peek? with
    | some '.' =>
      let _ ← Scan.next
      pure (part :: (← keyParts n))
    | _ => pure [part]

def key : Scan (List String) := keyParts (depthLimit - 1)

def leaf : Scan Value := do
  match ← Scan.peek? with
  | some '"' | some '\'' => do pure (.string (← Quoted.string))
  | some 't' => do Scan.word "true"; pure (.boolean true)
  | some 'f' => do Scan.word "false"; pure (.boolean false)
  | _ => if Moment.begins (← get) then do pure (.moment (← Moment.scan)) else Number.number

def items (value : Scan Value) : Nat → Scan (List Value)
  | 0 => failure
  | n + 1 => do
    gap
    if (← Scan.peek?) = some ']' then
      let _ ← Scan.next
      pure []
    else
      let item ← value
      gap
      match ← Scan.next with
      | ',' => do pure (item :: (← items value n))
      | ']' => pure [item]
      | _ => failure

def pairs (value : Scan Value) (entries : Entries) : Nat → Scan Entries
  | 0 => failure
  | n + 1 => do
    let path ← key
    Scan.word "="
    blanks
    let item ← value
    blanks
    let entries ← entries.addPair path item
    match ← Scan.next with
    | ',' => pairs value entries n
    | '\x7d' => pure entries
    | _ => failure

def value : Nat → Scan Value
  | 0 => leaf
  | depth + 1 => do
    match ← Scan.peek? with
    | some '[' => do
      let _ ← Scan.next
      pure (.array (← Scan.rounds (items (value depth))))
    | some '\x7b' => do
      let _ ← Scan.next
      blanks
      if (← Scan.peek?) = some '\x7d' then
        let _ ← Scan.next
        pure (.table .inline [])
      else pure (.table .inline (← Scan.rounds (pairs (value depth) [])))
    | _ => leaf

structure Draft where
  entries : Entries := []
  path : List String := []

namespace Draft

def addPair (d : Draft) (path : List String) (value : Value) : Option Draft :=
  (Entries.edit false (fun _ here => here.addPair path value) d.path .header d.entries).map
    fun entries => { d with entries }

def openTable (d : Draft) (path : List String) : Option Draft :=
  (d.entries.openTable path).map fun entries => { entries, path }

def openElement (d : Draft) (path : List String) : Option Draft :=
  (d.entries.openElement path).map fun entries => { entries, path }

end Draft

def header (d : Draft) : Scan Draft := do
  match ← Scan.maybe (Scan.word "[[") with
  | some () =>
    let path ← key
    Scan.word "]]"
    lineEnd
    d.openElement path
  | none =>
    Scan.word "["
    let path ← key
    Scan.word "]"
    lineEnd
    d.openTable path

def pair (d : Draft) : Scan Draft := do
  let path ← key
  Scan.word "="
  blanks
  let item ← value (depthLimit - 1)
  lineEnd
  d.addPair path item

def lines (d : Draft) : Nat → Scan Draft
  | 0 => failure
  | n + 1 => do
    blanks
    if ← Scan.atEnd then pure d
    else
      match ← Scan.peek? with
      | some '[' => do lines (← header d) n
      | some '#' | some '\n' | some '\r' => do lineEnd; lines d n
      | _ => do lines (← pair d) n

def byteOrderMark : Char := '\ufeff'

def Document.parse (text : String) : Option Entries :=
  let text := match text.toList with
    | c :: rest => if c = byteOrderMark then rest else c :: rest
    | [] => []
  (Scan.rounds (lines {}) text).map fun (d, _) => d.entries

end LegLink.Toml
