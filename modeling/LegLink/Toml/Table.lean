set_option autoImplicit false

namespace LegLink.Toml

structure Date where
  year : Nat
  month : Nat
  day : Nat
deriving DecidableEq

structure Time where
  hour : Nat
  minute : Nat
  second : Nat
  fraction : List Char
deriving DecidableEq

structure Moment where
  date : Option Date := none
  time : Option Time := none
  offset : Option Int := none
deriving DecidableEq

inductive Origin where
  | header
  | implied
  | dotted
  | inline
deriving DecidableEq

inductive Value where
  | string (text : String)
  | integer (n : Int)
  | float (x : Float)
  | boolean (b : Bool)
  | moment (m : Moment)
  | array (items : List Value)
  | table (origin : Origin) (entries : List (String × Value))
  | tables (items : List (List (String × Value)))

abbrev Entries := List (String × Value)

end LegLink.Toml

namespace LegLink.Toml.Entries

def put (key : String) (value : Value) (entries : Entries) : Entries :=
  entries.map fun entry => if entry.1 = key then (key, value) else entry

-- A header may name a table that others only implied, but not one that has been written; dotted
-- keys may only go on with tables that dotted keys began.
def edit (byKey : Bool) (change : Origin → Entries → Option Entries) :
    List String → Origin → Entries → Option Entries
  | [], origin, entries => change origin entries
  | key :: path, _, entries =>
    match entries.lookup key with
    | none =>
      let origin := if byKey then .dotted else .implied
      (edit byKey change path origin []).map fun below => entries ++ [(key, .table origin below)]
    | some (.table origin below) =>
      if origin = .inline ∨ (byKey ∧ origin = .header) then none
      else
        (edit byKey change path origin below).map fun below =>
          entries.put key (.table origin below)
    | some (.tables items) =>
      match items.getLast? with
      | none => none
      | some last =>
        (edit byKey change path .header last).map fun last =>
          entries.put key (.tables (items.dropLast ++ [last]))
    | some _ => none

def add (key : String) (value : Value) (entries : Entries) : Option Entries :=
  match entries.lookup key with
  | none => some (entries ++ [(key, value)])
  | some _ => none

def addPair (path : List String) (value : Value) (entries : Entries) : Option Entries :=
  match path.getLast? with
  | none => none
  | some key =>
    let parents := path.dropLast
    let last (origin : Origin) (entries : Entries) : Option Entries :=
      if parents.isEmpty ∨ origin = .dotted then entries.add key value else none
    edit true last parents .header entries

def openTable (path : List String) (entries : Entries) : Option Entries :=
  match path.getLast? with
  | none => none
  | some key =>
    let last (_ : Origin) (entries : Entries) : Option Entries :=
      match entries.lookup key with
      | some (.table .implied below) => some (entries.put key (.table .header below))
      | _ => entries.add key (.table .header [])
    edit false last path.dropLast .header entries

def openElement (path : List String) (entries : Entries) : Option Entries :=
  match path.getLast? with
  | none => none
  | some key =>
    let last (_ : Origin) (entries : Entries) : Option Entries :=
      match entries.lookup key with
      | some (.tables items) => some (entries.put key (.tables (items ++ [[]])))
      | _ => entries.add key (.tables [[]])
    edit false last path.dropLast .header entries

end LegLink.Toml.Entries
