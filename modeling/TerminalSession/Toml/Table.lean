import TerminalSession.Toml.Value

/-!
# Tables under construction

A document builds one table, line by line. A dotted key and a header both lead from table to table,
and make those that are missing, but they may not enter the same ones: what is written out in one
place cannot be added to from another.

`assign` is a line `key = value`, `openTable` is a header `[key]`, and `appendTable` is a header
`[[key]]`. All three change one name in one table by `alter`.
-/

namespace TerminalSession.Toml

/-- A key: the tables on the way, and the name in the last of them. -/
structure Key where
  path : List String := []
  name : String
  deriving DecidableEq, Repr

def alter (name : String) (f : Option Value → Option Value) : Entries → Option Entries
  | [] => do return [(name, ← f none)]
  | (name', value) :: entries => do
    if name' = name then return (name', ← f (some value)) :: entries
    else return (name', value) :: (← alter name f entries)

def alterLast (f : Value → Option Value) : List Value → Option (List Value)
  | [] => none
  | [item] => do return [← f item]
  | item :: items => do return item :: (← alterLast f items)

/-- What leads from table to table. -/
inductive Walk
  | dottedKey
  | header
  deriving DecidableEq, Repr

namespace Walk

/-- The origin of the tables that a walk makes. -/
def made : Walk → Origin
  | .dottedKey => .dotted
  | .header => .implied

/-- Whether a walk may enter a table. A dotted key may only end in a table of dotted keys. -/
def enters (walk : Walk) (ends : Bool) (origin : Origin) : Bool :=
  match walk with
  | .dottedKey => origin == .dotted || (!ends && origin == .implied)
  | .header => origin != .literal

/-- Whether a walk may enter the last table of an array of tables. -/
def entersLast (walk : Walk) (ends : Bool) : Bool := walk == .header || !ends

end Walk

def descend (walk : Walk) (change : Entries → Option Entries) :
    List String → Entries → Option Entries
  | [], entries => change entries
  | name :: path, entries =>
    alter name (fun
      | none => do return .table walk.made (← descend walk change path [])
      | some (.table origin inner) => do
        guard (walk.enters path.isEmpty origin)
        return .table origin (← descend walk change path inner)
      | some (.array .header items) => do
        guard (walk.entersLast path.isEmpty)
        return .array .header (← alterLast (fun
          | .table origin inner => do return .table origin (← descend walk change path inner)
          | _ => none) items)
      | some _ => none) entries

/-- Gives a key a value. A key gets its value once. -/
def assign (key : Key) (value : Value) : Entries → Option Entries :=
  descend .dottedKey (alter key.name fun
    | none => some value
    | some _ => none) key.path

def openTable (key : Key) : Entries → Option Entries :=
  descend .header (alter key.name fun
    | none => some (.table .header [])
    | some (.table .implied entries) => some (.table .header entries)
    | some _ => none) key.path

def appendTable (key : Key) : Entries → Option Entries :=
  descend .header (alter key.name fun
    | none => some (.array .header [.table .header []])
    | some (.array .header items) => some (.array .header (items ++ [.table .header []]))
    | some _ => none) key.path

def assignUnder (header : List String) (key : Key) (value : Value) : Entries → Option Entries :=
  descend .header (assign key value) header

end TerminalSession.Toml
