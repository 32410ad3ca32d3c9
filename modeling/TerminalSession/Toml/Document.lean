import TerminalSession.Toml.Literal

/-!
# TOML documents

A document is read as statements, one a line: pairs, and headers that say which table the pairs
after them belong to. `ofStatements?` builds the table, and `parse?` does both.
-/

namespace TerminalSession.Toml

/-- A line of a document that says something. -/
inductive Statement
  | pair (key : Key) (value : Value)
  | table (key : Key)
  | item (key : Key)
  deriving Repr

namespace Statement

def read : Reader Statement
  | '[' :: '[' :: rest => do
    match ← key rest with
    | (key, ']' :: ']' :: rest) => return (.item key, ← lineEnd? rest)
    | _ => none
  | '[' :: rest => do
    match ← key rest with
    | (key, ']' :: rest) => return (.table key, ← lineEnd? rest)
    | _ => none
  | cs => do
    let ((key, value), rest) ← Toml.pair (value maxDepth) cs
    return (.pair key value, ← lineEnd? rest)

end Statement

/-- Reads the statements of a text. A line takes at least a character, so their number is bounded
by `fuel`, the length of the text. -/
def statements : (fuel : Nat) → List Char → Option (List Statement)
  | 0, cs => if cs.isEmpty then some [] else none
  | fuel + 1, cs =>
    match skipSpaces cs with
    | [] => some []
    | cs@(c :: _) =>
      if c = '#' || c = '\n' || c = '\r' then do statements fuel (← lineEnd? cs)
      else do
        let (statement, rest) ← Statement.read cs
        return statement :: (← statements fuel rest)

/-- The statements of a document. A byte order mark at its front is left out. -/
def statements? (document : List Char) : Option (List Statement) :=
  let text := match document with
    | '\uFEFF' :: rest => rest
    | _ => document
  statements text.length text

/-- A table under construction, and the header that the next pairs belong to. -/
structure Draft where
  entries : Entries := []
  header : List String := []
  deriving Repr

namespace Draft

def add? (draft : Draft) : Statement → Option Draft
  | .pair key value => do
    return { draft with entries := ← assignUnder draft.header key value draft.entries }
  | .table key => do
    return { entries := ← openTable key draft.entries, header := key.path ++ [key.name] }
  | .item key => do
    return { entries := ← appendTable key draft.entries, header := key.path ++ [key.name] }

end Draft

def ofStatements? (statements : List Statement) : Option Entries :=
  (statements.foldlM Draft.add? {}).map Draft.entries

def parse? (document : String) : Option Entries := do
  ofStatements? (← statements? document.toList)

end TerminalSession.Toml
