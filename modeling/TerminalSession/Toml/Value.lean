/-!
# TOML values

What a TOML document says. Fractions and times are kept as they are written: a document is read for
its booleans, whole numbers and texts.
-/

namespace TerminalSession.Toml

/-- How a table or an array came to be, which decides what later lines may add to it. -/
inductive Origin
  /-- Written out between brackets or braces; nothing can be added. -/
  | literal
  /-- Made on the way of a dotted key; further dotted keys add to it. -/
  | dotted
  /-- Made on the way of a header; it can still get a header of its own. -/
  | implied
  /-- Named by a header. -/
  | header
  deriving DecidableEq, Repr, Inhabited

/-- A TOML value. -/
inductive Value
  | text (s : String)
  | integer (n : Int)
  | float (written : String)
  | boolean (b : Bool)
  | time (written : String)
  | array (origin : Origin) (items : List Value)
  /-- Names with their values, in the order of the document. No name occurs twice. -/
  | table (origin : Origin) (entries : List (String × Value))
  deriving Repr, Inhabited

abbrev Entries : Type := List (String × Value)

end TerminalSession.Toml
