import TerminalSession.Config.Basic
import TerminalSession.Toml.Document

/-!
# Configurations as tables

Reading a configuration from a TOML table. Only the known names are looked at: one that is missing
has its default, one whose value is of the wrong kind has the table refused, and all other names
may hold anything.

Two things have a second spelling. The choices about labels may be an array of their values in
order, and a name out of a fixed set may be the only name in a table, with an empty table or an
empty array as its value.
-/

namespace TerminalSession

namespace Toml.Value

def boolean? : Value → Option Bool
  | .boolean b => some b
  | _ => none

def byte? : Value → Option UInt8
  | .integer n => if 0 ≤ n ∧ n < 256 then some n.toNat.toUInt8 else none
  | _ => none

/-- One of the things that have names. -/
def choice? {α : Type} (ofName? : String → Option α) : Value → Option α
  | .text name => ofName? name
  | .table _ [(name, .table _ [])] | .table _ [(name, .array _ [])] => ofName? name
  | _ => none

/-- What a value that may be missing is read as. -/
def orDefault {α : Type} (read : Value → Option α) (default : α) : Option Value → Option α
  | none => some default
  | some value => read value

end Toml.Value

open Toml (Value Entries)

namespace LabelConfig

/-- Puts the choices about labels together from their values, as far as there are any. -/
def ofValues? (enabled format anchor : Option Value) : Option LabelConfig := do
  let default : LabelConfig := {}
  return {
    enabled := ← Value.orDefault Value.boolean? default.enabled enabled
    format := ← Value.orDefault Value.byte? default.format format
    anchor := ← Value.orDefault (Value.choice? Side.ofName?) default.anchor anchor }

/-- Reads the choices about labels. A time counts as a table without any known name. -/
def ofValue? : Value → Option LabelConfig
  | .table _ entries =>
    ofValues? (entries.lookup "enabled") (entries.lookup "format") (entries.lookup "anchor")
  | .array _ items => ofValues? items[0]? items[1]? items[2]?
  | .time _ => some {}
  | _ => none

end LabelConfig

namespace Config

def ofEntries? (entries : Entries) : Option Config := do
  let default : Config := {}
  let shape? (value : Value) : Option (Option CursorShape) :=
    (value.choice? CursorShape.ofName?).map some
  return {
    preserveScreen :=
      ← Value.orDefault Value.boolean? default.preserveScreen (entries.lookup "preserve_screen")
    alternateScreen :=
      ← Value.orDefault Value.boolean? default.alternateScreen (entries.lookup "alternate_screen")
    cursor := ← Value.orDefault shape? default.cursor (entries.lookup "cursor")
    labels := ← Value.orDefault LabelConfig.ofValue? default.labels (entries.lookup "slk") }

def ofToml? (document : String) : Option Config := do ofEntries? (← Toml.parse? document)

/-- A configuration as the text of a document. A cursor shape that is not to change is left out. -/
def toToml (c : Config) : String :=
  "preserve_screen = " ++ toString c.preserveScreen ++ "\n" ++
  "alternate_screen = " ++ toString c.alternateScreen ++ "\n" ++
  (match c.cursor with
    | none => ""
    | some shape => "cursor = \"" ++ shape.name ++ "\"\n") ++
  "\n[slk]\n" ++
  "enabled = " ++ toString c.labels.enabled ++ "\n" ++
  "format = " ++ toString c.labels.format ++ "\n" ++
  "anchor = \"" ++ c.labels.anchor.name ++ "\"\n"

end Config

end TerminalSession
