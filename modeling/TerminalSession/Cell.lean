import TerminalSession.Text.Columns

/-!
# Cells

What stands at one place of a character grid: a glyph and the attributes it is drawn with. A
character of two columns fills the cell at its left column and leaves a `tail` in the next one, so
a grid stays a grid of single columns.
-/

namespace TerminalSession

/-- A colour: the terminal's own, one of its palette, or a mixture of red, green and blue. -/
inductive Color
  | default
  | indexed (n : UInt8)
  | rgb (red green blue : UInt8)
  deriving DecidableEq, Repr, Inhabited

/-- The ways of drawing a character that can be combined freely. -/
structure Styles where
  bold : Bool := false
  dim : Bool := false
  italic : Bool := false
  underline : Bool := false
  blink : Bool := false
  inverse : Bool := false
  hidden : Bool := false
  strikethrough : Bool := false
  deriving DecidableEq, Repr, Inhabited

/-- How a cell is drawn. -/
structure Attrs where
  fg : Color := .default
  bg : Color := .default
  styles : Styles := {}
  deriving DecidableEq, Repr, Inhabited

namespace Attrs

/-- Every style at once on the last colours of the palette. No application draws with it, so a
grid erased with it differs from every rendered frame. -/
def sentinel : Attrs where
  fg := .indexed 255
  bg := .indexed 255
  styles := {
    bold := true, dim := true, italic := true, underline := true
    blink := true, inverse := true, hidden := true, strikethrough := true }

/-- Default colours, dark on light swapped. -/
def inverse : Attrs where
  styles := { inverse := true }

end Attrs

/-- What a cell shows: nothing, a character, or the right column of the wide character before
it. -/
inductive Glyph
  | blank
  | char (c : Char)
  | tail
  deriving DecidableEq, Repr, Inhabited

/-- One place of a grid. -/
structure Cell where
  glyph : Glyph := .blank
  attrs : Attrs := {}
  deriving DecidableEq, Repr, Inhabited

namespace Cell

/-- A cell that shows nothing. -/
def blank (attrs : Attrs) : Cell := { glyph := .blank, attrs }

/-- The columns a cell's glyph takes; a tail takes none of its own. -/
def width (cell : Cell) : Nat :=
  match cell.glyph with
  | .blank => 1
  | .char c => columns c
  | .tail => 0

/-- Whether the cell is the right column of a wide character. -/
def isTail (cell : Cell) : Bool := cell.glyph == .tail

/-- The character a cell shows. A blank shows as a space, and a tail shows nothing. -/
def shown? (cell : Cell) : Option Char :=
  match cell.glyph with
  | .blank => some ' '
  | .char c => some c
  | .tail => none

end Cell

end TerminalSession
