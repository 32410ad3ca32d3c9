import TerminalSession.Cell
import TerminalSession.Text.Blank
import TerminalSession.Window.Damage

/-!
# Windows

A window is a rectangle of cells with an origin on the terminal, a cursor, the attributes it writes
and erases with, and a record of the lines that have changed since it was last drawn.

Cells are described place by place through `cell?`, which is `none` outside the grid; the lemmas
under an operation say what it does to that view. Writing never wraps: the text that does not fit
on its line is dropped.
-/

namespace TerminalSession

/-- A place and a size on the terminal, in cells. -/
structure Rect where
  top : Nat
  left : Nat
  rows : Nat
  cols : Nat
  deriving DecidableEq, Repr, Inhabited

/-- The last row a rectangle covers; the first one if it covers none. -/
def Rect.bottom (r : Rect) : Nat := r.top + (r.rows - 1)

/-- The array of length `n` that agrees with `a` where `a` has elements and holds `fill`
elsewhere. -/
def fit {α : Type} (a : Array α) (n : Nat) (fill : α) : Array α :=
  Array.ofFn (n := n) fun i => a.getD i fill

@[simp] theorem size_fit {α : Type} (a : Array α) (n : Nat) (fill : α) :
    (fit a n fill).size = n := by
  simp [fit]

theorem getElem?_fit {α : Type} (a : Array α) (n : Nat) (fill : α) (i : Nat) :
    (fit a n fill)[i]? = if i < n then some (a[i]?.getD fill) else none := by
  by_cases h : i < n <;> simp [fit, h]

abbrev Line : Type := Array Cell

/-- A window. -/
structure Window where
  /-- The terminal row of the first line. -/
  top : Nat
  /-- The terminal column of the first cell of each line. -/
  left : Nat
  cols : Nat
  lines : Array Line
  /-- What writing and erasing draw with. -/
  attrs : Attrs := {}
  cursorRow : Nat := 0
  cursorCol : Nat := 0
  /-- The lines that have changed. -/
  damage : Damage := {}
  /-- Whether every line is to be drawn again. -/
  full : Bool := true
  /-- Whether the terminal is to be wiped before the window is drawn again. -/
  clear : Bool := false
  deriving DecidableEq, Repr, Inhabited

namespace Window

/-- A new window: all blank, and all of it to be drawn. -/
def blank (area : Rect) : Window where
  top := area.top
  left := area.left
  cols := area.cols
  lines := Array.replicate area.rows (Array.replicate area.cols {})

def rows (w : Window) : Nat := w.lines.size

def area (w : Window) : Rect where
  top := w.top
  left := w.left
  rows := w.rows
  cols := w.cols

def cellCount (w : Window) : Nat := w.lines.size * w.cols

def cell? (w : Window) (row col : Nat) : Option Cell := w.lines[row]?.bind (·[col]?)

/-- Has every line drawn again. -/
def markAll (w : Window) : Window := { w with full := true }

/-- Forgets all damage. -/
def markClean (w : Window) : Window := { w with damage := {}, full := false }

/-- Whether a line waits to be drawn. -/
def isDirty (w : Window) (line : Nat) : Bool := w.full || w.damage.contains line

def isDamaged (w : Window) : Bool := w.full || !w.damage.isEmpty

/-- Gives a window a new size. Cells inside both sizes stay, the others come up blank, and the
cursor is brought inside. -/
def resize (w : Window) (rows cols : Nat) : Window where
  top := w.top
  left := w.left
  cols := cols
  lines := (fit w.lines rows #[]).map fun line => fit line cols {}
  attrs := w.attrs
  cursorRow := min w.cursorRow (rows - 1)
  cursorCol := min w.cursorCol (cols - 1)
  damage := w.damage
  full := true
  clear := w.clear

/-- Moves the origin. A window that stays where it was is not drawn again. -/
def move (w : Window) (top left : Nat) : Window :=
  if w.top = top ∧ w.left = left then w else { w with top, left, full := true }

/-- Blanks every cell and puts the cursor at the first one. -/
def erase (w : Window) : Window :=
  { w with
    lines := w.lines.map fun line => line.map fun _ => Cell.blank w.attrs
    cursorRow := 0
    cursorCol := 0
    full := true }

def blankFrom (attrs : Attrs) (col : Nat) (line : Line) : Line :=
  line.mapIdx fun x cell => if x < col then cell else Cell.blank attrs

/-- Blanks the rest of the cursor's line and every line below it. -/
def eraseBelow (w : Window) : Window :=
  { w with
    lines := w.lines.mapIdx fun row line =>
      if row < w.cursorRow then line
      else blankFrom w.attrs (if row = w.cursorRow then w.cursorCol else 0) line
    damage := w.damage.mark w.cursorRow w.lines.size }

/-- Puts one character into a line, with a tail behind it if it takes two columns. -/
def putChar (attrs : Attrs) (line : Line) (col : Nat) (c : Char) : Line :=
  let line := line.setIfInBounds col { glyph := .char c, attrs }
  if columns c = 2 then line.setIfInBounds (col + 1) { glyph := .tail, attrs } else line

/-- Writes a text into a line of `cols` columns from column `col` on, up to the first character
that does not fit; characters without width are passed over. Answers the line and the column after
the last character written. -/
def putChars (attrs : Attrs) (cols : Nat) : List Char → Nat → Line → Line × Nat
  | [], col, line => (line, col)
  | c :: text, col, line =>
    if columns c = 0 then putChars attrs cols text col line
    else if cols < col + columns c then (line, col)
    else putChars attrs cols text (col + columns c) (putChar attrs line col c)

/-- Writes a text at a place. The cursor goes behind it, or onto the last column. Nothing happens
on a line that the window does not have. -/
def putText (w : Window) (row col : Nat) (text : String) : Window :=
  match w.lines[row]? with
  | none => w
  | some line =>
    let (line, stop) := putChars w.attrs w.cols text.toList col line
    { w with
      lines := w.lines.setIfInBounds row line
      cursorRow := row
      cursorCol := min stop (w.cols - 1)
      damage := w.damage.mark row (row + 1) }

def lineText (w : Window) (row : Nat) : String :=
  String.ofList (trimEnd ((w.lines[row]?.getD #[]).toList.filterMap Cell.shown?))

end Window

end TerminalSession
