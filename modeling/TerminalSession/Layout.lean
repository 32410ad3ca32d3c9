/-!
# Layout

How the rows of a terminal are shared out: single reserved lines at the top and at the bottom, a
strip of soft labels, and the display, which gets what is left.

`allocate` serves the reserved lines in order. Lines at the top stack downward from row 0, lines at
the bottom stack upward from the bottom edge. A strip at the bottom takes the last rows of the
terminal, and the bottom edge lies above it; a strip at the top follows the lines at the top.
-/

namespace TerminalSession

/-- The edge of the terminal that something is attached to. -/
inductive Side
  | top
  | bottom
  deriving DecidableEq, Repr, Inhabited

namespace Side

def name : Side → String
  | .top => "top"
  | .bottom => "bottom"

def ofName? (name : String) : Option Side := [Side.top, .bottom].find? (·.name == name)

theorem ofName?_name (side : Side) : ofName? side.name = some side := by
  cases side <;> rfl

end Side

/-- How tall the strip of soft labels is, and where it goes. -/
structure StripPlacement where
  rows : Nat := 0
  anchor : Side := .bottom
  deriving DecidableEq, Repr, Inhabited

/-- The row that a reserved line got. -/
structure ReservedLine where
  side : Side
  row : Nat
  deriving DecidableEq, Repr, Inhabited

/-- A terminal shared out. -/
structure Layout where
  terminalRows : Nat
  terminalCols : Nat
  usableRows : Nat
  usableCols : Nat
  /-- The first row of the display. -/
  displayTop : Nat
  /-- The reserved lines, in the order in which they were asked for. -/
  reserved : List ReservedLine
  topCount : Nat
  bottomCount : Nat
  strip : StripPlacement
  /-- The first row of the strip, if there is one. -/
  stripTop : Option Nat
  deriving DecidableEq, Repr, Inhabited

/-- Why a terminal cannot be shared out: the display would be left with less than two rows or two
columns. -/
inductive LayoutError
  | tooSmall (rows cols : Nat)
  deriving DecidableEq, Repr

def LayoutError.message : LayoutError → String
  | .tooSmall rows cols => s!"usable area {rows}x{cols} is smaller than 2x2"

namespace Layout

def sides (l : Layout) : List Side := l.reserved.map ReservedLine.side

/-- The first row of the display and the row after its last. -/
def displayRows (l : Layout) : Nat × Nat := (l.displayTop, l.displayTop + l.usableRows)

def addsUp (l : Layout) : Bool :=
  l.terminalRows == l.usableRows + l.topCount + l.bottomCount + l.strip.rows

/-- Gives each line its row, where `top` is the next free row at the top and `edge` is the row
after the last free one at the bottom. -/
def reserve : List Side → Nat → Nat → List ReservedLine
  | [], _, _ => []
  | .top :: sides, top, edge => ⟨.top, top⟩ :: reserve sides (top + 1) edge
  | .bottom :: sides, top, edge => ⟨.bottom, edge - 1⟩ :: reserve sides top (edge - 1)

/-- The row after the last one that lines at the bottom may take. -/
def bottomEdge (rows : Nat) (strip : StripPlacement) : Nat :=
  match strip.anchor with
  | .bottom => rows - strip.rows
  | .top => rows

/-- Shares out a terminal of `rows` by `cols` cells among reserved lines, strip and display. -/
def allocate (rows cols : Nat) (sides : List Side) (strip : StripPlacement) :
    Except LayoutError Layout :=
  let topCount := sides.count .top
  let usable := rows - (sides.length + strip.rows)
  if usable < 2 ∨ cols < 2 then .error (.tooSmall usable cols)
  else
    let stripTop :=
      if strip.rows = 0 then none
      else match strip.anchor with
        | .bottom => some (bottomEdge rows strip)
        | .top => some topCount
    .ok {
      terminalRows := rows
      terminalCols := cols
      usableRows := usable
      usableCols := cols
      displayTop := match strip.anchor with
        | .bottom => topCount
        | .top => topCount + strip.rows
      reserved := reserve sides 0 (bottomEdge rows strip)
      topCount
      bottomCount := sides.count .bottom
      strip
      stripTop }

theorem length_reserve (sides : List Side) (top edge : Nat) :
    (reserve sides top edge).length = sides.length := by
  induction sides generalizing top edge with
  | nil => rfl
  | cons side sides ih => cases side <;> simp [reserve, ih]

theorem map_side_reserve (sides : List Side) (top edge : Nat) :
    (reserve sides top edge).map ReservedLine.side = sides := by
  induction sides generalizing top edge with
  | nil => rfl
  | cons side sides ih => cases side <;> simp [reserve, ih]

/-- A layout keeps the sides it was made for, in order. -/
theorem sides_of_allocate {rows cols : Nat} {sides : List Side} {strip : StripPlacement}
    {l : Layout} (h : allocate rows cols sides strip = .ok l) : l.sides = sides := by
  simp only [allocate] at h
  split at h
  · cases h
  · cases h
    exact map_side_reserve _ _ _

end Layout

end TerminalSession
