import TerminalSession.Engine.Basic

/-!
# Windows in memory

The engine that keeps its windows in memory. A window's id is its place in `slots`, and a slot is
never used twice, so an id stays unknown once its window is gone. An optional budget caps the cells
of all windows together.

Every call is a step: a refused call leaves the engine as it was.
-/

namespace TerminalSession

/-- The windows of an engine, by id. -/
structure Buffers where
  /-- One slot for every window ever made, empty where the window is gone. -/
  slots : Array (Option Window) := #[]
  /-- How many cells the windows may hold together, if that is limited. -/
  budget : Option Nat := none
  deriving DecidableEq, Repr, Inhabited

namespace Buffers

def window? (b : Buffers) (id : WindowId) : Option Window := b.slots[id]?.join

/-- The windows with their ids, in the order of the ids. -/
def live (b : Buffers) : List (WindowId × Window) :=
  b.slots.toList.zipIdx.filterMap fun (slot, id) => slot.map (id, ·)

/-- The cells that a slot holds. -/
def slotCells (slot : Option Window) : Nat := (slot.map Window.cellCount).getD 0

def inUse (b : Buffers) : Nat := (b.slots.toList.map slotCells).foldr (· + ·) 0

def geometry? (b : Buffers) (id : WindowId) : Option Rect := (b.window? id).map Window.area

/-- Changes a window without asking whether the change is allowed. -/
def modifyWindow (b : Buffers) (id : WindowId) (f : Window → Window) : Buffers :=
  { b with slots := b.slots.modify id (·.map f) }

/-- Refuses to replace `releasing` cells by `requested` ones if that exceeds the budget. -/
def reserve (b : Buffers) (requested releasing : Nat) : Except WindowError Unit :=
  match b.budget with
  | none => pure ()
  | some budget =>
    let available := budget - (b.inUse - releasing)
    if available < requested then throw (.outOfMemory requested available) else pure ()

/-- Refuses a size without cells. -/
def checkSize (rows cols : Nat) : Except WindowError Unit :=
  if rows = 0 ∨ cols = 0 then throw (.invalidSize rows cols) else pure ()

def create (b : Buffers) (area : Rect) : Except WindowError (WindowId × Buffers) := do
  checkSize area.rows area.cols
  b.reserve (area.rows * area.cols) 0
  return (b.slots.size, { b with slots := b.slots.push (some (.blank area)) })

/-- Changes a window. Only a new size is subject to the budget. -/
def edit (b : Buffers) (id : WindowId) (e : Edit) : Except WindowError (Unit × Buffers) := do
  if let .resize rows cols := e then checkSize rows cols
  let some w := b.window? id | throw (.unknownWindow id)
  if let .resize rows cols := e then b.reserve (rows * cols) w.cellCount
  return ((), b.modifyWindow id (·.edit e))

def destroy (b : Buffers) (id : WindowId) : Except WindowError (Unit × Buffers) := do
  let some _ := b.window? id | throw (.unknownWindow id)
  return ((), { b with slots := b.slots.setIfInBounds id none })

instance : WindowEngine Buffers where
  create area := .ofStep (·.create area)
  edit id e := .ofStep (·.edit id e)
  destroy id := .ofStep (·.destroy id)

end Buffers

end TerminalSession
