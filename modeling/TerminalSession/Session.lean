import TerminalSession.Engine.Basic
import TerminalSession.Layout
import TerminalSession.Terminal.Basic

/-!
# Sessions

The record of one session on a terminal: how the terminal is shared out, the windows behind it, and
the modes and states that belong to it. Only a screen makes and changes sessions.
-/

namespace TerminalSession

/-- Where a screen is in its life. -/
inductive Phase
  /-- No session has been created yet. -/
  | uncreated
  | alive
  /-- The terminal is given back, and the windows are kept. -/
  | suspended
  | destroyed
  deriving DecidableEq, Repr, Inhabited

/-- How input and output are processed. -/
structure InputModes where
  autoCr : Bool := true
  rawInput : Bool := false
  rawOutput : Bool := false
  cbreak : Bool := true
  echo : Bool := true
  saveKeyModifiers : Bool := false
  returnKeyModifiers : Bool := false
  deriving DecidableEq, Repr, Inhabited

/-- The last known place of the mouse and state of its buttons; before the first event the place
is -1. -/
structure Mouse where
  x : Int := -1
  y : Int := -1
  leftPressed : Bool := false
  middlePressed : Bool := false
  rightPressed : Bool := false
  changes : Nat := 0
  deriving DecidableEq, Repr, Inhabited

/-- The window of a reserved line. -/
structure ReservedWindow where
  side : Side
  window : WindowId
  deriving DecidableEq, Repr, Inhabited

/-- The windows of a session. -/
structure WindowSet where
  /-- The main content. -/
  display : WindowId
  /-- What is on the terminal. -/
  physical : WindowId
  /-- The last frame that was rendered. -/
  snapshot : WindowId
  /-- The reserved lines, in the order in which they were asked for. -/
  reserved : List ReservedWindow := []
  /-- The strip of soft labels. -/
  strip : Option WindowId := none
  deriving DecidableEq, Repr

namespace WindowSet

/-- The windows an application draws into, in the order in which they are painted. -/
def visible (ws : WindowSet) : List WindowId :=
  ws.reserved.map ReservedWindow.window ++ [ws.display] ++ ws.strip.toList

def count (ws : WindowSet) : Nat := 3 + ws.reserved.length + ws.strip.toList.length

/-- All windows, in the order in which they are given up. -/
def all (ws : WindowSet) : List WindowId :=
  ws.strip.toList ++ ws.reserved.map ReservedWindow.window ++
    [ws.display, ws.physical, ws.snapshot]

theorem length_all (ws : WindowSet) : ws.all.length = ws.count := by
  simp only [all, count, List.length_append, List.length_map, List.length_cons, List.length_nil]
  omega

theorem perm_all (ws : WindowSet) : ws.all.Perm (ws.visible ++ [ws.physical, ws.snapshot]) := by
  have hall : ws.all = ws.strip.toList ++
      (ws.reserved.map ReservedWindow.window ++ [ws.display]) ++ [ws.physical, ws.snapshot] := by
    simp [all]
  rw [hall, visible]
  exact (List.perm_append_comm).append_right _

end WindowSet

/-- A session on a terminal. -/
structure Session where
  /-- Whether the session holds the terminal. -/
  alive : Bool := true
  /-- Whether the windows fit the layout; a resize that fails half way ends that for good. -/
  consistent : Bool := true
  layout : Layout
  windows : WindowSet
  modes : InputModes := {}
  /-- How visible the cursor is: 0 hidden, 1 normal, 2 very visible. -/
  visibility : Nat := 1
  delayTenths : Nat := 0
  lineColor : Option Int := none
  preserve : Bool
  /-- Whether the terminal may have another size than the layout. -/
  resized : Bool := false
  /-- The shape the cursor had before. -/
  cursorBefore : CursorShape
  description : String
  mouse : Mouse := {}
  deriving DecidableEq, Repr

end TerminalSession
