import TerminalSession.Screen.Basic

/-!
# Resizing a session

`resize` adapts a session to another size of its terminal. A size that the terminal cannot be
shared out at leaves layout and windows as they are and is remembered, so that a later call can
catch up. If a window cannot be changed, some of them may already have their new size, and the
session is of no further use.
-/

namespace TerminalSession

namespace Screen

variable {T E : Type} [Terminal T] [WindowEngine E]

def place (id : WindowId) (area : Rect) : Action (Screen T E) WindowError Unit := do
  edit id (.resize area.rows area.cols)
  edit id (.move area.top area.left)

/-- Gives the label strip its new place and size and draws it again. -/
def placeStrip (windows : WindowSet) (layout : Layout) : Action (Screen T E) WindowError Unit :=
  match windows.strip, layout.stripTop with
  | some window, some top => do
    place window ⟨top, 0, layout.strip.rows, layout.terminalCols⟩
    modify fun s => { s with labels := s.labels.layOut layout.terminalCols }
    drawLabels
  | _, _ => pure ()

/-- Gives every window of a session its place and size in a layout. -/
def rearrange (windows : WindowSet) (layout : Layout) : Action (Screen T E) WindowError Unit := do
  edit windows.physical (.resize layout.terminalRows layout.terminalCols)
  place windows.display ⟨layout.displayTop, 0, layout.usableRows, layout.usableCols⟩
  edit windows.snapshot (.resize layout.terminalRows layout.terminalCols)
  placeStrip windows layout
  (windows.reserved.zip layout.reserved).forM fun (reserved, line) =>
    place reserved.window ⟨line.row, 0, 1, layout.terminalCols⟩
  edit windows.snapshot .erase
  edit windows.physical (.setClear true)
  edit windows.physical .markDirty
  edit windows.display .markDirty

/-- The layout of a session at the present size of the terminal. -/
def relayOut (session : Session) : Action (Screen T E) ScreenError Layout := do
  let (rows, cols) ← measure
  match Layout.allocate rows cols session.layout.sides session.layout.strip with
  | .ok layout => return layout
  | .error cause => throw (.ofLayout cause)

/-- Asks the terminal for a size. -/
def requestSize (rows cols : Nat) : Action (Screen T E) ScreenError Unit := do
  if rows < 2 ∨ cols < 2 then throw (.terminalTooSmall rows cols)
  (onTerminal (Terminal.resize rows cols)).mapError .resizeUnsupported

/-- Adapts a session to the present size of the terminal. -/
def follow (session : Session) : Action (Screen T E) ScreenError Session := do
  match ← (relayOut session).attempt with
  | .error cause =>
    modify reportResize
    report (.layoutKept cause)
    throw cause
  | .ok layout =>
    match ← (rearrange session.windows layout).attempt with
    | .error cause =>
      modify fun s =>
        { s with
          session := some { session with alive := false, consistent := false }
          phase := .suspended }
      report (.resizeFailed layout.terminalRows layout.terminalCols cause)
      throw (.bufferAllocation cause)
    | .ok () =>
      let session := { session with layout, resized := false }
      modify ({ · with session := some session })
      report (.resized layout.terminalRows layout.terminalCols layout.usableRows)
      return session

/-- Adapts the session to another size. The size 0 by 0 stands for the one the terminal has now;
any other is first asked of the terminal, which may grant something else. -/
def resize (rows cols : Nat) : Action (Screen T E) ScreenError Session := do
  report (.resizing rows cols)
  if (← get).phase != .alive then throw .noActiveSession
  if rows ≠ 0 ∨ cols ≠ 0 then requestSize rows cols
  let some session := (← get).session | throw .noActiveSession
  follow session

end Screen

end TerminalSession
