import TerminalSession.Screen.Suspend
import TerminalSession.Version

/-!
# Starting a session

`create` takes the terminal over, shares it out, makes the windows and runs the initializers of the
reserved lines. Windows are made one inside the other by `withWindow`, which gives a window back if
what follows fails, so a failure at any of them leaves none behind.
-/

namespace TerminalSession

namespace Screen

variable {T E α : Type} [Terminal T] [WindowEngine E]

/-- Makes a window and goes on with it. If that fails, the window is given back. -/
def withWindow (area : Rect) (use : WindowId → Action (Screen T E) WindowError α) :
    Action (Screen T E) WindowError α := do
  let id ← onEngine (WindowEngine.create area)
  (use id).onFailure fun s => (Action.exec (onEngine (WindowEngine.destroy id)) s).2

/-- Makes the window of the label strip, if the layout has one, and goes on with it. -/
def withStrip (layout : Layout) (use : Option WindowId → Action (Screen T E) WindowError α) :
    Action (Screen T E) WindowError α :=
  match layout.stripTop with
  | none => use none
  | some top => withWindow ⟨top, 0, layout.strip.rows, layout.terminalCols⟩ fun id => use (some id)

/-- Makes the windows of reserved lines and goes on with them. -/
def withReserved (cols : Nat) :
    List ReservedLine → (List ReservedWindow → Action (Screen T E) WindowError α) →
      Action (Screen T E) WindowError α
  | [], use => use []
  | line :: lines, use =>
    withWindow ⟨line.row, 0, 1, cols⟩ fun window =>
      withReserved cols lines fun windows => use (⟨line.side, window⟩ :: windows)

/-- What is on the terminal stays, so nothing of it is to be drawn again. -/
def preserveContent (physical display : WindowId) : Action (Screen T E) WindowError Unit := do
  edit physical .markClean
  edit display .markClean
  edit physical (.setClear false)
  edit display (.setClear false)

def placeLabels (window : WindowId) (cols : Nat) : Action (Screen T E) WindowError Unit := do
  modify fun s => { s with labels := { s.labels with window := some window }.layOut cols }
  drawLabels

def buildWindows (layout : Layout) : Action (Screen T E) WindowError WindowSet :=
  let screenArea : Rect := ⟨0, 0, layout.terminalRows, layout.terminalCols⟩
  withWindow screenArea fun physical =>
  withWindow screenArea fun snapshot => do
    edit snapshot (.setAttrs .sentinel)
    edit snapshot .erase
    withStrip layout fun strip =>
      withReserved layout.terminalCols layout.reserved fun reserved =>
      withWindow ⟨layout.displayTop, 0, layout.usableRows, layout.usableCols⟩ fun display => do
        edit display .eraseBelow
        if (← get).config.preserveScreen then preserveContent physical display
        else edit physical (.setClear true)
        if let some window := strip then placeLabels window layout.terminalCols
        return { display, physical, snapshot, reserved, strip }

/-- Shares the terminal out and makes the windows. -/
def build : Action (Screen T E) ScreenError (Layout × WindowSet) := do
  let (rows, cols) ← measure
  let s ← get
  let placement := s.config.stripPlacement s.labels.lineCount
  match Layout.allocate rows cols (s.pending.map Registration.side) placement with
  | .error cause => throw (.ofLayout cause)
  | .ok layout =>
    let windows ← (buildWindows layout).mapError .bufferAllocation
    return (layout, windows)

/-- Runs the initializers of the waiting lines, each with its own window; none waits afterwards. -/
def runInitializers (windows : WindowSet) (cols : Nat) (s : Screen T E) : Screen T E :=
  { s with
    engine := (s.pending.zip windows.reserved).foldl
      (fun engine (registration, reserved) => registration.init engine reserved.window cols)
      s.engine
    pending := [] }

/-- Gives the cursor the configured shape. A failure to do so is only reported. -/
def shapeCursor : Action (Screen T E) ScreenError Unit := do
  if let some shape := (← get).config.cursor then
    if let .error cause ← (onTerminal (Terminal.setCursorShape shape)).attempt then
      report (.cursorNotSet cause)

def begin (layout : Layout) (windows : WindowSet) : Action (Screen T E) ScreenError Session := do
  modify (runInitializers windows layout.terminalCols)
  let cursorBefore := Terminal.cursorShape (← get).terminal
  shapeCursor
  modify fun s => { s with terminal := Terminal.saveShellMode s.terminal }
  let s ← get
  let session : Session := {
    layout, windows, cursorBefore
    preserve := s.config.preserveScreen
    description :=
      programName ++ "|" ++ programName ++ " for " ++ Terminal.systemName s.terminal }
  set { s with session := some session, phase := .alive }
  report (.created layout.terminalRows layout.terminalCols layout.usableRows
    windows.reserved.length layout.strip.rows)
  return session

/-- Starts a session. A suspended one is destroyed first. -/
def create (args : List String) : Action (Screen T E) ScreenError Session := do
  report .creating
  match (← get).phase with
  | .alive => throw .alreadyActive
  | .suspended => destroy
  | .uncreated | .destroyed => pure ()
  (onTerminal (Terminal.acquire args)).mapError .platformOpen
  match ← build.attempt with
  | .error cause =>
    releaseTerminal
    modify ({ · with phase := .uncreated })
    report (.createFailed cause)
    throw cause
  | .ok (layout, windows) => begin layout windows

end Screen

end TerminalSession
