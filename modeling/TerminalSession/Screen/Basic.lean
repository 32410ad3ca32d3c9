import TerminalSession.Config.Basic
import TerminalSession.Screen.Event
import TerminalSession.Session

/-!
# Screens

A screen is one terminal user interface: a terminal, an engine for its windows, its soft labels,
the reserved lines that wait for the next session, and at most one session.

    uncreated ──create──▶ alive ──suspend──▶ suspended
                          ▲  │ ◀──resume───────┘
                  resize ─┘  └──destroy──▶ destroyed ──create──▶ alive

The calls of a screen are actions on it. This module has the record itself and the calls that touch
neither terminal nor windows; `Create`, `Resize` and `Suspend` have the rest.
-/

namespace TerminalSession

/-- A reserved line that waits for a session. Once its window exists, `init` is run on the engine
with the window and the width of the terminal. -/
structure Registration (E : Type) where
  side : Side
  init : E → WindowId → Nat → E

/-- A screen on a terminal of type `T` with windows in an engine of type `E`. -/
structure Screen (T E : Type) where
  terminal : T
  engine : E
  config : Config := {}
  labels : SoftLabels := {}
  /-- The reserved lines for the next session, in the order in which they were asked for. -/
  pending : List (Registration E) := []
  session : Option Session := none
  phase : Phase := .uncreated
  /-- What has happened. -/
  events : Array ScreenEvent := #[]

namespace Screen

variable {T E ε α : Type}

/-- A screen with a configuration. Its soft labels, if enabled, have to be of a known format. -/
def new (terminal : T) (engine : E) (config : Config) : Except ScreenError (Screen T E) :=
  if config.labels.enabled then
    match SoftLabels.init {} config.labels.format with
    | .ok labels => .ok { terminal, engine, config, labels }
    | .error cause => .error (.softLabels cause)
  else .ok { terminal, engine, config }

/-- Whether the terminal may have another size than the layout. -/
def isResized (s : Screen T E) : Bool := s.session.any (·.resized)

/-- Whether there is a session that does not hold the terminal. -/
def isSuspended (s : Screen T E) : Bool := s.session.any (!·.alive)

def reportResize (s : Screen T E) : Screen T E :=
  { s with session := s.session.map ({ · with resized := true }) }

def setModes (s : Screen T E) (modes : InputModes) : Screen T E :=
  { s with session := s.session.map ({ · with modes }) }

def report (event : ScreenEvent) : Action (Screen T E) ε Unit :=
  modify fun s => { s with events := s.events.push event }

/-- Acts on the terminal and collects what it reports. -/
def onTerminal [Terminal T] (x : Action T ε α) : Action (Screen T E) ε α :=
  .ofFn fun s =>
    let (r, terminal) := x.exec s.terminal
    (r, { s with
      terminal := Terminal.forgetEvents terminal
      events := s.events ++ (Terminal.events terminal).map .terminal })

def onEngine (x : Action E ε α) : Action (Screen T E) ε α :=
  .zoom Screen.engine (fun engine s => { s with engine }) x

def edit [WindowEngine E] (id : WindowId) (e : Edit) : Action (Screen T E) WindowError Unit :=
  onEngine (WindowEngine.edit id e)

def drawLabels [WindowEngine E] : Action (Screen T E) WindowError Unit := do
  onEngine (← get).labels.draw

/-- Gives the terminal back. A failure to do so is only reported. -/
def releaseTerminal [Terminal T] : Action (Screen T E) ε Unit := do
  if let .error cause ← (onTerminal Terminal.release).attempt then
    report (.terminalNotReleased cause)

def initLabels (code : UInt8) : Action (Screen T E) ScreenError Unit := do
  let s ← get
  if s.session.isSome then throw .alreadyActive
  match s.labels.init code with
  | .ok labels => set { s with labels }
  | .error cause => throw (.softLabels cause)

/-- Changes the text of a label, counted from 1. Labels on display are drawn again. -/
def setLabel [WindowEngine E] (index : Nat) (text : String) (justify : Justify) :
    Action (Screen T E) ScreenError Unit := do
  let s ← get
  match s.labels.setLabel index text justify with
  | .ok labels => set { s with labels }
  | .error cause => throw (.softLabels cause)
  if s.session.isSome then drawLabels.mapError .bufferAllocation

def reserveLine (side : Side) (init : E → WindowId → Nat → E) :
    Action (Screen T E) ScreenError Unit := do
  let s ← get
  if maxReservedLines ≤ s.pending.length then throw .tooManyReservedLines
  let line : Registration E := { side, init }
  set { s with pending := s.pending ++ [line] }

/-- The largest number of rows or columns a terminal can report. -/
def maxDimension : Int := 65535

/-- The size of the terminal, if it is one that a session could have. -/
def measure [Terminal T] : Action (Screen T E) ScreenError (Nat × Nat) := do
  let rows ← onTerminal (monadLift (Terminal.rows (T := T)))
  let cols ← onTerminal (monadLift (Terminal.columns (T := T)))
  if rows ≤ 0 ∨ cols ≤ 0 ∨ maxDimension < rows ∨ maxDimension < cols then
    throw (.platformOpen (.invalidSize rows cols))
  if rows < 2 ∨ cols < 2 then throw (.terminalTooSmall rows.toNat cols.toNat)
  return (rows.toNat, cols.toNat)

end Screen

end TerminalSession
