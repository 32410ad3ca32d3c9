import TerminalSession.Terminal.Basic

/-!
# Headless terminals

A terminal without a device: its size is whatever it was last set to, and it keeps a record of the
calls it got. Failures can be arranged. A call named in `failures` fails before it is recorded;
with `refuses` set, taking the terminal over is recorded and then refused.
-/

namespace TerminalSession

/-- The calls that can be made to fail. -/
inductive HeadlessFailure
  | acquire
  | reacquire
  | release
  | resize
  | cursor
  deriving DecidableEq, Repr, Inhabited

def HeadlessFailure.name : HeadlessFailure → String
  | .acquire => "open"
  | .reacquire => "reopen"
  | .release => "close"
  | .resize => "resize"
  | .cursor => "cursor"

/-- A recorded call. -/
inductive HeadlessCall
  | acquire
  | reacquire
  | release
  | resize (rows cols : Nat)
  | saveShellMode
  | saveProgramMode
  | setCursorShape (shape : CursorShape)
  deriving DecidableEq, Repr

/-- A terminal in memory. -/
structure Headless where
  rows : Int
  cols : Int
  isOpen : Bool := false
  resizable : Bool := true
  /-- Whether taking the terminal over is refused. -/
  refuses : Bool := false
  /-- The largest size that is granted on request. -/
  sizeLimit : Option (Nat × Nat) := none
  cursor : CursorShape := .default
  calls : Array HeadlessCall := #[]
  /-- The arguments of every attempt to take the terminal over. -/
  arguments : Array (List String) := #[]
  /-- The calls that fail. -/
  failures : List HeadlessFailure := []
  deriving DecidableEq, Repr

namespace Headless

/-- Fails if a failure is arranged for the call. -/
def guardCall (which : HeadlessFailure) : Action Headless TerminalError Unit := do
  if which ∈ (← get).failures then throw (.io (.scripted which.name))

def record (call : HeadlessCall) (t : Headless) : Headless := { t with calls := t.calls.push call }

/-- Opens the terminal unless it refuses. -/
def takeOver : Action Headless TerminalError Unit := do
  if (← get).refuses then throw (.unavailable .refused)
  modify ({ · with isOpen := true })

/-- Sets the size to what is granted of a request. -/
def grant (rows cols : Nat) (t : Headless) : Headless :=
  match t.sizeLimit with
  | some (maxRows, maxCols) =>
    { t with rows := (min rows maxRows : Nat), cols := (min cols maxCols : Nat) }
  | none => { t with rows := rows, cols := cols }

instance : Terminal Headless where
  acquire args := do
    modify fun t => { t with arguments := t.arguments.push args }
    guardCall .acquire
    modify (record .acquire)
    takeOver
  reacquire := do
    guardCall .reacquire
    modify (record .reacquire)
    takeOver
  release := do
    guardCall .release
    modify (record .release)
    modify ({ · with isOpen := false })
  rows := return (← get).rows
  columns := return (← get).cols
  resize rows cols := do
    guardCall .resize
    modify (record (.resize rows cols))
    if !(← get).resizable then throw .resizeUnsupported
    modify (grant rows cols)
  saveShellMode := record .saveShellMode
  saveProgramMode := record .saveProgramMode
  cursorShape := Headless.cursor
  setCursorShape shape := do
    guardCall .cursor
    modify (record (.setCursorShape shape))
    modify ({ · with cursor := shape })
  systemName _ := "headless"
  events _ := #[]
  forgetEvents := id

end Headless

end TerminalSession
