import TerminalSession.Terminal.Sequence

/-!
# Terminals driven by control sequences

A `Device` is the terminal itself: its size, whether it is in raw mode, and everything written to
it. A `Tty` drives a device and remembers three modes: the one found when the terminal was taken
over, the one to go back to when it is released, and the one to come back to afterwards.

A device can be lost, also in the middle of a call. While raw mode cannot be switched, only a
switch that would change nothing succeeds; while nothing can be written, what was to be written is
lost and the size is unknown.
-/

namespace TerminalSession

/-- A terminal device. -/
structure Device where
  rows : Nat
  cols : Nat
  /-- Whether input comes unprocessed. -/
  raw : Bool := false
  /-- Whether switching raw mode fails. -/
  modeLost : Bool := false
  /-- How many more switches of raw mode succeed, if switching is going to fail after that. -/
  switchesLeft : Option Nat := none
  /-- Whether writing fails. -/
  outputLost : Bool := false
  /-- How many more sequences are written, if writing is going to fail after that. -/
  writesLeft : Option Nat := none
  /-- Everything written so far. -/
  output : Array Sequence := #[]
  deriving DecidableEq, Repr

namespace Device

/-- Whether the next switch of raw mode fails. -/
def modeFails (d : Device) : Bool := d.modeLost || d.switchesLeft == some 0

/-- Whether the next write fails. -/
def writeFails (d : Device) : Bool := d.outputLost || d.writesLeft == some 0

/-- Switches raw mode on or off. A switch to the mode in force does nothing. -/
def setRaw (raw : Bool) : Action Device TerminalError Unit := do
  let d ← get
  if d.raw = raw then return
  if d.modeFails then throw (.io .noSuchDevice)
  set { d with raw, switchesLeft := d.switchesLeft.map (· - 1) }

def write (s : Sequence) : Action Device TerminalError Unit := do
  let d ← get
  if d.writeFails then throw (.io .noSpace)
  set { d with output := d.output.push s, writesLeft := d.writesLeft.map (· - 1) }

end Device

/-- A terminal driven by control sequences. -/
structure Tty where
  device : Device
  /-- Whether the alternate screen is used. -/
  alternateScreen : Bool
  isOpen : Bool := false
  cursor : CursorShape := .default
  /-- The raw mode found when the terminal was last taken over. -/
  entryRaw : Bool := false
  /-- The raw mode to go back to on release. -/
  shellRaw : Bool := false
  /-- The raw mode to enter on taking over. -/
  programRaw : Bool := true
  /-- What has been reported and not collected. -/
  events : Array TerminalEvent := #[]
  deriving DecidableEq, Repr

namespace Tty

def report (event : TerminalEvent) (t : Tty) : Tty := { t with events := t.events.push event }

def onDevice {α : Type} (x : Action Device TerminalError α) : Action Tty TerminalError α :=
  .zoom Tty.device (fun device t => { t with device }) x

def write (sequences : List Sequence) : Action Tty TerminalError Unit :=
  sequences.forM fun s => onDevice (Device.write s)

/-- Writes sequences as far as possible. Each is tried, also after a failure. -/
def tryWrite (sequences : List Sequence) : Action Tty TerminalError Unit :=
  sequences.forM fun s => discard (onDevice (Device.write s)).attempt

/-- What takes the screen over. -/
def entering (t : Tty) : List Sequence :=
  (if t.alternateScreen then [.enterAlternateScreen] else []) ++ [.disableWrap]

/-- What gives the screen back. -/
def leaving (t : Tty) : List Sequence :=
  [.reset, .reset, .showCursor, .enableWrap] ++
    if t.alternateScreen then [.leaveAlternateScreen] else []

/-- Switches to the program's mode and takes the screen over. -/
def enter : Action Tty TerminalError Unit := do
  onDevice (Device.setRaw (← get).programRaw)
  write (← get).entering
  modify ({ · with isOpen := true })

/-- The size of the device in one direction; 0 if it cannot be found out. -/
def measure (size : Device → Nat) : StateM Tty Int := do
  let t ← get
  if t.device.writeFails then
    set (t.report (.sizeUnknown .notFound))
    return 0
  return size t.device

instance : Terminal Tty where
  acquire args := do
    modify fun t => t.report (.opening args t.alternateScreen)
    if (← get).isOpen then throw (.unavailable .alreadyOpen)
    modify fun t => { t with entryRaw := t.device.raw }
    enter
  reacquire := do
    modify (report .reopening)
    if (← get).isOpen then return
    enter
  release := do
    let t ← get
    if !t.isOpen then return
    set { t with isOpen := false }
    tryWrite t.leaving
    onDevice (Device.setRaw t.shellRaw)
  rows := measure Device.rows
  columns := measure Device.cols
  resize rows cols := do
    match ← (write [.resize rows cols]).attempt with
    | .ok () => return
    | .error (.io cause) =>
      modify (report (.sizeNotSet cause))
      throw .resizeUnsupported
    | .error _ => throw .resizeUnsupported
  saveShellMode t := { t with shellRaw := t.entryRaw }
  saveProgramMode t := if t.isOpen then { t with programRaw := t.device.raw } else t
  cursorShape := Tty.cursor
  setCursorShape shape := do
    write [.cursorShape shape]
    modify ({ · with cursor := shape })
  systemName _ := "linux"
  events := Tty.events
  forgetEvents t := { t with events := #[] }

/-- Lets go of the terminal for good: it is released if it is still held, and a failure to do so
is nobody's business any more. -/
def drop (t : Tty) : Tty := ((Terminal.release : Action Tty TerminalError Unit).exec t).2

end Tty

end TerminalSession
