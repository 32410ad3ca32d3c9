import TerminalSession.Engine.Buffers
import TerminalSession.Session
import TerminalSession.Sink

/-!
# Painting

Brings a terminal up to date with the windows of a session. Only dirty lines are written. If the
physical window asks for a clear, the terminal is wiped first and every visible window is drawn
whole.

A line is written as runs of neighbouring cells with equal attributes: the attributes from scratch,
then the characters of the run. A window counts as clean once all of it is written, so a paint that
fails loses no damage.

The places of lines and of the cursor are added up without bounds. `Arithmetic.paint` is the same
paint in words of 16 bits.
-/

namespace TerminalSession

namespace Attrs

/-- The sequences that switch to one of the eight styles each, for the styles in force. -/
def styleSequences (s : Styles) : List Sequence :=
  [(s.bold, Sequence.bold), (s.dim, .dim), (s.italic, .italic), (s.underline, .underline),
    (s.blink, .blink), (s.inverse, .inverse), (s.hidden, .hidden),
    (s.strikethrough, .strikethrough)].filterMap fun (on, sequence) =>
      if on then some sequence else none

/-- The sequences that have text drawn with some attributes, whatever was in force before. -/
def sequences (a : Attrs) : List Sequence :=
  .reset :: styleSequences a.styles ++
    (if a.fg = .default then [] else [.foreground a.fg]) ++
    (if a.bg = .default then [] else [.background a.bg])

end Attrs

/-- What a line shows: its characters with their attributes. -/
def shown (line : Line) : List (Attrs × Char) :=
  line.toList.filterMap fun cell => cell.shown?.map (cell.attrs, ·)

/-- Neighbouring characters with equal attributes, put together. -/
def runs : List (Attrs × Char) → List (Attrs × List Char)
  | [] => []
  | (attrs, c) :: rest =>
    match runs rest with
    | [] => [(attrs, [c])]
    | (attrs', chars) :: more =>
      if attrs = attrs' then (attrs, c :: chars) :: more
      else (attrs, [c]) :: (attrs', chars) :: more

def lineSequences (line : Line) : List Sequence :=
  (runs (shown line)).flatMap fun (attrs, chars) => attrs.sequences ++ [.text chars]

namespace Window

/-- The writing of a window: its dirty lines, each after a move to its first column. -/
def sequences (w : Window) : List Sequence :=
  w.lines.toList.zipIdx.flatMap fun (line, row) =>
    if w.isDirty row then .moveTo (w.top + row) w.left :: lineSequences line else []

end Window

/-- A paint under way. -/
structure Painting where
  sink : Sink
  buffers : Buffers
  deriving Repr

namespace Painting

def say (sequences : List Sequence) : Action Painting SinkError Unit :=
  .zoom Painting.sink (fun sink p => { p with sink }) (sequences.forM Sink.write)

def change {ε : Type} (id : WindowId) (f : Window → Window) : Action Painting ε Unit :=
  modify fun p => { p with buffers := p.buffers.modifyWindow id f }

/-- Writes what is dirty of a window, or all of it, and has it clean afterwards. -/
def paintWindow (whole : Bool) (id : WindowId) : Action Painting SinkError Unit := do
  if whole then change id Window.markAll
  if let some w := (← get).buffers.window? id then
    say w.sequences
    change id Window.markClean

def asksForClear (b : Buffers) (id : WindowId) : Bool := (b.window? id).any (·.clear)

end Painting

open Painting

/-- Brings the terminal up to date. The cursor is hidden meanwhile and ends at that of the
display. -/
def paint (windows : WindowSet) : Action Painting SinkError Unit := do
  say [.hideCursor]
  let whole := asksForClear (← get).buffers windows.physical
  if whole then say [.clearAll]
  windows.visible.forM (paintWindow whole)
  change windows.physical fun w => { w.markClean with clear := false }
  say [.reset, .reset]
  if let some display := (← get).buffers.window? windows.display then
    say [.moveTo (display.top + display.cursorRow) (display.left + display.cursorCol), .showCursor]

end TerminalSession
