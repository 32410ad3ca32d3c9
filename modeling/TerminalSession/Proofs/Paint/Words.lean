import Mathlib.Data.List.Basic
import TerminalSession.Proofs.Action.Renames
import TerminalSession.Proofs.Layout.Words
import TerminalSession.Proofs.Paint.Emission

/-!
# Paints in machine words

`paint` adds up the places of lines and of the cursor without bounds. A terminal counts its rows and
columns in words of 16 bits, and a sum may be too large for its word. Then either the program ends
there, or the highest bit of the sum is lost (`Arithmetic`). `Arithmetic.paint` is the same paint
with its sums made in one of these ways. Without bounds it is `paint` itself
(`Arithmetic.renames_paint`).
-/

namespace TerminalSession

open TerminalSession.Action

/-- A window that asks for nothing to be drawn. -/
def Window.calm (w : Window) : Window := { w.markClean with clear := false }

/-! ## Sums -/

/-- How places are added up. -/
inductive Arithmetic
  /-- Without bounds. -/
  | exact
  /-- In words of 16 bits, where a sum that does not fit is none. -/
  | checked
  /-- In words of 16 bits, of which a sum keeps the lowest ones. -/
  | wrapping
  deriving DecidableEq, Repr

/-- Why a paint ends before it is complete. -/
inductive PaintError
  | sink (cause : SinkError)
  /-- A sum does not fit its word. -/
  | overflow
  deriving DecidableEq, Repr

/-- Writes a sequence, if its place is known. -/
def Sink.utter : Option Sequence → Action Sink PaintError Unit
  | some s => .mapError .sink (write s)
  | none => throw .overflow

/-- Sequences whose places are all known are written. -/
theorem Sink.renames_writes (l : List Sequence) :
    Renames .sink (l.forM write) ((l.map some).forM utter) := by
  rw [show (l.map some).forM utter = l.forM fun s => utter (some s) from List.forM_map]
  exact .forM (fun _ _ => rfl) l

def Painting.utter (l : List (Option Sequence)) : Action Painting PaintError Unit :=
  .zoom Painting.sink (fun sink p => { p with sink }) (l.forM Sink.utter)

namespace Arithmetic

open Painting

variable (A : Arithmetic)

def sum? (a b : Nat) : Option Nat :=
  match A with
  | exact => some (a + b)
  | checked => Word.sum? 16 a b
  | wrapping => some (Word.narrow 16 (a + b))

/-- The writing of a line of a window, known by its number there. -/
def writing (w : Window) : Nat × Line → List (Option Sequence)
  | (i, line) => (A.sum? w.top i).map (.moveTo · w.left) :: (lineSequences line).map some

/-- The writing of a window. -/
def sequences (w : Window) : List (Option Sequence) :=
  w.lines.toList.zipIdx.flatMap fun (line, i) => if w.isDirty i then A.writing w (i, line) else []

/-- What brings the cursor to its place. -/
def homing (display : Option Window) : List (Option Sequence) :=
  match display with
  | some w =>
    [do return .moveTo (← A.sum? w.top w.cursorRow) (← A.sum? w.left w.cursorCol),
      some .showCursor]
  | none => []

/-- Writes what is dirty of a window, or all of it, and has it clean afterwards. -/
def paintWindow (whole : Bool) (id : WindowId) : Action Painting PaintError Unit := do
  if whole then change id Window.markAll
  if let some w := (← get).buffers.window? id then
    utter (A.sequences w)
    change id Window.markClean

/-- A paint after it is known whether everything is drawn. -/
def paintOpened (ws : WindowSet) (whole : Bool) : Action Painting PaintError Unit := do
  ws.visible.forM (A.paintWindow whole)
  change ws.physical Window.calm
  utter [some .reset, some .reset]
  utter (A.homing ((← get).buffers.window? ws.display))

/-- `paint` with its sums made in some way. -/
def paint (ws : WindowSet) : Action Painting PaintError Unit := do
  utter [some .hideCursor]
  let whole := asksForClear (← get).buffers ws.physical
  if whole then utter [some .clearAll]
  A.paintOpened ws whole

/-- What ends a paint. -/
def closing (display : Option Window) : List (Option Sequence) :=
  [some .reset, some .reset] ++ A.homing display

/-- What is written of a window. -/
def emission (whole : Bool) (b : Buffers) (id : WindowId) : List (Option Sequence) :=
  match b.window? id with
  | some w => A.sequences (if whole then w.markAll else w)
  | none => []

/-- All that a paint says. -/
def utterance (ws : WindowSet) (b : Buffers) : List (Option Sequence) :=
  (opening (asksForClear b ws.physical)).map some ++
    ws.visible.flatMap (A.emission (asksForClear b ws.physical) b) ++
    A.closing (b.window? ws.display)

/-! ## Without bounds -/

theorem renames_utter (l : List Sequence) : Renames .sink (say l) (utter (l.map some)) := by
  intro p
  simp only [utter, say, exec_zoom, Sink.renames_writes l p.sink]

theorem exact_sequences (w : Window) : exact.sequences w = w.sequences.map some := by
  rw [sequences, Window.sequences, List.map_flatMap]
  refine List.flatMap_congr fun (line, i) _ => ?_
  cases hdirty : w.isDirty i <;> simp [hdirty, writing, sum?]

theorem exact_homing (display : Option Window) :
    exact.homing display = (Painting.homing display).map some := by
  cases display <;> rfl

theorem exact_emission (whole : Bool) (b : Buffers) (id : WindowId) :
    exact.emission whole b id = (Painting.emission whole b id).map some := by
  rw [emission, Painting.emission]
  cases b.window? id with
  | none => rfl
  | some w => exact exact_sequences _

theorem exact_utterance (ws : WindowSet) (b : Buffers) :
    exact.utterance ws b = (opening (asksForClear b ws.physical) ++
      ws.visible.flatMap (Painting.emission (asksForClear b ws.physical) b) ++
      Painting.closing (b.window? ws.display)).map some := by
  have hbody : ws.visible.flatMap (exact.emission (asksForClear b ws.physical) b) =
      (ws.visible.flatMap (Painting.emission (asksForClear b ws.physical) b)).map some := by
    rw [List.map_flatMap]
    exact List.flatMap_congr fun id _ => exact_emission _ b id
  have hclosing : exact.closing (b.window? ws.display) =
      (Painting.closing (b.window? ws.display)).map some := by
    rw [closing, exact_homing, Painting.closing, List.map_append]
    rfl
  rw [utterance, hbody, hclosing, List.map_append, List.map_append]

theorem renames_paintWindow (whole : Bool) (id : WindowId) :
    Renames .sink (Painting.paintWindow whole id) (exact.paintWindow whole id) := by
  have hpaint : Renames .sink (Painting.paintWindow false id) (exact.paintWindow false id) := by
    refine .get_bind fun p => ?_
    cases p.buffers.window? id with
    | none => exact fun _ => rfl
    | some w =>
      dsimp only
      rw [exact_sequences]
      exact .bind (renames_utter _) fun _ => .modify _
  cases whole with
  | false => exact hpaint
  | true => exact .bind (.modify _) fun _ => hpaint

theorem renames_paintOpened (ws : WindowSet) (whole : Bool) :
    Renames .sink (Painting.paintOpened ws whole) (exact.paintOpened ws whole) := by
  refine .bind (.forM (renames_paintWindow whole) _) fun _ => .bind (.modify _) fun _ =>
    .bind (renames_utter [.reset, .reset]) fun _ => .get_bind fun p => ?_
  rw [exact_homing]
  cases p.buffers.window? ws.display with
  | none => exact fun _ => rfl
  | some w => exact renames_utter _

/-- **A paint that sums up without bounds is `paint`.** -/
theorem renames_paint (ws : WindowSet) :
    Renames .sink (TerminalSession.paint ws) (exact.paint ws) := by
  refine .bind (renames_utter [.hideCursor]) fun _ => .get_bind fun p => ?_
  dsimp only
  cases asksForClear p.buffers ws.physical with
  | false => exact renames_paintOpened ws false
  | true => exact .bind (renames_utter [.clearAll]) fun _ => renames_paintOpened ws true

end Arithmetic

end TerminalSession
