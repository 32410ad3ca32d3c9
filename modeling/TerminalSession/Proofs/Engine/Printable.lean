import TerminalSession.Proofs.Engine.Store
import TerminalSession.Proofs.Label.Drawing
import TerminalSession.Proofs.Paint.Lines

/-!
# What gets into the cells

A text is put into a line character by character, and characters without a width are passed over.
Control characters are such, so a cell is blank, a tail, or holds a character that can be printed
(`Cell.Printable`), whatever the texts are. Nothing that is done to an engine changes that
(`Buffers.Reaches.allPrintable`): not its calls, not changes made to a window directly, not labels
drawn, and not a paint.
-/

namespace TerminalSession

open TerminalSession.Action

/-- Whether a character is no control character and takes a place of its own. -/
def isPrintable (c : Char) : Bool := !isControl c && columns c != 0

theorem columns_of_isControl {c : Char} (h : isControl c = true) : columns c = 0 := by
  have hcode : c.toNat ≤ 0x1F ∨ 0x7F ≤ c.toNat := by
    simp only [isControl, inRanges, controlRanges, List.any_cons, List.any_nil, Bool.or_false,
      Bool.or_eq_true, Bool.and_eq_true, decide_eq_true_eq] at h
    omega
  have hprint : ¬ (0x20 ≤ c.toNat ∧ c.toNat ≤ 0x7E) := by omega
  rw [columns, if_neg (by simpa using hprint), h]
  rfl

theorem isPrintable_of_columns {c : Char} (h : columns c ≠ 0) : isPrintable c = true := by
  have hcontrol : isControl c = false := Bool.eq_false_iff.mpr fun hc => h (columns_of_isControl hc)
  simp [isPrintable, hcontrol, h]

/-- A cell that shows nothing, or one character that can be printed. -/
def Cell.Printable (cell : Cell) : Prop := ∀ c, cell.glyph = .char c → isPrintable c = true

namespace Window

variable {w : Window}

/-- Every cell can be printed. -/
def Printable (w : Window) : Prop := ∀ l ∈ w.lines, ∀ cell ∈ l, cell.Printable

theorem printable_blank (area : Rect) : (blank area).Printable :=
  cells_blank area fun _ hc => nomatch hc

theorem Printable.changes (h : w.Printable) (cs : List Change) : (w.changes cs).Printable := by
  refine forall_cells_changes (fun _ _ hc => nomatch hc) (fun _ _ hc => nomatch hc) ?_ h
  intro _ _ char _ hcolumns attrs c hc
  cases hc
  exact isPrintable_of_columns hcolumns

theorem Printable.edit (h : w.Printable) (e : Edit) : (w.edit e).Printable := h.changes [.edit e]

theorem Printable.edits (h : w.Printable) (es : List Edit) : (w.edits es).Printable := by
  rw [edits_eq_changes]
  exact h.changes _

end Window

namespace Buffers

variable {b b' : Buffers}

/-- Every cell of every window can be printed. -/
def AllPrintable (b : Buffers) : Prop := ∀ id w, b.window? id = some w → w.Printable

theorem allPrintable_empty (budget : Option Nat) : AllPrintable { budget } := by
  intro id w hw
  rw [window?_empty] at hw
  cases hw

namespace AllPrintable

theorem addAll (h : b.AllPrintable) {ws : List Window} (hws : ∀ w ∈ ws, w.Printable) :
    (b.addAll ws).AllPrintable := by
  intro id w hw
  rw [window?_addAll] at hw
  split at hw
  · exact h id w hw
  · exact hws w (List.mem_of_getElem? hw)

theorem bury (h : b.AllPrintable) (count : Nat) : (b.bury count).AllPrintable := by
  intro id w hw
  rw [window?_bury] at hw
  exact h id w hw

theorem discard (h : b.AllPrintable) (ids : List WindowId) : (b.discard ids).AllPrintable := by
  intro id w hw
  rw [window?_discard] at hw
  split at hw
  · cases hw
  · exact h id w hw

theorem modifyWindow (h : b.AllPrintable) (id : WindowId) {f : Window → Window}
    (hf : ∀ w, w.Printable → (f w).Printable) : (b.modifyWindow id f).AllPrintable := by
  intro id' w' hw'
  rw [window?_modifyWindow] at hw'
  split at hw'
  · obtain ⟨w, hw, rfl⟩ := Option.map_eq_some_iff.mp hw'
    exact hf w (h id' w hw)
  · exact h id' w' hw'

theorem changeAll (h : b.AllPrintable) (es : List (WindowId × Edit)) :
    (b.changeAll es).AllPrintable := by
  intro id w' hw'
  rw [window?_changeAll] at hw'
  obtain ⟨w, hw, rfl⟩ := Option.map_eq_some_iff.mp hw'
  exact (h id w hw).edits _

/-- However far a series of edits gets. -/
theorem performing (h : b.AllPrintable) {es : List (WindowId × Edit)} {r : Except WindowError Unit}
    (hb' : exec (performing es) b = (r, b')) : b'.AllPrintable := by
  cases r with
  | ok =>
    rw [of_performing_ok hb']
    exact h.changeAll es
  | error cause =>
    obtain ⟨done, -, rfl⟩ := of_performing_error hb'
    exact h.changeAll done

theorem call (h : b.AllPrintable) (c : EngineCall) : (exec (action c) b).2.AllPrintable := by
  rw [exec_action]
  cases b.refusal c with
  | some cause => exact h
  | none =>
    cases c with
    | create area =>
      intro id w (hw : (b.push (.blank area)).window? id = some w)
      rw [window?_push] at hw
      split at hw
      · cases hw
        exact Window.printable_blank area
      · exact h id w hw
    | edit id e => exact h.modifyWindow id fun w hw => hw.edit e
    | destroy id => exact h.discard [id]
    | geometry id => exact h

theorem draw (h : b.AllPrintable) (labels : SoftLabels) :
    (exec (labels.draw : Action Buffers WindowError Unit) b).2.AllPrintable := by
  rw [labels.draw_eq]
  exact h.performing rfl

/-- A paint changes no cells, not even if it fails. -/
theorem paint (h : b.AllPrintable) (sink : Sink) (ws : WindowSet) :
    (exec (paint ws) ⟨sink, b⟩).2.buffers.AllPrintable := by
  intro id w' hw'
  have hlines : ((exec (TerminalSession.paint ws) ⟨sink, b⟩).2.buffers.window? id).map Window.lines =
      (b.window? id).map Window.lines :=
    congrFun (Painting.paint_keeps Window.lines (fun _ _ _ _ => rfl) ws ⟨sink, b⟩) id
  rw [hw', Option.map_some] at hlines
  obtain ⟨w, hw, hlines⟩ := Option.map_eq_some_iff.mp hlines.symm
  intro l hl
  exact h id w hw l (hlines ▸ hl)

end AllPrintable

/-- What can be made of an engine: by its calls, by changes to a window in it, by drawing labels and
by paints, each of them successful or not. -/
inductive Reaches (b : Buffers) : Buffers → Prop
  | refl : Reaches b b
  | call {b' : Buffers} (h : Reaches b b') (c : EngineCall) : Reaches b (exec (action c) b').2
  | change {b' : Buffers} (h : Reaches b b') (id : WindowId) (c : Change) :
    Reaches b (b'.modifyWindow id (·.change c))
  | draw {b' : Buffers} (h : Reaches b b') (labels : SoftLabels) :
    Reaches b (exec (labels.draw : Action Buffers WindowError Unit) b').2
  | paint {b' : Buffers} (h : Reaches b b') (sink : Sink) (ws : WindowSet) :
    Reaches b (exec (paint ws) ⟨sink, b'⟩).2.buffers

theorem Reaches.allPrintable (h : b.Reaches b') (hb : b.AllPrintable) : b'.AllPrintable := by
  induction h with
  | refl => exact hb
  | call _ c ih => exact ih.call c
  | change _ id c ih => exact ih.modifyWindow id fun w hw => hw.changes [c]
  | draw _ labels ih => exact ih.draw labels
  | paint _ sink ws ih => exact ih.paint sink ws

end Buffers

end TerminalSession
