import TerminalSession.Proofs.Screen.Building
import TerminalSession.Proofs.Window.Shape

/-!
# What drawing the labels makes of a window

Drawing begins by blanking the window, and then writes at places that it names itself. So what it
leaves depends on the labels and on the size of the window, and on nothing that the window showed
before (`lines_drawn`). Labels that have been laid out have the columns of their format
(`fitsColumns_layOut`), whatever texts they are given afterwards.
-/

namespace TerminalSession

open TerminalSession.Action

namespace Window

variable {w w' : Window} {e : Edit} {es : List Edit}

/-- What writing into a window goes by and what it changes. -/
def canvas (w : Window) : Attrs × Nat × Array Line := (w.attrs, w.cols, w.lines)

/-- An edit at a place that it names itself does the same to equal canvases. -/
theorem canvas_edit_congr (he : e ≠ .eraseBelow) (h : w.canvas = w'.canvas) :
    (w.edit e).canvas = (w'.edit e).canvas := by
  simp only [canvas, Prod.mk.injEq] at h ⊢
  obtain ⟨hattrs, hcols, hlines⟩ := h
  have hmove (w : Window) (top left : Nat) : (w.move top left).canvas = w.canvas := by
    unfold move
    split <;> rfl
  cases e with
  | eraseBelow => exact absurd rfl he
  | move top left =>
    have hboth := (hmove w top left).trans (.trans (by simp [canvas, *]) (hmove w' top left).symm)
    simpa only [edit, canvas, Prod.mk.injEq] using hboth
  | putText row col text =>
    simp only [edit, putText, hlines, hcols, hattrs]
    split <;> simp [*]
  | _ => simp [edit, resize, erase, markAll, markClean, *]

theorem canvas_edits_congr (hes : ∀ e ∈ es, e ≠ .eraseBelow) (h : w.canvas = w'.canvas) :
    (w.edits es).canvas = (w'.edits es).canvas := by
  induction es generalizing w w' with
  | nil => exact h
  | cons e es ih =>
    exact ih (fun e' he => hes e' (.tail _ he)) (canvas_edit_congr (hes e (.head _)) h)

theorem rectangular_edits (h : w.Rectangular) (es : List Edit) : (w.edits es).Rectangular := by
  rw [edits_eq_changes]
  exact rectangular_changes h _

/-- A window that is erased shows nothing but its size. -/
theorem lines_erase (h : w.Rectangular) :
    w.erase.lines = .replicate w.rows (.replicate w.cols (.blank w.attrs)) := by
  refine Array.ext (by simp [erase, rows]) fun i hi hi' => ?_
  have hline : i < w.lines.size := by simpa [erase] using hi
  have hsize := h w.lines[i] (Array.getElem_mem hline)
  simp only [erase, Array.getElem_map, Array.getElem_replicate]
  exact Array.ext (by simp [hsize]) fun j hj hj' => by simp

end Window

namespace SoftLabels

variable {s labels : SoftLabels} {format : LabelFormat} {w w' : Window}

theorem ne_eraseBelow_of_mem_drawing {e : Edit} (h : e ∈ s.drawing format) : e ≠ .eraseBelow := by
  rintro rfl
  simp only [drawing, List.mem_append, List.mem_cons, List.not_mem_nil, or_false, reduceCtorEq,
    false_or] at h
  split at h
  · cases h
  · obtain ⟨⟨label, i⟩, -, h⟩ := List.mem_flatMap.mp h
    simp only [labelEdits] at h
    split at h <;> simp at h

theorem area_drawn (s : SoftLabels) (w : Window) : (w.edits s.drawn).area = w.area :=
  Window.area_edits_of_not_isPlacing fun _ => not_isPlacing_of_mem_drawn

/-- **Drawing depends on the size alone.** Drawing the labels leaves the same lines in any two
windows of one size. -/
theorem lines_drawn (hw : w.Rectangular) (hw' : w'.Rectangular) (hrows : w.rows = w'.rows)
    (hcols : w.cols = w'.cols) (hformat : s.format = some format) :
    (w.edits s.drawn).lines = (w'.edits s.drawn).lines := by
  have hdrawn : s.drawn = s.drawing format := by rw [drawn, hformat]
  have herased : ((w.edit (.setAttrs .inverse)).edit .erase).canvas =
      ((w'.edit (.setAttrs .inverse)).edit .erase).canvas := by
    have hlines := Window.lines_erase (w := w.edit (.setAttrs .inverse)) (hw.change (.edit _))
    have hlines' := Window.lines_erase (w := w'.edit (.setAttrs .inverse)) (hw'.change (.edit _))
    simp only [Window.canvas, Window.edit] at hlines hlines' ⊢
    rw [hlines, hlines']
    simp only [Window.rows] at hrows ⊢
    rw [hrows, hcols]
    rfl
  have hnoBelow : ∀ e ∈ (s.drawing format).drop 2, e ≠ .eraseBelow :=
    fun e he => ne_eraseBelow_of_mem_drawing (List.mem_of_mem_drop he)
  have hrest := Window.canvas_edits_congr hnoBelow herased
  rw [hdrawn]
  exact congrArg (fun c => c.2.2) hrest

/-- Labels are drawn into their window, if it exists. -/
theorem exec_draw {b : Buffers} {id : WindowId} (hwindow : s.window = some id)
    (hw : b.window? id = some w) :
    ∃ b', exec s.draw b = (.ok (), b') ∧ b'.window? id = some (w.edits s.drawn) := by
  have hredrawn : s.redrawn = s.drawn.map (id, ·) := by rw [redrawn, hwindow]
  refine ⟨b.modifyWindow id (·.edits s.drawn), ?_, ?_⟩
  · rw [draw_eq, Buffers.exec_performing (fun p => not_isResize_of_mem_redrawn), hredrawn,
      Buffers.changeAll_map]
    intro p hp
    rw [hredrawn] at hp
    obtain ⟨e, -, rfl⟩ := List.mem_map.mp hp
    rw [hw]
    rfl
  · rw [Buffers.window?_modifyWindow, if_pos rfl, hw, Option.map_some]

/-! ## Laying out -/

/-- There are as many labels as the format has. -/
def Complete (s : SoftLabels) : Prop :=
  ∀ format, s.format = some format → s.labels.size = format.labelCount

/-- The labels have the columns that their format gives them on a strip of so many columns. -/
def FitsColumns (s : SoftLabels) (cols : Nat) : Prop :=
  ∀ format, s.format = some format →
    s.starts = format.starts cols ∧ s.width = format.textWidth cols

theorem complete_of_size (hformat : s.format = some format)
    (hcount : s.labels.size = format.labelCount) : s.Complete := by
  intro format' hformat'
  cases hformat.symm.trans hformat'
  exact hcount

theorem Complete.congr (h : s.Complete) (hformat : labels.format = s.format)
    (hsize : labels.labels.size = s.labels.size) : labels.Complete := by
  intro format hf
  rw [hsize]
  exact h format (hformat ▸ hf)

theorem complete_init {code : UInt8} (h : s.init code = .ok labels) : labels.Complete := by
  unfold init at h
  split at h <;> cases h
  intro format hformat
  cases hformat
  simp

theorem complete_ofConfig (config : Config) : (ofConfig config).Complete := by
  unfold ofConfig
  split
  · split
    · exact complete_init ‹_›
    · exact fun _ h => nomatch h
  · exact fun _ h => nomatch h

theorem size_layOut (s : SoftLabels) (cols : Nat) :
    (s.layOut cols).labels.size = s.labels.size := by
  unfold layOut
  split
  · rfl
  · exact Array.size_mapIdx

theorem Complete.layOut (h : s.Complete) (cols : Nat) : (s.layOut cols).Complete :=
  h.congr (s.format_layOut cols) (s.size_layOut cols)

/-- Complete labels get the columns of their format when they are laid out. -/
theorem fitsColumns_layOut (h : s.Complete) (cols : Nat) : (s.layOut cols).FitsColumns cols := by
  intro format hformat
  rw [format_layOut] at hformat
  have hsize := h format hformat
  rw [layOut, hformat]
  refine ⟨List.ext_getElem ?_ fun i hi hi' => ?_, rfl⟩
  · simp [starts, LabelFormat.length_starts, hsize]
  · simp [starts, List.getD_eq_getElem?_getD, hi']

/-- A new text leaves the labels where they are. -/
theorem of_setLabel_ok {index : Nat} {text : String} {justify : Justify}
    (h : s.setLabel index text justify = .ok labels) :
    labels.labels.size = s.labels.size ∧ labels.starts = s.starts ∧ labels.width = s.width := by
  unfold setLabel at h
  split at h
  · cases h
  split at h <;> cases h
  refine ⟨Array.size_modify .., List.ext_getElem? fun i => ?_, rfl⟩
  simp only [starts, List.getElem?_map, Array.getElem?_toList, Array.getElem?_modify]
  split
  · cases s.labels[i]? <;> rfl
  · rfl

theorem Complete.setLabel {index : Nat} {text : String} {justify : Justify} (hs : s.Complete)
    (h : s.setLabel index text justify = .ok labels) : labels.Complete :=
  hs.congr (of_setLabel h).2 (of_setLabel_ok h).1

theorem FitsColumns.setLabel {index cols : Nat} {text : String} {justify : Justify}
    (hs : s.FitsColumns cols) (h : s.setLabel index text justify = .ok labels) :
    labels.FitsColumns cols := by
  obtain ⟨-, hstarts, hwidth⟩ := of_setLabel_ok h
  intro format hformat
  rw [hstarts, hwidth]
  exact hs format ((of_setLabel h).2 ▸ hformat)

end SoftLabels

end TerminalSession
