import Mathlib.Data.List.Induction
import TerminalSession.Proofs.Window.Pairs

/-!
# Windows without split wide characters

A change that ends the life of one half of a wide character only `Cuts` the window: a new size may
end in the middle of one, a clear may begin there, and a text may begin or stop there. Such a
change splits the character, and no other change does (`whole_change_iff`). So a window never has a
split character exactly if no change in its history cuts it, and as long as it has none its lines
are covered exactly.

Nothing keeps a history from cutting: a narrow text may be written onto a wide one.
-/

namespace TerminalSession.Window

variable {w : Window} {attrs : Attrs}

/-! ## Lines by row -/

/-- The line at a row; an empty one where the window has no line. -/
def line (w : Window) (row : Nat) : Line := w.lines[row]?.getD #[]

/-- No wide character of any line is split. -/
def Whole (w : Window) : Prop := ∀ line ∈ w.lines, Line.Whole line

theorem whole_iff : w.Whole ↔ ∀ row, (w.line row).Whole := by
  constructor
  · intro h row
    unfold line
    cases hl : w.lines[row]? with
    | none => exact Line.whole_empty
    | some line => exact h line (Array.mem_of_getElem? hl)
  · intro h line hl
    obtain ⟨row, hrow⟩ := Array.mem_iff_getElem?.mp hl
    simpa [Window.line, hrow] using h row

theorem whole_blank (area : Rect) : (blank area).Whole := by
  intro line hl
  obtain ⟨-, rfl⟩ := Array.mem_replicate.mp hl
  exact Line.whole_replicate _

theorem line_resize (rows cols row : Nat) :
    (w.resize rows cols).line row = if row < rows then fit (w.line row) cols {} else #[] := by
  rw [line, getElem?_lines_resize]
  split <;> rfl

theorem line_erase (row : Nat) : w.erase.line row = blankFrom w.attrs 0 (w.line row) := by
  rw [line, line, getElem?_lines_erase]
  cases w.lines[row]? <;> rfl

theorem line_eraseBelow (row : Nat) :
    w.eraseBelow.line row =
      if row < w.cursorRow then w.line row
      else blankFrom w.attrs (if row = w.cursorRow then w.cursorCol else 0) (w.line row) := by
  rw [line, line, getElem?_lines_eraseBelow]
  cases w.lines[row]? with
  | none => split <;> rfl
  | some line => rfl

theorem line_putText_of_ne {row r : Nat} (h : r ≠ row) (col : Nat) (text : String) :
    (w.putText row col text).line r = w.line r := by
  rw [line, line, getElem?_lines_putText, if_neg h]

theorem line_putText (row col : Nat) (text : String) :
    (w.putText row col text).line row =
      (putChars w.attrs w.cols text.toList col (w.line row)).1 := by
  rw [line, line, getElem?_lines_putText, if_pos rfl]
  cases w.lines[row]? with
  | none => exact (putChars_empty ..).symm
  | some line => rfl

/-! ## Changes that cut -/

/-- Whether the tail of a wide character stands at a place. -/
def tailAt (w : Window) (row col : Nat) : Bool := (w.line row).tailAt col

/-- A change that divides the columns of a line in the middle of a wide character. -/
def Cuts (w : Window) : Change → Prop
  | .edit (.resize rows cols) => ∃ row < rows, w.tailAt row cols = true
  | .edit .eraseBelow => w.tailAt w.cursorRow w.cursorCol = true
  | .edit (.putText row col text) =>
    col < Line.textEnd w.cols text.toList col ∧
      (w.tailAt row col = true ∨ w.tailAt row (Line.textEnd w.cols text.toList col) = true)
  | _ => False

theorem whole_resize_iff (h : w.Whole) (rows cols : Nat) :
    (w.resize rows cols).Whole ↔ ¬ w.Cuts (.edit (.resize rows cols)) := by
  rw [whole_iff] at h ⊢
  constructor
  · rintro hw ⟨row, hrow, htail⟩
    have := hw row
    rw [line_resize, if_pos hrow, Line.whole_fit_iff (h row)] at this
    exact Bool.eq_false_iff.mp this htail
  · intro hcut row
    rw [line_resize]
    split
    · rw [Line.whole_fit_iff (h row)]
      exact Bool.eq_false_iff.mpr fun htail => hcut ⟨row, ‹_›, htail⟩
    · exact Line.whole_empty

theorem whole_eraseBelow_iff (h : w.Whole) :
    w.eraseBelow.Whole ↔ ¬ w.Cuts (.edit .eraseBelow) := by
  rw [whole_iff] at h ⊢
  rw [Cuts, Bool.not_eq_true, tailAt, ← Line.whole_blankFrom_iff (h _) w.attrs]
  constructor
  · intro hw
    have := hw w.cursorRow
    rwa [line_eraseBelow, if_neg (Nat.lt_irrefl _), if_pos rfl] at this
  · intro hcursor row
    rw [line_eraseBelow]
    split
    · exact h row
    · split
      · subst row
        exact hcursor
      · exact Line.whole_blankFrom_zero ..

theorem whole_putText_iff (h : w.Whole) (hrect : w.Rectangular) (row col : Nat) {text : String}
    (narrow : ∀ c ∈ text.toList, columns c ≤ 2) :
    (w.putText row col text).Whole ↔ ¬ w.Cuts (.edit (.putText row col text)) := by
  rw [whole_iff] at h ⊢
  have hother : (∀ r, ((w.putText row col text).line r).Whole) ↔
      ((w.putText row col text).line row).Whole := by
    refine ⟨fun hw => hw row, fun hrow r => ?_⟩
    by_cases hr : r = row
    · exact hr ▸ hrow
    · exact (line_putText_of_ne hr col text).symm ▸ h r
  rw [hother, line_putText, Cuts, tailAt, tailAt]
  cases hl : w.lines[row]? with
  | none =>
    have hline : w.line row = #[] := by simp [line, hl]
    rw [hline, putChars_empty]
    exact iff_of_true Line.whole_empty (by simp [Line.tailAt])
  | some l =>
    have hline : w.line row = l := by simp [line, hl]
    have hsize : l.size = w.cols := hrect l (Array.mem_of_getElem? hl)
    rw [hline, ← hsize, Line.whole_putChars_iff (hline ▸ h row) w.attrs col narrow]
    simp only [not_and, not_or, Bool.not_eq_true]

/-- A window without split characters has none after a change exactly if the change does not
cut. -/
theorem whole_change_iff (h : w.Whole) (hrect : w.Rectangular) {c : Change} (narrow : c.Narrow) :
    (w.change c).Whole ↔ ¬ w.Cuts c := by
  cases c with
  | putCursor => exact iff_of_true h id
  | edit e =>
    cases e with
    | resize rows cols => exact whole_resize_iff h rows cols
    | move top left =>
      refine iff_of_true ?_ id
      simp only [change, edit, move]
      split <;> exact h
    | erase =>
      refine iff_of_true (whole_iff.mpr fun row => ?_) id
      rw [change, edit, line_erase]
      exact Line.whole_blankFrom_zero ..
    | eraseBelow => exact whole_eraseBelow_iff h
    | putText row col text => exact whole_putText_iff h hrect row col narrow
    | setAttrs | markDirty | markClean | setClear => exact iff_of_true h id

/-! ## Histories -/

/-- The lines of a window without split characters are covered exactly by their cells, and by what
is shown of them. -/
theorem covered_of_whole (area : Rect) {cs : List Change} (narrow : ∀ c ∈ cs, c.Narrow)
    (h : ((blank area).changes cs).Whole) :
    ∀ line ∈ ((blank area).changes cs).lines,
      (line.toList.map Cell.width).sum = ((blank area).changes cs).cols ∧
        textColumns ((shown line).map Prod.snd) = ((blank area).changes cs).cols := by
  intro line hl
  have hjoined := joined_changes (joined_blank area) cs line hl
  have hdrawn := drawn_changes narrow (cells_blank area fun _ h => nomatch h) line hl
  have hpaired : Line.Paired line.toList := Line.paired_of_whole (h line hl) hjoined
    fun cell hc => hdrawn cell (Array.mem_toList_iff.mp hc)
  have hsum : (line.toList.map Cell.width).sum = ((blank area).changes cs).cols :=
    hpaired.sum_width.trans (rectangular_changes (rectangular_blank area) cs line hl)
  exact ⟨hsum, (Line.textColumns_shown line).trans hsum⟩

/-- **Split characters.** A window never has a split wide character in the course of a history
exactly if none of its changes cuts it, and whenever it has none, its lines are covered exactly. -/
theorem whole_changes_iff (area : Rect) {cs : List Change} (narrow : ∀ c ∈ cs, c.Narrow) :
    ((∀ before, before <+: cs → ((blank area).changes before).Whole) ↔
      ∀ before c, before ++ [c] <+: cs → ¬ ((blank area).changes before).Cuts c) ∧
    ∀ before, before <+: cs → ((blank area).changes before).Whole →
      ∀ line ∈ ((blank area).changes before).lines,
        (line.toList.map Cell.width).sum = ((blank area).changes before).cols ∧
          textColumns ((shown line).map Prod.snd) = ((blank area).changes before).cols := by
  have step : ∀ before c, before ++ [c] <+: cs → ((blank area).changes before).Whole →
      (((blank area).changes (before ++ [c])).Whole ↔ ¬ ((blank area).changes before).Cuts c) := by
    intro before c hpre h
    rw [changes_concat]
    exact whole_change_iff h (rectangular_changes (rectangular_blank area) before)
      (narrow c (hpre.subset (by simp)))
  refine ⟨⟨fun hall before c hpre => ?_, fun hcut before => ?_⟩, fun before hpre h => ?_⟩
  · exact (step before c hpre (hall before ((List.prefix_append ..).trans hpre))).mp
      (hall (before ++ [c]) hpre)
  · induction before using List.reverseRecOn with
    | nil => exact fun _ => whole_blank area
    | append_singleton before c ih =>
      exact fun hpre => (step before c hpre (ih ((List.prefix_append ..).trans hpre))).mpr
        (hcut before c hpre)
  · exact covered_of_whole area (fun c hc => narrow c (hpre.subset hc)) h

/-- A wide character, and then a narrow one in its left column. -/
def halved : List Change :=
  [.edit (.putText 0 0 (String.ofList ['日'])), .edit (.putText 0 0 (String.ofList ['a']))]

theorem narrow_halved : ∀ c ∈ halved, c.Narrow := by
  intro c hc char hchar
  simp only [halved, List.mem_cons, List.not_mem_nil, or_false] at hc
  rcases hc with rfl | rfl <;>
    (simp only [Change.text, Edit.text, String.toList_ofList, List.mem_singleton] at hchar
     subst hchar
     decide +kernel)

/-- The wide character is split by the change that cuts it, and by nothing before. -/
theorem whole_changes_halved_iff :
    (∀ c ∈ halved, c.Narrow) ∧
      ((∀ before, before <+: halved → ((blank ⟨0, 0, 1, 5⟩).changes before).Whole) ↔
        ∀ before c, before ++ [c] <+: halved →
          ¬ ((blank ⟨0, 0, 1, 5⟩).changes before).Cuts c) :=
  ⟨narrow_halved, (whole_changes_iff ⟨0, 0, 1, 5⟩ narrow_halved).1⟩

/-- The tail of the wide character is left behind the narrow one. -/
theorem not_whole_halved :
    (∀ c ∈ halved, c.Narrow) ∧ ¬ ((blank ⟨0, 0, 1, 5⟩).changes halved).Whole := by
  refine ⟨narrow_halved, fun h => ?_⟩
  have hlines : ((blank ⟨0, 0, 1, 5⟩).changes halved).lines =
      #[#[{ glyph := .char 'a' }, { glyph := .tail }, {}, {}, {}]] := by
    decide +kernel
  have := (h _ (hlines ▸ Array.mem_singleton.mpr rfl)).tailAt_succ 0
  exact absurd this (by decide)

end TerminalSession.Window
