import TerminalSession.Proofs.Window.Change

/-!
# Changes leave marks

A line of a window that is not dirty after a change has not changed, and neither has its place on
the terminal (`unchanged_of_not_dirty`). Only forgetting all damage breaks this.
-/

namespace TerminalSession.Window

variable {w : Window} {c : Change} {row : Nat} {line : Line}

theorem isDirty_of_full (h : w.full = true) (row : Nat) : w.isDirty row = true := by
  simp [isDirty, h]

/-- A line that a change does not mark is as it was, and where it was. -/
theorem unchanged_of_not_dirty (hc : c ≠ .edit .markClean)
    (hline : (w.change c).lines[row]? = some line) (hclean : (w.change c).isDirty row = false) :
    w.lines[row]? = some line ∧ w.isDirty row = false ∧
      (w.change c).top = w.top ∧ (w.change c).left = w.left := by
  have absurdDirty {P : Prop} (h : (w.change c).full = true) : P := by
    rw [isDirty_of_full h] at hclean
    cases hclean
  cases c with
  | putCursor => exact ⟨hline, hclean, rfl, rfl⟩
  | edit e =>
    cases e with
    | resize | erase | markDirty => exact absurdDirty rfl
    | move top left =>
      simp only [change, edit, move] at hline hclean absurdDirty ⊢
      split at hline
      · rw [if_pos ‹_›] at hclean ⊢
        exact ⟨hline, hclean, rfl, rfl⟩
      · rw [if_neg ‹_›] at absurdDirty
        exact absurdDirty rfl
    | eraseBelow =>
      rw [change, edit] at hline hclean
      have hmarked : w.isDirty row = false ∧ (w.cursorRow ≤ row → w.lines.size ≤ row) := by
        simpa [isDirty, eraseBelow, and_assoc] using hclean
      rw [getElem?_lines_eraseBelow] at hline
      obtain ⟨old, hold, hline⟩ := Option.map_eq_some_iff.mp hline
      have hlt := (Array.getElem?_eq_some_iff.mp hold).1
      rw [if_pos (by omega)] at hline
      exact ⟨hline ▸ hold, hmarked.1, rfl, rfl⟩
    | putText r col text =>
      cases hr : w.lines[r]? with
      | none =>
        simp only [change, edit, putText, hr] at hline hclean ⊢
        exact ⟨hline, hclean, trivial, trivial⟩
      | some old =>
        simp only [change, edit, putText, hr] at hline hclean ⊢
        have hmarked : w.isDirty row = false ∧ (r ≤ row → r + 1 ≤ row) := by
          simpa [isDirty, and_assoc] using hclean
        rw [Array.getElem?_setIfInBounds, if_neg (by omega)] at hline
        exact ⟨hline, hmarked.1, trivial, trivial⟩
    | setAttrs | setClear => exact ⟨hline, hclean, rfl, rfl⟩
    | markClean => exact absurd rfl hc

end TerminalSession.Window
