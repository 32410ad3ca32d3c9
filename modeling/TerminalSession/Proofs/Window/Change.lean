import TerminalSession.Window.Edit

/-!
# Histories of a window

Besides being edited, a window can have its cursor put anywhere, also outside of it. A `Change` is
one such event, and the outcome of a history is `Window.changes`.

What a change does to the lines is said row by row (`getElem?_lines_resize` and so on). A property
of lines that every way of making a line gives or keeps holds of all lines after a change
(`forall_lines_change`).
-/

namespace TerminalSession

/-- What can happen to a window. -/
inductive Change
  | edit (e : Edit)
  | putCursor (row col : Nat)
  deriving DecidableEq, Repr

/-- The text that an edit writes. -/
def Edit.text : Edit → List Char
  | .putText _ _ text => text.toList
  | _ => []

/-- The text that a change writes. -/
def Change.text : Change → List Char
  | .edit e => e.text
  | .putCursor .. => []

/-- No character written takes more than two columns. -/
def Change.Narrow (c : Change) : Prop := ∀ char ∈ c.text, columns char ≤ 2

namespace Window

/-- The window after a change. -/
def change (w : Window) : Change → Window
  | .edit e => w.edit e
  | .putCursor row col => { w with cursorRow := row, cursorCol := col }

/-- The window after a list of changes. -/
def changes (w : Window) (cs : List Change) : Window := cs.foldl change w

theorem changes_concat (w : Window) (cs : List Change) (c : Change) :
    w.changes (cs ++ [c]) = (w.changes cs).change c := List.foldl_append

/-- Edits are a history in which the cursor is never put anywhere by hand. -/
theorem edits_eq_changes (w : Window) (es : List Edit) : w.edits es = w.changes (es.map .edit) := by
  rw [changes, List.foldl_map]
  rfl

variable (w : Window)

theorem getElem?_lines_resize (rows cols row : Nat) :
    (w.resize rows cols).lines[row]? =
      if row < rows then some (fit (w.lines[row]?.getD #[]) cols {}) else none := by
  simp only [resize, Array.getElem?_map, getElem?_fit]
  split <;> rfl

theorem getElem?_lines_erase (row : Nat) :
    w.erase.lines[row]? = w.lines[row]?.map (blankFrom w.attrs 0) := by
  simp only [erase, Array.getElem?_map]
  congr 1
  funext line
  apply Array.ext
  · simp [blankFrom]
  · simp [blankFrom]

theorem getElem?_lines_eraseBelow (row : Nat) :
    w.eraseBelow.lines[row]? = w.lines[row]?.map fun line =>
      if row < w.cursorRow then line
      else blankFrom w.attrs (if row = w.cursorRow then w.cursorCol else 0) line := by
  simp [eraseBelow]

theorem getElem?_lines_putText (row col : Nat) (text : String) (r : Nat) :
    (w.putText row col text).lines[r]? =
      if r = row then
        w.lines[row]?.map fun line => (putChars w.attrs w.cols text.toList col line).1
      else w.lines[r]? := by
  unfold putText
  split
  · rename_i h
    split
    · simp_all
    · rfl
  · rename_i line h
    by_cases hr : r = row
    · subst hr
      obtain ⟨hlt, rfl⟩ := Array.getElem?_eq_some_iff.mp h
      simp [hlt]
    · simp [hr, Ne.symm hr]

variable {w} {Q : Line → Prop} {c : Change}

/-- A property of lines that holds of all lines still does after a change if it is kept by cutting
and extending, by blanking, and by writing the text of the change. -/
theorem forall_lines_change (h : ∀ line ∈ w.lines, Q line)
    (hfit : ∀ cols line, line = #[] ∨ line ∈ w.lines → Q (fit line cols {}))
    (hblank : ∀ col, ∀ line ∈ w.lines, Q (blankFrom w.attrs col line))
    (hput : ∀ col, ∀ line ∈ w.lines, Q (putChars w.attrs w.cols c.text col line).1) :
    ∀ line ∈ (w.change c).lines, Q line := by
  have mem : ∀ {row line}, w.lines[row]? = some line → line ∈ w.lines :=
    fun h => Array.mem_of_getElem? h
  intro line hl
  obtain ⟨row, hrow⟩ := Array.mem_iff_getElem?.mp hl
  cases c with
  | putCursor => exact h line hl
  | edit e =>
    cases e with
    | resize rows cols =>
      rw [change, edit, getElem?_lines_resize] at hrow
      split at hrow <;> cases hrow
      refine hfit _ _ ?_
      cases hw : w.lines[row]? with
      | none => exact .inl rfl
      | some old => exact .inr (mem hw)
    | move top left =>
      simp only [change, edit, move] at hl
      split at hl <;> exact h line hl
    | erase =>
      rw [change, edit, getElem?_lines_erase] at hrow
      obtain ⟨old, hold, rfl⟩ := Option.map_eq_some_iff.mp hrow
      exact hblank _ _ (mem hold)
    | eraseBelow =>
      rw [change, edit, getElem?_lines_eraseBelow] at hrow
      obtain ⟨old, hold, rfl⟩ := Option.map_eq_some_iff.mp hrow
      split
      · exact h _ (mem hold)
      · exact hblank _ _ (mem hold)
    | putText r col text =>
      rw [change, edit, getElem?_lines_putText] at hrow
      split at hrow
      · obtain ⟨old, hold, rfl⟩ := Option.map_eq_some_iff.mp hrow
        exact hput _ _ (mem hold)
      · exact h _ (mem hrow)
    | setAttrs | markDirty | markClean | setClear => exact h line hl

/-- The same along a history, for the text of all its changes. -/
theorem forall_lines_changes {cs : List Change} (h : ∀ line ∈ w.lines, Q line)
    (hfit : ∀ cols line, line = #[] ∨ Q line → Q (fit line cols {}))
    (hblank : ∀ attrs col line, Q line → Q (blankFrom attrs col line))
    (hput : ∀ attrs cols col line, ∀ c ∈ cs, Q line →
      Q (putChars attrs cols c.text col line).1) :
    ∀ line ∈ (w.changes cs).lines, Q line := by
  induction cs generalizing w with
  | nil => exact h
  | cons c cs ih =>
    refine ih (w := w.change c) ?_ fun attrs cols col line c hc =>
      hput attrs cols col line c (.tail _ hc)
    exact forall_lines_change h (fun cols line hl => hfit cols line (hl.imp_right (h line)))
      (fun col line hl => hblank _ col line (h line hl))
      (fun col line hl => hput _ _ col line c (.head _) (h line hl))

end Window

end TerminalSession
