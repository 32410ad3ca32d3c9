import TerminalSession.Proofs.Window.Shape

/-!
# Windows of another size

A window that gets another size keeps the cells that both sizes have, and the others come up blank
(`Window.regrown_resize`). A cell that was given up is not remembered: after several sizes just those
places show what they showed that none of them left out (`Window.cellAt_resizing`), so a window that
has grown and shrunk back is as it was (`Window.resizing_exact`).
-/

namespace TerminalSession.Window

variable {w w' : Window} {rows cols row col : Nat} {sizes : List (Nat × Nat)}

/-- A window has the cells of another one where both have any, and default ones elsewhere. -/
def Regrown (w : Window) (rows cols : Nat) (w' : Window) : Prop :=
  ∀ row col, w'.cell? row col =
    if row < rows ∧ col < cols then some ((w.cell? row col).getD {}) else none

/-- All cells of a window are blank, with the same attributes. -/
def Blanked (w : Window) (rows cols : Nat) (attrs : Attrs) : Prop :=
  ∀ row col, w.cell? row col = if row < rows ∧ col < cols then some (.blank attrs) else none

theorem regrown_resize (w : Window) (rows cols : Nat) : w.Regrown rows cols (w.resize rows cols) := by
  intro row col
  rw [cell?, getElem?_lines_resize]
  by_cases hrow : row < rows
  · simp only [hrow, if_true, true_and, Option.bind_some, getElem?_fit, cell?]
    cases w.lines[row]? <;> rfl
  · simp only [hrow, if_false, false_and, Option.bind_none]

theorem Regrown.congr {w'' : Window} (h : w.Regrown rows cols w') (hlines : w''.lines = w'.lines) :
    w.Regrown rows cols w'' := by
  intro row col
  rw [cell?, hlines]
  exact h row col

theorem cell?_erase (w : Window) (row col : Nat) :
    w.erase.cell? row col = (w.cell? row col).map fun _ => Cell.blank w.attrs := by
  simp only [cell?, erase, Array.getElem?_map]
  cases w.lines[row]? <;> simp

theorem blanked_resize_erase (w : Window) (rows cols : Nat) :
    (w.edits [.resize rows cols, .erase]).Blanked rows cols w.attrs := by
  intro row col
  change (w.resize rows cols).erase.cell? row col = _
  rw [cell?_erase, w.regrown_resize rows cols row col]
  split <;> rfl

theorem lines_move (w : Window) (top left : Nat) : (w.move top left).lines = w.lines := by
  rw [move]
  split <;> rfl

/-! ## Several sizes -/

/-- Gives a window several sizes, one after the other. -/
def resizing (sizes : List (Nat × Nat)) : List Edit :=
  sizes.map fun size => .resize size.1 size.2

/-- What a window shows at a place; blanks stand beside it. -/
def cellAt (w : Window) (row col : Nat) : Cell := (w.cell? row col).getD {}

/-- All of some sizes have a place. -/
def InAll (sizes : List (Nat × Nat)) (row col : Nat) : Prop :=
  ∀ size ∈ sizes, row < size.1 ∧ col < size.2

instance (sizes : List (Nat × Nat)) (row col : Nat) : Decidable (InAll sizes row col) :=
  inferInstanceAs (Decidable (∀ size ∈ sizes, row < size.1 ∧ col < size.2))

theorem Rectangular.cell?_eq_some (h : w.Rectangular) (hrow : row < w.rows) (hcol : col < w.cols) :
    w.cell? row col = some (w.cellAt row col) := by
  have hline : w.lines[row]? = some w.lines[row] := Array.getElem?_eq_getElem hrow
  have hsize : col < w.lines[row].size := by
    rw [h _ (Array.getElem_mem hrow)]
    exact hcol
  rw [cellAt, cell?, hline, Option.bind_some, Array.getElem?_eq_getElem hsize, Option.getD_some]

theorem Rectangular.cell?_eq_none (h : w.Rectangular) (houtside : ¬ (row < w.rows ∧ col < w.cols)) :
    w.cell? row col = none := by
  rw [cell?]
  cases hline : w.lines[row]? with
  | none => rfl
  | some line =>
    obtain ⟨hrow, -⟩ := Array.getElem?_eq_some_iff.mp hline
    have hsize := h line (Array.mem_of_getElem? hline)
    rw [Option.bind_some, Array.getElem?_eq_none]
    rw [rows] at houtside
    omega

theorem blanked_erase (h : w.Rectangular) : w.erase.Blanked w.rows w.cols w.attrs := by
  intro row col
  rw [cell?_erase]
  split
  · rename_i hinside
    rw [h.cell?_eq_some hinside.1 hinside.2]
    rfl
  · rw [h.cell?_eq_none ‹_›]
    rfl

theorem cellAt_resize (w : Window) (rows cols row col : Nat) :
    (w.resize rows cols).cellAt row col =
      if row < rows ∧ col < cols then w.cellAt row col else {} := by
  rw [cellAt, w.regrown_resize rows cols row col]
  split <;> rfl

/-- **A cell outlasts the sizes that have it.** -/
theorem cellAt_resizing (w : Window) (sizes : List (Nat × Nat)) (row col : Nat) :
    (w.edits (resizing sizes)).cellAt row col =
      if InAll sizes row col then w.cellAt row col else {} := by
  induction sizes generalizing w with
  | nil => simp [resizing, InAll]
  | cons size sizes ih =>
    rw [resizing, List.map_cons, edits_cons]
    refine (ih (w.resize size.1 size.2)).trans ?_
    rw [cellAt_resize]
    simp only [InAll, List.forall_mem_cons]
    grind

/-- The cursor is brought inside of each size in turn; nothing else goes by the sizes. -/
theorem rest_resizing (w : Window) (sizes : List (Nat × Nat)) :
    let w' := w.edits (resizing sizes)
    w'.cursorRow = sizes.foldl (fun row size => min row (size.1 - 1)) w.cursorRow ∧
      w'.cursorCol = sizes.foldl (fun col size => min col (size.2 - 1)) w.cursorCol ∧
      w'.top = w.top ∧ w'.left = w.left ∧ w'.attrs = w.attrs ∧ w'.clear = w.clear := by
  induction sizes generalizing w with
  | nil => exact ⟨rfl, rfl, rfl, rfl, rfl, rfl⟩
  | cons size sizes ih => exact ih (w.resize size.1 size.2)

/-- A window that has had several sizes, the last of them `rows` by `cols`. -/
structure Resized (w : Window) (sizes : List (Nat × Nat)) (rows cols : Nat) (w' : Window) : Prop where
  size : w'.rows = rows ∧ w'.cols = cols
  rectangular : w'.Rectangular
  kept : ∀ row col, row < w.rows → col < w.cols → InAll sizes row col →
    w'.cell? row col = w.cell? row col
  blank : ∀ row col, row < rows → col < cols →
    ¬ (row < w.rows ∧ col < w.cols ∧ InAll sizes row col) → w'.cell? row col = some {}
  cursorRow : w'.cursorRow = sizes.foldl (fun row size => min row (size.1 - 1)) w.cursorRow
  cursorCol : w'.cursorCol = sizes.foldl (fun col size => min col (size.2 - 1)) w.cursorCol
  dirty : ∀ row, w'.isDirty row = true
  place : w'.top = w.top ∧ w'.left = w.left
  rest : w'.attrs = w.attrs ∧ w'.clear = w.clear

theorem resized_resizing (h : w.Rectangular) (hlast : sizes.getLast? = some (rows, cols)) :
    w.Resized sizes rows cols (w.edits (resizing sizes)) := by
  obtain ⟨before, hsizes⟩ := List.getLast?_eq_some_iff.mp hlast
  have hcell := cellAt_resizing w sizes
  obtain ⟨hcursorRow, hcursorCol, htop, hleft, hattrs, hclear⟩ := w.rest_resizing sizes
  have hw' : w.edits (resizing sizes) = (w.edits (resizing before)).resize rows cols := by
    rw [hsizes, resizing, List.map_append, edits_append]
    rfl
  have hrect : (w.edits (resizing sizes)).Rectangular := by
    rw [edits_eq_changes]
    exact rectangular_changes h _
  have hsize : (w.edits (resizing sizes)).rows = rows ∧ (w.edits (resizing sizes)).cols = cols := by
    rw [hw']
    simp [resize, Window.rows]
  have hinside {row col : Nat} (hrow : row < rows) (hcol : col < cols) :
      (w.edits (resizing sizes)).cell? row col =
        some (if InAll sizes row col then w.cellAt row col else {}) := by
    rw [← hcell]
    exact hrect.cell?_eq_some (hsize.1 ▸ hrow) (hsize.2 ▸ hcol)
  refine ⟨hsize, hrect, fun row col hrow hcol hall => ?_, fun row col hrow hcol hnot => ?_,
    hcursorRow, hcursorCol, fun row => ?_, ⟨htop, hleft⟩, ⟨hattrs, hclear⟩⟩
  · obtain ⟨hrow', hcol'⟩ := hall (rows, cols) (List.mem_of_getLast? hlast)
    rw [hinside hrow' hcol', if_pos hall, h.cell?_eq_some hrow hcol]
  · rw [hinside hrow hcol]
    split
    · rename_i hall
      rw [cellAt, h.cell?_eq_none fun hin => hnot ⟨hin.1, hin.2, hall⟩]
      rfl
    · rfl
  · rw [hw']
    rfl

/-- **What several sizes leave.** A cell keeps what it shows as long as each new size has it, and all
others come up blank. The cursor is brought inside of each size in turn, and all is to be drawn. In
particular a window that grows and gets back its size, in any number of steps, has the cells that it
had. -/
theorem resizing_exact (h : w.Rectangular) (hlast : sizes.getLast? = some (rows, cols)) :
    w.Resized sizes rows cols (w.edits (resizing sizes)) ∧
    ((∀ size ∈ sizes, w.rows ≤ size.1 ∧ w.cols ≤ size.2) → rows = w.rows → cols = w.cols →
      ∀ row col, (w.edits (resizing sizes)).cell? row col = w.cell? row col) := by
  have hresized := resized_resizing h hlast
  refine ⟨hresized, fun hgrown hrows hcols row col => ?_⟩
  by_cases hin : row < w.rows ∧ col < w.cols
  · refine hresized.kept row col hin.1 hin.2 fun size hsize => ?_
    obtain ⟨hrow, hcol⟩ := hgrown size hsize
    omega
  · rw [h.cell?_eq_none hin, hresized.rectangular.cell?_eq_none]
    rw [hresized.size.1, hresized.size.2, hrows, hcols]
    exact hin

/-- A window with two lines of letters. -/
def lettered : Window :=
  (blank ⟨0, 0, 2, 3⟩).changes [.edit (.putText 0 0 (String.ofList ['a', 'b', 'c'])),
    .edit (.putText 1 0 (String.ofList ['d', 'e', 'f']))]

/-- Two letters of the first line outlast a size of one row and one of two columns. All of them
outlast sizes that are larger. -/
theorem resizing_exact_lettered : lettered.Rectangular ∧
    lettered.Resized [(1, 5), (3, 2), (3, 4)] 3 4
      (lettered.edits (resizing [(1, 5), (3, 2), (3, 4)])) ∧
    ∀ row col, (lettered.edits (resizing [(4, 5), (2, 9), (2, 3)])).cell? row col =
      lettered.cell? row col := by
  have hrect : lettered.Rectangular := rectangular_changes (rectangular_blank _) _
  have hsize : lettered.rows = 2 ∧ lettered.cols = 3 := by decide +kernel
  have hlast : [(4, 5), (2, 9), (2, 3)].getLast? = some (2, 3) := rfl
  refine ⟨hrect, (resizing_exact hrect rfl).1, ?_⟩
  refine (resizing_exact hrect hlast).2 ?_ hsize.1.symm hsize.2.symm
  rw [hsize.1, hsize.2]
  decide

end TerminalSession.Window
