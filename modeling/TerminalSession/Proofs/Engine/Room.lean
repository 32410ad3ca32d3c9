import Mathlib.Algebra.GroupWithZero.Nat
import TerminalSession.Proofs.Engine.Windows

/-!
# Room for windows

What decides whether an engine in memory grants a call: that sizes have cells, that the window
exists, and that there is room for all cells together. `create_eq`, `edit_eq` and `resize_eq` say so
for single calls, and `reserveAll` says which windows can be made one after another. Only the places
and sizes of windows count (`Rect.edit`), so whatever else is done to them leaves the room as it is.
-/

namespace TerminalSession

/-! ## Places and sizes -/

/-- The place and size that a window has after an edit. -/
def Rect.edit (area : Rect) : Edit → Rect
  | .resize rows cols => { area with rows, cols }
  | .move top left => { area with top, left }
  | _ => area

/-- Whether an edit gives a window another size. -/
def Edit.isResize : Edit → Bool
  | .resize .. => true
  | _ => false

/-- Whether an edit gives a window another size or another place. -/
def Edit.isPlacing : Edit → Bool
  | .resize .. | .move .. => true
  | _ => false

/-- Whether an edit writes into a window. -/
def Edit.isWriting : Edit → Bool
  | .erase | .eraseBelow | .setAttrs _ | .putText .. => true
  | _ => false

theorem Edit.not_isPlacing_of_isWriting {e : Edit} (h : e.isWriting = true) :
    e.isPlacing = false := by
  cases e <;> first | rfl | cases h

theorem Edit.isResize_of_not_isPlacing {e : Edit} (h : e.isPlacing = false) :
    e.isResize = false := by
  cases e <;> first | rfl | cases h

theorem Edit.eq_resize {e : Edit} (h : e.isResize ≠ false) : ∃ rows cols, e = .resize rows cols := by
  cases e with
  | resize rows cols => exact ⟨rows, cols, rfl⟩
  | _ => exact absurd rfl h

theorem Rect.edit_of_not_isPlacing {e : Edit} (h : e.isPlacing = false) (area : Rect) :
    area.edit e = area := by
  cases e <;> first | rfl | cases h

namespace Window

variable {w : Window}

theorem area_edit (w : Window) (e : Edit) : (w.edit e).area = w.area.edit e := by
  cases e with
  | move top left =>
    simp only [edit, move]
    split
    · rename_i h
      obtain ⟨rfl, rfl⟩ := h
      rfl
    · rfl
  | putText row col text =>
    simp only [edit, putText]
    split
    · rfl
    · simp [area, rows, Rect.edit]
  | _ => simp [edit, area, rows, resize, erase, eraseBelow, markAll, markClean, Rect.edit]

theorem area_edits (w : Window) (es : List Edit) : (w.edits es).area = es.foldl Rect.edit w.area := by
  induction es generalizing w with
  | nil => rfl
  | cons e es ih => rw [edits_cons, ih, area_edit, List.foldl_cons]

theorem area_edits_of_not_isPlacing {es : List Edit} (h : ∀ e ∈ es, e.isPlacing = false) :
    (w.edits es).area = w.area := by
  induction es generalizing w with
  | nil => rfl
  | cons e es ih =>
    rw [edits_cons, ih fun e' he => h e' (.tail _ he), area_edit,
      Rect.edit_of_not_isPlacing (h e (.head _))]

theorem cellCount_eq (w : Window) : w.cellCount = w.area.rows * w.area.cols := rfl

theorem cellCount_edit {e : Edit} (h : e.isResize = false) :
    (w.edit e).cellCount = w.cellCount := by
  rw [cellCount_eq, cellCount_eq, area_edit]
  cases e with
  | resize => cases h
  | _ => rfl

theorem area_blank (area : Rect) : (blank area).area = area := by
  simp [blank, Window.area, rows]

theorem cellCount_blank (area : Rect) : (blank area).cellCount = area.rows * area.cols := by
  rw [cellCount_eq, area_blank]

end Window

namespace Buffers

variable {b b' : Buffers} {budget : Option Nat} {id : WindowId} {w : Window} {e : Edit}

/-! ## The budget -/

/-- Whether so many cells are within a budget. -/
def Fits (budget : Option Nat) (cells : Nat) : Prop := ∀ limit ∈ budget, cells ≤ limit

instance (budget : Option Nat) (cells : Nat) : Decidable (Fits budget cells) :=
  inferInstanceAs (Decidable (∀ limit ∈ budget, cells ≤ limit))

@[simp] theorem fits_none (cells : Nat) : Fits none cells := fun _ h => nomatch h

@[simp] theorem fits_some {limit cells : Nat} : Fits (some limit) cells ↔ cells ≤ limit := by
  simp [Fits]

theorem Fits.mono {cells cells' : Nat} (h : Fits budget cells) (hle : cells' ≤ cells) :
    Fits budget cells' := fun limit hlimit => Nat.le_trans hle (h limit hlimit)

/-- The cells that are left of a budget. -/
def remaining (budget : Option Nat) (used : Nat) : Nat := budget.getD 0 - used

theorem reserve_eq {requested releasing : Nat} (h : requested ≠ 0) :
    b.reserve requested releasing =
      if Fits b.budget (b.inUse - releasing + requested) then .ok ()
      else .error (.outOfMemory requested (remaining b.budget (b.inUse - releasing))) := by
  unfold reserve remaining
  cases b.budget with
  | none => simp [pure, Except.pure]
  | some limit =>
    simp only [fits_some, Option.getD_some]
    by_cases hroom : b.inUse - releasing + requested ≤ limit
    · rw [if_neg (by omega), if_pos hroom]
      rfl
    · rw [if_pos (by omega), if_neg hroom]
      rfl

/-! ## Making windows -/

/-- An engine with one window more. -/
def push (b : Buffers) (w : Window) : Buffers := { b with slots := b.slots.push (some w) }

theorem create_eq (b : Buffers) (area : Rect) :
    b.create area =
      if area.rows = 0 ∨ area.cols = 0 then .error (.invalidSize area.rows area.cols)
      else if Fits b.budget (b.inUse + area.rows * area.cols) then
        .ok (b.slots.size, b.push (.blank area))
      else .error (.outOfMemory (area.rows * area.cols) (remaining b.budget b.inUse)) := by
  unfold create checkSize
  split
  · rfl
  · rename_i hsize
    have hcells : area.rows * area.cols ≠ 0 := by simpa [Nat.mul_eq_zero] using hsize
    rw [reserve_eq hcells, Nat.sub_zero]
    split <;> rfl

/-- Whether windows of these areas can be made one after another, where so many cells are in use
already, and if not, why. -/
def reserveAll (budget : Option Nat) : Nat → List Rect → Except WindowError Unit
  | _, [] => .ok ()
  | used, area :: areas =>
    if area.rows = 0 ∨ area.cols = 0 then .error (.invalidSize area.rows area.cols)
    else if Fits budget (used + area.rows * area.cols) then
      reserveAll budget (used + area.rows * area.cols) areas
    else .error (.outOfMemory (area.rows * area.cols) (remaining budget used))

/-- The cells of all these areas together. -/
def areaCells (areas : List Rect) : Nat := (areas.map fun area => area.rows * area.cols).sum

/-- All windows can be made if all areas have cells and there is room for all of them. -/
theorem reserveAll_eq_ok_iff {used : Nat} {areas : List Rect} (hused : Fits budget used) :
    reserveAll budget used areas = .ok () ↔
      (∀ area ∈ areas, area.rows ≠ 0 ∧ area.cols ≠ 0) ∧ Fits budget (used + areaCells areas) := by
  induction areas generalizing used with
  | nil => simpa [reserveAll, areaCells] using hused
  | cons area areas ih =>
    have hrest : areaCells (area :: areas) = area.rows * area.cols + areaCells areas := by
      simp [areaCells]
    rw [reserveAll, hrest, ← Nat.add_assoc, List.forall_mem_cons, ← not_or]
    by_cases hsize : area.rows = 0 ∨ area.cols = 0
    · rw [if_pos hsize]
      exact iff_of_false (by simp) fun h => h.1.1 hsize
    rw [if_neg hsize, and_iff_right hsize]
    by_cases hfits : Fits budget (used + area.rows * area.cols)
    · rw [if_pos hfits]
      exact ih hfits
    · rw [if_neg hfits]
      exact iff_of_false (by simp) fun h => hfits (h.2.mono (Nat.le_add_right ..))

/-! ## Cells in use -/

/-- The cells of the window under an id, if there is one. -/
def cells (b : Buffers) (id : WindowId) : Nat := slotCells (b.window? id)

theorem cells_of_window? (h : b.window? id = some w) : b.cells id = w.cellCount := by
  rw [cells, h]
  rfl

theorem inUse_eq (b : Buffers) : b.inUse = (b.slots.toList.map slotCells).sum := rfl

theorem window?_push (b : Buffers) (w : Window) (id : WindowId) :
    (b.push w).window? id = if id = b.slots.size then some w else b.window? id := by
  simp only [window?, push, Array.getElem?_push]
  split <;> rfl

theorem inUse_push (b : Buffers) (w : Window) : (b.push w).inUse = b.inUse + w.cellCount := by
  simp [inUse_eq, push, slotCells]

theorem sum_map_modify (l : List (Option Window)) (id : Nat) (f : Window → Window) :
    ((l.modify id (·.map f)).map slotCells).sum + slotCells l[id]?.join =
      (l.map slotCells).sum + slotCells ((l[id]?.join).map f) := by
  induction l generalizing id with
  | nil => simp
  | cons slot l ih =>
    cases id with
    | zero =>
      simp only [List.modify_zero_cons, List.map_cons, List.sum_cons, List.getElem?_cons_zero,
        Option.join_some]
      omega
    | succ id =>
      have := ih id
      simp only [List.modify_succ_cons, List.map_cons, List.sum_cons, List.getElem?_cons_succ]
      omega

/-- A change to one window changes what is in use by what it changes of that window. -/
theorem inUse_modifyWindow (b : Buffers) (id : WindowId) (f : Window → Window) :
    (b.modifyWindow id f).inUse + b.cells id = b.inUse + slotCells ((b.window? id).map f) := by
  have hsum := sum_map_modify b.slots.toList id f
  simpa [inUse_eq, modifyWindow, cells, window?] using hsum

theorem cells_le_inUse (b : Buffers) (id : WindowId) : b.cells id ≤ b.inUse := by
  -- emptying the window leaves what is in use without its cells
  have hempty := b.inUse_modifyWindow id fun w => { w with lines := #[] }
  have hnone : slotCells ((b.window? id).map fun w => { w with lines := #[] }) = 0 := by
    cases b.window? id <;> simp [slotCells, Window.cellCount]
  omega

theorem inUse_modifyWindow_of_same {f : Window → Window}
    (hf : ∀ w, (f w).cellCount = w.cellCount) : (b.modifyWindow id f).inUse = b.inUse := by
  have hsame : slotCells ((b.window? id).map f) = b.cells id := by
    rw [cells]
    cases b.window? id with
    | none => rfl
    | some w => exact hf w
  have := b.inUse_modifyWindow id f
  omega

/-! ## Changing windows -/

/-- Only a resize can be refused to a window that exists. -/
theorem edit_eq (he : e.isResize = false) (hw : b.window? id = some w) :
    b.edit id e = .ok ((), b.modifyWindow id (·.edit e)) := by
  unfold edit
  cases e with
  | resize => cases he
  | _ =>
    simp only [hw]
    rfl

/-- A resize is a matter of room. -/
theorem resize_eq {rows cols : Nat} (hrows : rows ≠ 0) (hcols : cols ≠ 0)
    (hw : b.window? id = some w) :
    b.edit id (.resize rows cols) =
      if Fits b.budget (b.inUse - b.cells id + rows * cols) then
        .ok ((), b.modifyWindow id (·.edit (.resize rows cols)))
      else .error (.outOfMemory (rows * cols) (remaining b.budget (b.inUse - b.cells id))) := by
  have hcells : rows * cols ≠ 0 := Nat.mul_ne_zero hrows hcols
  have hsize : checkSize rows cols = .ok () := if_neg (by simp [hrows, hcols])
  rw [cells_of_window? hw]
  unfold edit
  simp only [hw, hsize, reserve_eq hcells]
  split <;> rfl

theorem resize_invalid {rows cols : Nat} (hsize : rows = 0 ∨ cols = 0) :
    b.edit id (.resize rows cols) = .error (.invalidSize rows cols) := by
  simp only [edit, checkSize, hsize, if_true]
  rfl

theorem resize_unknown {rows cols : Nat} (hsize : ¬(rows = 0 ∨ cols = 0))
    (hw : b.window? id = none) :
    b.edit id (.resize rows cols) = .error (.unknownWindow id) := by
  simp only [edit, checkSize, hsize, if_false, hw]
  rfl

theorem edit_unknown (he : e.isResize = false) (hw : b.window? id = none) :
    b.edit id e = .error (.unknownWindow id) := by
  unfold edit
  cases e with
  | resize => cases he
  | _ =>
    simp only [hw]
    rfl

end Buffers

end TerminalSession
