import TerminalSession.Proofs.Window.Change

/-!
# The shape of a window

Two properties that every window has whatever happens to it: its lines are as long as it is wide
(`rectangular_changes`), and if no text has a character of more than two columns, each cell is
blank, the tail of a wide character, or holds a character of one or two columns
(`drawn_changes`).
-/

namespace TerminalSession

/-- A cell that holds no character but one of one or two columns. -/
def Cell.Drawn (cell : Cell) : Prop :=
  ∀ c, cell.glyph = .char c → columns c = 1 ∨ columns c = 2

namespace Window

variable {w : Window} {attrs : Attrs} {l : Line} {cols col : Nat} {text : List Char}

/-! ## Lines -/

@[simp] theorem size_blankFrom (attrs : Attrs) (col : Nat) (l : Line) :
    (blankFrom attrs col l).size = l.size := by
  simp [blankFrom]

@[simp] theorem size_putChar (attrs : Attrs) (l : Line) (col : Nat) (c : Char) :
    (putChar attrs l col c).size = l.size := by
  unfold putChar
  split <;> simp

@[simp] theorem size_putChars (attrs : Attrs) (cols : Nat) (text : List Char) (col : Nat)
    (l : Line) : (putChars attrs cols text col l).1.size = l.size := by
  induction text generalizing col l with
  | nil => rfl
  | cons c text ih =>
    rw [putChars]
    split
    · exact ih ..
    · split
      · rfl
      · rw [ih, size_putChar]

theorem putChars_empty (attrs : Attrs) (cols : Nat) (text : List Char) (col : Nat) :
    (putChars attrs cols text col #[]).1 = #[] :=
  Array.eq_empty_of_size_eq_zero (size_putChars ..)

/-- Every line is as long as the window is wide. -/
def Rectangular (w : Window) : Prop := ∀ l ∈ w.lines, l.size = w.cols

theorem rectangular_blank (area : Rect) : (blank area).Rectangular := by
  intro l h
  obtain ⟨-, rfl⟩ := Array.mem_replicate.mp h
  simp [blank]

theorem Rectangular.change (h : w.Rectangular) (c : Change) : (w.change c).Rectangular := by
  cases c with
  | putCursor => exact h
  | edit e =>
    cases e with
    | resize rows cols =>
      intro l hl
      obtain ⟨old, -, rfl⟩ := Array.mem_map.mp hl
      exact size_fit ..
    | move top left =>
      simp only [Rectangular, Window.change, edit, move]
      split <;> exact h
    | erase =>
      intro l hl
      obtain ⟨old, hold, rfl⟩ := Array.mem_map.mp hl
      exact Array.size_map.trans (h old hold)
    | eraseBelow =>
      intro l hl
      obtain ⟨row, hrow⟩ := Array.mem_iff_getElem?.mp hl
      rw [Window.change, edit, getElem?_lines_eraseBelow] at hrow
      obtain ⟨old, hold, rfl⟩ := Option.map_eq_some_iff.mp hrow
      have hsize := h old (Array.mem_of_getElem? hold)
      split
      · exact hsize
      · exact (size_blankFrom ..).trans hsize
    | putText row col text =>
      intro l hl
      have hcols : (w.putText row col text).cols = w.cols := by
        unfold putText
        split <;> rfl
      obtain ⟨r, hrow⟩ := Array.mem_iff_getElem?.mp hl
      rw [Window.change, edit, getElem?_lines_putText] at hrow
      rw [Window.change, edit, hcols]
      split at hrow
      · obtain ⟨old, hold, rfl⟩ := Option.map_eq_some_iff.mp hrow
        simpa using h old (Array.mem_of_getElem? hold)
      · exact h l (Array.mem_of_getElem? hrow)
    | setAttrs | markDirty | markClean | setClear => exact h

/-- Lines stay as long as the window is wide. -/
theorem rectangular_changes (h : w.Rectangular) (cs : List Change) :
    (w.changes cs).Rectangular := by
  induction cs generalizing w with
  | nil => exact h
  | cons c cs ih => exact ih (h.change c)

/-! ## Cells -/

variable {P : Cell → Prop}

theorem forall_cells_fit (h : ∀ cell ∈ l, P cell) (hblank : P {}) (cols : Nat) :
    ∀ cell ∈ fit l cols {}, P cell := by
  intro cell hc
  obtain ⟨i, hi⟩ := Array.mem_iff_getElem?.mp hc
  rw [getElem?_fit] at hi
  split at hi <;> cases hi
  cases hl : l[i]? with
  | none => exact hblank
  | some cell => exact h cell (Array.mem_of_getElem? hl)

theorem forall_cells_blankFrom (h : ∀ cell ∈ l, P cell) (hblank : P (Cell.blank attrs))
    (col : Nat) : ∀ cell ∈ blankFrom attrs col l, P cell := by
  intro cell hc
  obtain ⟨i, hi⟩ := Array.mem_iff_getElem?.mp hc
  simp only [blankFrom, Array.getElem?_mapIdx] at hi
  obtain ⟨old, hold, rfl⟩ := Option.map_eq_some_iff.mp hi
  split
  · exact h old (Array.mem_of_getElem? hold)
  · exact hblank

theorem forall_cells_putChar {c : Char} (h : ∀ cell ∈ l, P cell)
    (hchar : P { glyph := .char c, attrs }) (htail : P { glyph := .tail, attrs }) (col : Nat) :
    ∀ cell ∈ putChar attrs l col c, P cell := by
  have set : ∀ {l : Line} {new : Cell} (i : Nat), (∀ cell ∈ l, P cell) → P new →
      ∀ cell ∈ l.setIfInBounds i new, P cell := by
    intro l new i h hnew cell hc
    rcases Array.mem_or_eq_of_mem_setIfInBounds hc with hc | rfl
    · exact h cell hc
    · exact hnew
  unfold putChar
  split
  · exact set _ (set _ h hchar) htail
  · exact set _ h hchar

theorem forall_cells_putChars (h : ∀ cell ∈ l, P cell)
    (hchar : ∀ c ∈ text, columns c ≠ 0 → P { glyph := .char c, attrs })
    (htail : P { glyph := .tail, attrs }) (cols col : Nat) :
    ∀ cell ∈ (putChars attrs cols text col l).1, P cell := by
  induction text generalizing col l with
  | nil => exact h
  | cons c text ih =>
    have hrest := fun c hc => hchar c (.tail _ hc)
    rw [putChars]
    split
    · exact ih h hrest col
    · split
      · exact h
      · exact ih (forall_cells_putChar h (hchar c (.head _) ‹_›) htail col) hrest _

/-- What holds of blanks, of tails and of all characters written that have a width holds of all
cells. -/
theorem forall_cells_changes (hblank : ∀ attrs, P (Cell.blank attrs))
    (htail : ∀ attrs, P { glyph := .tail, attrs }) {cs : List Change}
    (hchar : ∀ c ∈ cs, ∀ char ∈ c.text, columns char ≠ 0 →
      ∀ attrs, P { glyph := .char char, attrs })
    (h : ∀ l ∈ w.lines, ∀ cell ∈ l, P cell) :
    ∀ l ∈ (w.changes cs).lines, ∀ cell ∈ l, P cell := by
  refine forall_lines_changes (Q := fun l => ∀ cell ∈ l, P cell) h ?_ ?_ ?_
  · intro cols l hl
    refine forall_cells_fit ?_ (hblank {}) cols
    rcases hl with rfl | hl
    · simp
    · exact hl
  · exact fun attrs col l hl => forall_cells_blankFrom hl (hblank attrs) col
  · exact fun attrs cols col l c hc hl =>
      forall_cells_putChars hl (fun char h hw => hchar c hc char h hw attrs) (htail attrs) cols col

theorem cells_blank (area : Rect) (hblank : P {}) :
    ∀ l ∈ (blank area).lines, ∀ cell ∈ l, P cell := by
  intro l hl cell hc
  obtain ⟨-, rfl⟩ := Array.mem_replicate.mp hl
  obtain ⟨-, rfl⟩ := Array.mem_replicate.mp hc
  exact hblank

/-- Cells hold characters of one or two columns as long as no wider ones are written. -/
theorem drawn_changes {cs : List Change} (narrow : ∀ c ∈ cs, c.Narrow)
    (h : ∀ l ∈ w.lines, ∀ cell ∈ l, cell.Drawn) :
    ∀ l ∈ (w.changes cs).lines, ∀ cell ∈ l, cell.Drawn := by
  refine forall_cells_changes ?_ ?_ ?_ h
  · intro attrs c hc
    cases hc
  · intro attrs c hc
    cases hc
  · intro c hc char hchar hw attrs d hd
    cases hd
    have := narrow c hc char hchar
    omega

end Window

end TerminalSession
