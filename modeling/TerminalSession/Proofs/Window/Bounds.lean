import TerminalSession.Proofs.Engine.Budget
import TerminalSession.Proofs.Window.Writing

/-!
# Places inside of a window

Whatever happens to a window, it keeps its shape (`shape_changes`). Since its lines stay as long as
it is wide, nothing goes outside of them: not the writing of a text (`putText?_eq`), and not the
blanking of all that comes behind the cursor, which may be anywhere (`eraseBelow?_eq`).
-/

namespace TerminalSession

/-- A character takes at most two columns, but for one that takes three. -/
theorem columns_cases (c : Char) : columns c = 0 ∨ columns c = 1 ∨ columns c = 2 ∨
    c = Char.ofNat 0x17D8 ∧ columns c = 3 := by
  by_cases htriple : inRanges tripleRanges c.toNat = true
  · have hcode : c.toNat = 0x17D8 := by
      simp only [inRanges, tripleRanges, List.any_cons, List.any_nil, Bool.or_false,
        Bool.and_eq_true, decide_eq_true_eq] at htriple
      omega
    have hc : c = Char.ofNat 0x17D8 := by
      rw [← Char.ofNat_toNat c, hcode]
    have hcolumns : columns (Char.ofNat 0x17D8) = 3 := by decide +kernel
    exact .inr (.inr (.inr ⟨hc, hc ▸ hcolumns⟩))
  · rw [columns]
    split
    · exact .inr (.inl rfl)
    split
    · exact .inl rfl
    split
    · exact .inr (.inr (.inl rfl))
    · exact .inr (.inl rfl)

/-- A cell is blank, the tail of a wide character, or holds one character and is as wide as that:
one column, two columns, or three for the one character that takes as many. -/
def Cell.Proper (cell : Cell) : Prop :=
  (cell.glyph = .blank ∧ cell.width = 1) ∨ (cell.glyph = .tail ∧ cell.width = 0) ∨
    ∃ c, cell.glyph = .char c ∧ cell.width = columns c ∧
      (columns c = 1 ∨ columns c = 2 ∨ c = Char.ofNat 0x17D8 ∧ columns c = 3)

namespace Window

variable {w : Window} {attrs : Attrs} {cs : List Change}

/-! ## Walks -/

section

variable {α : Type}

/-- Replaces the elements at some places one after another, without a result if there is no such
place, or if there is nothing to replace an element by. -/
def replaceAt? (f : Nat → α → Option α) (places : List Nat) (xs : Array α) : Option (Array α) :=
  places.foldlM (fun xs i => do return xs.setIfInBounds i (← f i (← xs[i]?))) xs

/-- A walk over places that there are replaces just the elements there. -/
theorem replaceAt?_range' {f : Nat → α → Option α} {g : Nat → α → α} {first count : Nat}
    {xs : Array α} (hf : ∀ i x, xs[i]? = some x → f i x = some (g i x))
    (hplaces : ∀ i, first ≤ i → i < first + count → i < xs.size) :
    replaceAt? f (List.range' first count) xs =
      some (xs.mapIdx fun i x => if first ≤ i ∧ i < first + count then g i x else x) := by
  induction count with
  | zero =>
    have hsame : (xs.mapIdx fun i x => if first ≤ i ∧ i < first + 0 then g i x else x) = xs := by
      apply Array.ext_getElem?
      intro i
      have hnever : ¬ (first ≤ i ∧ i < first + 0) := by omega
      simp only [Array.getElem?_mapIdx, hnever, if_false, Option.map_id']
    rw [hsame]
    rfl
  | succ count ih =>
    obtain ⟨x, hx⟩ : ∃ x, xs[first + count]? = some x :=
      ⟨_, Array.getElem?_eq_getElem (hplaces _ (by omega) (by omega))⟩
    have hnext : (xs.mapIdx fun i x => if first ≤ i ∧ i < first + count then g i x else x)[
        first + count]? = some x := by
      rw [Array.getElem?_mapIdx, hx, Option.map_some, if_neg (by omega)]
    have hwalk := ih fun i hfrom hto => hplaces i hfrom (by omega)
    unfold replaceAt? at hwalk ⊢
    rw [List.range'_concat, Nat.one_mul, List.foldlM_append, hwalk, Option.bind_eq_bind,
      Option.bind_some, List.foldlM_cons, hnext]
    simp only [Option.bind_eq_bind, Option.bind_some, hf _ _ hx, List.foldlM_nil, Option.pure_def,
      Option.some.injEq]
    apply Array.ext_getElem?
    intro i
    rw [Array.getElem?_setIfInBounds, Array.size_mapIdx, Array.getElem?_mapIdx,
      Array.getElem?_mapIdx]
    by_cases hi : first + count = i
    · rw [if_pos hi, if_pos (hplaces _ (by omega) (by omega)), ← hi, hx, Option.map_some,
        if_pos (by omega)]
    · have hbefore : (first ≤ i ∧ i < first + count) ↔ (first ≤ i ∧ i < first + (count + 1)) := by
        omega
      simp only [if_neg hi, hbefore]

end

/-! ## Blanking -/

/-- Blanks the cells of a line from one column up to another one, without a result if the line does
not have one of these columns. -/
def blankFrom? (attrs : Attrs) (col cols : Nat) (line : Line) : Option Line :=
  replaceAt? (fun _ _ => some (Cell.blank attrs)) (List.range' col (cols - col)) line

/-- `eraseBelow`, walking over the lines and columns that the window has, without a result if one of
them is missing. -/
def eraseBelow? (w : Window) : Option Window := do
  let lines ← replaceAt?
    (fun row => blankFrom? w.attrs (if row = w.cursorRow then w.cursorCol else 0) w.cols)
    (List.range' w.cursorRow (w.rows - w.cursorRow)) w.lines
  return { w with lines, damage := w.damage.mark w.cursorRow w.lines.size }

theorem blankFrom?_eq {line : Line} {cols : Nat} (hsize : line.size = cols) (attrs : Attrs)
    (col : Nat) : blankFrom? attrs col cols line = some (blankFrom attrs col line) := by
  rw [blankFrom?, replaceAt?_range' (g := fun _ _ => Cell.blank attrs) (fun _ _ _ => rfl)
    fun i _ _ => by omega, blankFrom]
  congr 1
  apply Array.ext_getElem?
  intro x
  rw [Array.getElem?_mapIdx, Array.getElem?_mapIdx]
  refine Option.map_congr fun cell hcell => ?_
  have hx : x < line.size := (Array.getElem?_eq_some_iff.mp hcell).1
  by_cases hbefore : x < col
  · rw [if_pos hbefore, if_neg (by omega)]
  · rw [if_neg hbefore, if_pos (by omega)]

/-- **Nothing is blanked outside of a line**, wherever the cursor is. -/
theorem eraseBelow?_eq (h : w.Rectangular) : w.eraseBelow? = some w.eraseBelow := by
  have hline (row : Nat) (line : Line) (hrow : w.lines[row]? = some line) :=
    blankFrom?_eq (h line (Array.mem_of_getElem? hrow)) w.attrs
      (if row = w.cursorRow then w.cursorCol else 0)
  have hlines : w.eraseBelow.lines = w.lines.mapIdx fun row line =>
      if w.cursorRow ≤ row ∧ row < w.cursorRow + (w.rows - w.cursorRow) then
        blankFrom w.attrs (if row = w.cursorRow then w.cursorCol else 0) line
      else line := by
    apply Array.ext_getElem?
    intro row
    rw [getElem?_lines_eraseBelow, Array.getElem?_mapIdx]
    refine Option.map_congr fun line hrow => ?_
    have hlt : row < w.rows := (Array.getElem?_eq_some_iff.mp hrow).1
    by_cases hbefore : row < w.cursorRow
    · rw [if_pos hbefore, if_neg (by omega)]
    · have hwalked : w.cursorRow ≤ row ∧ row < w.cursorRow + (w.rows - w.cursorRow) := by omega
      rw [if_neg hbefore, if_pos hwalked]
  rw [eraseBelow?, replaceAt?_range' hline fun i _ _ => by rw [rows] at *; omega, ← hlines]
  rfl

/-! ## Sizes -/

/-- A window has fewer than 2^16 lines and columns. -/
structure Small (w : Window) : Prop where
  rows : w.rows < 2 ^ 16
  cols : w.cols < 2 ^ 16

theorem Small.of_size {w' : Window} (h : w.Small) (hrows : w'.area.rows = w.area.rows)
    (hcols : w'.area.cols = w.area.cols) : w'.Small :=
  ⟨hrows.trans_lt h.rows, hcols.trans_lt h.cols⟩

theorem rows_resize (w : Window) (rows cols : Nat) : (w.resize rows cols).rows = rows :=
  congrArg Rect.rows (w.area_edit (.resize rows cols))

/-- A window stays small if all its new sizes are. -/
theorem small_changes (h : w.Small)
    (hsizes : ∀ rows cols, .edit (.resize rows cols) ∈ cs → rows < 2 ^ 16 ∧ cols < 2 ^ 16) :
    (w.changes cs).Small := by
  induction cs generalizing w with
  | nil => exact h
  | cons c cs ih =>
    refine ih ?_ fun rows cols hmem => hsizes rows cols (.tail _ hmem)
    cases c with
    | putCursor => exact ⟨h.rows, h.cols⟩
    | edit e =>
      have hrows := congrArg Rect.rows (w.area_edit e)
      have hcols := congrArg Rect.cols (w.area_edit e)
      cases e with
      | resize rows cols =>
        obtain ⟨hnewRows, hnewCols⟩ := hsizes rows cols (.head _)
        exact ⟨hrows.trans_lt hnewRows, hcols.trans_lt hnewCols⟩
      | _ => exact h.of_size hrows hcols

/-! ## The cursor -/

/-- The cursor is at a cell of the window. -/
def CursorInside (w : Window) : Prop := w.cursorRow < w.rows ∧ w.cursorCol < w.cols

theorem cursorInside_resize (w : Window) {rows cols : Nat} (hrows : 0 < rows) (hcols : 0 < cols) :
    (w.resize rows cols).CursorInside := by
  rw [CursorInside, rows_resize]
  simp only [resize]
  omega

theorem cursorInside_putText {row : Nat} (hrow : row < w.rows) (hcols : 0 < w.cols) (col : Nat)
    (text : String) : (w.putText row col text).CursorInside := by
  have harea : (w.putText row col text).area = w.area := w.area_edit (.putText row col text)
  have hrows : (w.putText row col text).rows = w.rows := congrArg Rect.rows harea
  rw [CursorInside, hrows, putText, Array.getElem?_eq_getElem hrow]
  dsimp only
  omega

/-! ## Cells -/

theorem proper_changes (h : ∀ line ∈ w.lines, ∀ cell ∈ line, cell.Proper) (cs : List Change) :
    ∀ line ∈ (w.changes cs).lines, ∀ cell ∈ line, cell.Proper := by
  refine forall_cells_changes (fun _ => .inl ⟨rfl, rfl⟩) (fun _ => .inr (.inl ⟨rfl, rfl⟩)) ?_ h
  intro _ _ c _ hcolumns attrs
  exact .inr (.inr ⟨c, rfl, rfl, (columns_cases c).resolve_left hcolumns⟩)

/-- **A window keeps its shape.** Whatever happens to it, all its lines are as long as it is wide,
there are fewer than 2^16 of them if no size says otherwise, and its cells are proper ones. So
nothing is written or blanked outside of its lines, its cells are counted right, and with a text or
a new size the cursor comes inside. -/
theorem shape_changes (area : Rect) (cs : List Change)
    (harea : area.rows < 2 ^ 16 ∧ area.cols < 2 ^ 16)
    (hsizes : ∀ rows cols, .edit (.resize rows cols) ∈ cs → rows < 2 ^ 16 ∧ cols < 2 ^ 16) :
    let w := (blank area).changes cs
    (∀ line ∈ w.lines, line.size = w.cols) ∧ w.lines.size < 2 ^ 16 ∧
    (∀ line ∈ w.lines, ∀ cell ∈ line, cell.Proper) ∧
    (∀ row col text, w.putText? row col text = some (w.putText row col text)) ∧
    w.eraseBelow? = some w.eraseBelow ∧
    w.cellCount = w.held ∧
    (∀ row col text, row < w.rows → 0 < w.cols → (w.putText row col text).CursorInside) ∧
    ∀ rows cols, 0 < rows → 0 < cols → (w.resize rows cols).CursorInside := by
  intro w
  have hrect : w.Rectangular := rectangular_changes (rectangular_blank area) cs
  have hsmall : w.Small :=
    small_changes ⟨by simpa [rows, blank] using harea.1, harea.2⟩ hsizes
  refine ⟨hrect, hsmall.rows, ?_, putText?_eq hrect, eraseBelow?_eq hrect, hrect.held_eq.symm,
    fun row col text hrow hcols => cursorInside_putText hrow hcols col text,
    fun rows cols hrows hcols => w.cursorInside_resize hrows hcols⟩
  exact proper_changes (cells_blank area (.inl ⟨rfl, rfl⟩)) cs

/-- A window that is written to, cut through a wide character, and erased from a place outside of
it on. -/
def battered : List Change :=
  [.edit (.putText 1 1 (String.ofList ['日'])), .edit (.resize 3 2), .putCursor 9 9,
    .edit .eraseBelow]

/-- All its lines have the two columns of its new size. -/
theorem shape_changes_battered :
    ((2 < 2 ^ 16 ∧ 3 < 2 ^ 16) ∧
      ∀ rows cols, .edit (.resize rows cols) ∈ battered → rows < 2 ^ 16 ∧ cols < 2 ^ 16) ∧
    ((blank ⟨0, 0, 2, 3⟩).changes battered).lines.size = 3 ∧
    (∀ line ∈ ((blank ⟨0, 0, 2, 3⟩).changes battered).lines, line.size = 2) ∧
    ((blank ⟨0, 0, 2, 3⟩).changes battered).eraseBelow? =
      some ((blank ⟨0, 0, 2, 3⟩).changes battered).eraseBelow := by
  have harea : 2 < 2 ^ 16 ∧ 3 < 2 ^ 16 := by decide
  have hsizes : ∀ rows cols, .edit (.resize rows cols) ∈ battered →
      rows < 2 ^ 16 ∧ cols < 2 ^ 16 := by
    intro rows cols hmem
    obtain ⟨rfl, rfl⟩ : rows = 3 ∧ cols = 2 := by simpa [battered] using hmem
    decide
  obtain ⟨hlines, -, -, -, herase, -⟩ := shape_changes ⟨0, 0, 2, 3⟩ battered harea hsizes
  exact ⟨⟨harea, hsizes⟩, by decide +kernel, hlines, herase⟩

/-- The one character of three columns makes a cell of three columns. -/
theorem shape_triple : ∃ line ∈ ((blank ⟨0, 0, 1, 3⟩).changes
      [.edit (.putText 0 0 (String.ofList [Char.ofNat 0x17D8]))]).lines,
    ∃ cell ∈ line, cell.glyph = .char (Char.ofNat 0x17D8) ∧ cell.width = 3 := by
  decide +kernel

end Window

end TerminalSession
