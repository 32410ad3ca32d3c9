import TerminalSession.Proofs.Paint.Grid
import TerminalSession.Proofs.Window.Pairs

/-!
# Writing on a terminal

Cells that fall apart into single cells and pairs are drawn as they are (`wrote_draw`), and the
terminal changes nowhere else, but for what is left of wide characters that the cells overlap
(`Wrote`). A line that is shown next to them has no such character, so it stays
(`Wrote.shows_of_apart`).

The writing of some lines shows those that are dirty, and spares the others and all lines apart from
them (`feed_lines`).
-/

namespace TerminalSession

open Line

namespace Cell

/-- A space takes the column that a blank takes. -/
@[simp] theorem face_width (cell : Cell) : cell.face.width = cell.width := by
  unfold face
  split
  · rename_i h
    simp only [width, h]
    decide
  · rfl

@[simp] theorem face_isWide (cell : Cell) : cell.face.isWide = cell.isWide := by
  rw [isWide, isWide, face_width]

@[simp] theorem face_isTail (cell : Cell) : cell.face.isTail = cell.isTail := by
  unfold face
  split
  · rename_i h
    rw [isTail, isTail, h]
    rfl
  · rfl

theorem exists_shown? {cell : Cell} (h : cell.width ≠ 0) :
    ∃ c, cell.shown? = some c ∧ columns c = cell.width := by
  rw [width_eq_columns_shown?] at h ⊢
  cases hs : cell.shown? with
  | none => exact absurd (by rw [hs]; rfl) h
  | some c => exact ⟨c, rfl, rfl⟩

theorem face_of_shown? {cell : Cell} {c : Char} (h : cell.shown? = some c) :
    cell.face = { glyph := .char c, attrs := cell.attrs } := by
  obtain ⟨glyph, attrs⟩ := cell
  cases glyph <;> cases h <;> rfl

end Cell

namespace Grid

variable {g g' g'' : Grid} {row col : Nat} {cells cells' : List Cell}

/-- The cells of a line are on the terminal, from a place on. -/
def Shows (g : Grid) (row col : Nat) (l : Line) : Prop :=
  ∀ x cell, l[x]? = some cell → g.cells row (col + x) = cell.face

/-- Some cells have been written from a place on. Only wide characters that reach into their
columns may have changed besides. -/
structure Wrote (g g' : Grid) (row col : Nat) (cells : List Cell) : Prop where
  rows : g'.rows = g.rows
  cols : g'.cols = g.cols
  shows : ∀ x cell, cells[x]? = some cell → g'.cells row (col + x) = cell.face
  others : ∀ r, r ≠ row → g'.cells r = g.cells r
  before : ∀ x < col, (x + 1 = col → (g.cells row x).isWide = false) →
    g'.cells row x = g.cells row x
  behind : ∀ x, col + cells.length ≤ x →
    (x = col + cells.length → (g.cells row x).isTail = false) → g'.cells row x = g.cells row x

namespace Wrote

theorem refl (g : Grid) (row col : Nat) : Wrote g g row col [] where
  rows := rfl
  cols := rfl
  shows x cell h := by simp at h
  others _ _ := rfl
  before _ _ _ := rfl
  behind _ _ _ := rfl

/-- Cells that do not end in the middle of a wide character stay when others are written behind
them. -/
theorem append (h : Wrote g g' row col cells) (h' : Wrote g' g'' row (col + cells.length) cells')
    (hlast : ∀ cell, cells[cells.length - 1]? = some cell → cell.isWide = false) :
    Wrote g g'' row col (cells ++ cells') where
  rows := h'.rows.trans h.rows
  cols := h'.cols.trans h.cols
  shows x cell hx := by
    rw [List.getElem?_append] at hx
    split at hx
    · rw [h'.before (col + x) (by omega), h.shows x cell hx]
      intro hnext
      rw [h.shows x cell hx, Cell.face_isWide]
      exact hlast cell (by rwa [show cells.length - 1 = x by omega])
    · rw [← h'.shows _ cell hx]
      congr 1
      omega
  others r hr := (h'.others r hr).trans (h.others r hr)
  before x hx hwide := by
    have hsame := h.before x hx hwide
    rw [h'.before x (by omega), hsame]
    intro hnext
    rw [hsame]
    exact hwide (by omega)
  behind x hx htail := by
    rw [List.length_append] at hx htail
    have hsame : g'.cells row x = g.cells row x := h.behind x (by omega) fun _ => htail (by omega)
    rw [h'.behind x (by omega), hsame]
    intro hnext
    rw [hsame]
    exact htail (by omega)

/-- A line that is shown apart from the cells written still is. -/
theorem shows_of_apart (h : Wrote g g' row col cells) {r x : Nat} {line : Line}
    (hline : Paired line.toList) (hshows : g.Shows r x line)
    (hapart : r ≠ row ∨ x + line.size ≤ col ∨ col + cells.length ≤ x) : g'.Shows r x line := by
  intro i cell hi
  have hlt := (Array.getElem?_eq_some_iff.mp hi).1
  rw [← hshows i cell hi]
  by_cases hr : r = row
  · subst hr
    rcases hapart with hr | hleft | hright
    · exact absurd rfl hr
    · refine h.before _ (by omega) fun hnext => ?_
      rw [hshows i cell hi, Cell.face_isWide]
      have hlast : i + 1 = line.toList.length := by rw [Array.length_toList]; omega
      exact hline.isWide_last hlast (by simpa using hi)
    · refine h.behind _ (by omega) fun hnext => ?_
      rw [hshows i cell hi, Cell.face_isTail]
      obtain rfl : i = 0 := by omega
      exact hline.isTail_zero (by simpa using hi)
  · rw [h.others r hr]

end Wrote

/-! ## Drawing -/

theorem overwrite_of_lt {attrs : Attrs} {c : Char} {cellsOf : Nat → Cell} {x : Nat} (hx : x < col)
    (hwide : x + 1 = col → (cellsOf x).isWide = false) :
    overwrite attrs c col cellsOf x = cellsOf x := by
  have hnot : ¬ ((x + 1 = col ∧ (cellsOf x).isWide = true) ∨
      (x = col + columns c ∧ (cellsOf x).isTail = true)) := by
    rintro (⟨hnext, hw⟩ | ⟨heq, -⟩)
    · exact Bool.eq_false_iff.mp (hwide hnext) hw
    · omega
  rw [overwrite, if_neg (by omega), if_neg (by omega), if_neg hnot]

theorem overwrite_of_le {attrs : Attrs} {c : Char} {cellsOf : Nat → Cell} {x : Nat}
    (hc : columns c ≠ 0) (hx : col + columns c ≤ x)
    (htail : x = col + columns c → (cellsOf x).isTail = false) :
    overwrite attrs c col cellsOf x = cellsOf x := by
  have hnot : ¬ ((x + 1 = col ∧ (cellsOf x).isWide = true) ∨
      (x = col + columns c ∧ (cellsOf x).isTail = true)) := by
    rintro (⟨hnext, -⟩ | ⟨heq, ht⟩)
    · omega
    · exact Bool.eq_false_iff.mp (htail heq) ht
  rw [overwrite, if_neg (by omega), if_neg (by omega), if_neg hnot]

variable {attrs : Attrs} {c : Char}

theorem put_of_fits (hc : columns c ≠ 0) (hfit : g.cursorCol + columns c ≤ g.cols) :
    (g.withAttrs attrs).put c = { g with
      cells := fun row =>
        if row = g.cursorRow then overwrite attrs c g.cursorCol (g.cells row) else g.cells row
      cursorCol := g.cursorCol + columns c
      attrs } := by
  have hdrop : ¬ (columns c = 0 ∨ g.cols < g.cursorCol + columns c) := by omega
  exact if_neg hdrop

theorem wrote_put (hc : columns c ≠ 0) (hfit : g.cursorCol + columns c ≤ g.cols)
    (hlen : cells.length = columns c)
    (hcells : ∀ x cell, cells[x]? = some cell →
      overwrite attrs c g.cursorCol (g.cells g.cursorRow) (g.cursorCol + x) = cell.face) :
    Wrote g ((g.withAttrs attrs).put c) g.cursorRow g.cursorCol cells := by
  rw [put_of_fits hc hfit]
  refine ⟨rfl, rfl, fun x cell hx => ?_, fun r hr => if_neg hr, fun x hx hw => ?_,
    fun x hx ht => ?_⟩
  · exact (congrFun (if_pos rfl) _).trans (hcells x cell hx)
  · exact (congrFun (if_pos rfl) _).trans (overwrite_of_lt hx hw)
  · rw [hlen] at hx ht
    exact (congrFun (if_pos rfl) _).trans (overwrite_of_le hc hx ht)

theorem put_cursor (attrs : Attrs) (hc : columns c ≠ 0) (hfit : g.cursorCol + columns c ≤ g.cols) :
    ((g.withAttrs attrs).put c).cursorRow = g.cursorRow ∧
      ((g.withAttrs attrs).put c).cursorCol = g.cursorCol + columns c ∧
      ((g.withAttrs attrs).put c).cols = g.cols := by
  rw [put_of_fits hc hfit]
  exact ⟨rfl, rfl, rfl⟩

/-- Single cells and pairs are drawn as they are. -/
theorem wrote_draw (h : Paired cells) (hfit : g.cursorCol + cells.length ≤ g.cols) :
    Wrote g (g.draw (cells.filterMap fun cell => cell.shown?.map (cell.attrs, ·)))
      g.cursorRow g.cursorCol cells := by
  induction h generalizing g with
  | nil => exact .refl ..
  | @single cell cells width rest ih =>
    obtain ⟨c, hs, hc⟩ := Cell.exists_shown? (show cell.width ≠ 0 by omega)
    rw [List.length_cons] at hfit
    have hfirst : Wrote g ((g.withAttrs cell.attrs).put c) g.cursorRow g.cursorCol [cell] := by
      refine wrote_put (by omega) (by omega) (by simp [hc, width]) fun x cell' hx => ?_
      obtain ⟨rfl, rfl⟩ : x = 0 ∧ cell' = cell := by
        cases x <;> simp_all
      rw [overwrite, if_pos (by omega), Cell.face_of_shown? hs]
    obtain ⟨hrow, hcol, hcols⟩ :=
      put_cursor (c := c) (g := g) cell.attrs (by omega) (by omega)
    have hnext := ih (g := (g.withAttrs cell.attrs).put c) (by omega)
    rw [hrow, hcol, hc, width] at hnext
    rw [List.filterMap_cons, hs, Option.map_some, draw_cons]
    refine hfirst.append hnext ?_
    intro cell' hcell'
    cases hcell'
    simp [Cell.isWide, width]
  | @pair head cells width rest ih =>
    obtain ⟨c, hs, hc⟩ := Cell.exists_shown? (show head.width ≠ 0 by omega)
    rw [List.length_cons, List.length_cons] at hfit
    have hfirst : Wrote g ((g.withAttrs head.attrs).put c) g.cursorRow g.cursorCol
        [head, { glyph := .tail, attrs := head.attrs }] := by
      refine wrote_put (by omega) (by omega) (by simp [hc, width]) fun x cell' hx => ?_
      rcases x with _ | _ | x
      · cases hx
        rw [overwrite, if_pos (by omega), Cell.face_of_shown? hs]
      · cases hx
        rw [overwrite, if_neg (by omega), if_pos (by omega)]
        rfl
      · cases hx
    obtain ⟨hrow, hcol, hcols⟩ :=
      put_cursor (c := c) (g := g) head.attrs (by omega) (by omega)
    have hnext := ih (g := (g.withAttrs head.attrs).put c) (by omega)
    rw [hrow, hcol, hc, width] at hnext
    rw [List.filterMap_cons, hs, Option.map_some, draw_cons]
    refine hfirst.append hnext ?_
    intro cell' hcell'
    cases hcell'
    rfl

theorem wrote_line {line : Line} (h : Paired line.toList) (hrow : row < g.rows)
    (hfit : col + line.size ≤ g.cols) :
    Wrote g (g.feed (.moveTo row col :: lineSequences line)) row col line.toList := by
  rw [feed_cons, feed_lineSequences]
  rcases Nat.eq_zero_or_pos line.size with hzero | hpos
  · obtain rfl := Array.eq_empty_of_size_eq_zero hzero
    have := Wrote.refl g row col
    exact ⟨rfl, rfl, this.shows, this.others, this.before, this.behind⟩
  · have hcursor : g.interpret (.moveTo row col) =
        { g with cursorRow := row, cursorCol := col } := by
      simp only [interpret, show min row (g.rows - 1) = row by omega,
        show min col (g.cols - 1) = col by omega]
    have hdraw := wrote_draw (g := { g with cursorRow := row, cursorCol := col }) h
      (by simpa using hfit)
    rw [hcursor]
    exact ⟨hdraw.rows, hdraw.cols, hdraw.shows, hdraw.others, hdraw.before, hdraw.behind⟩

end Grid

/-! ## Windows -/

/-- Whether a stretch of a row lies outside of a rectangle. -/
def Rect.Misses (area : Rect) (row col length : Nat) : Prop :=
  row < area.top ∨ area.top + area.rows ≤ row ∨ col + length ≤ area.left ∨
    area.left + area.cols ≤ col

namespace Grid

variable {g g' g'' : Grid} {P Q : Nat → Nat → Nat → Prop}

/-- Whole lines that are shown still are, at least on the stretches of rows that `P` allows. -/
structure Spares (P : Nat → Nat → Nat → Prop) (g g' : Grid) : Prop where
  rows : g'.rows = g.rows
  cols : g'.cols = g.cols
  shows : ∀ {row col : Nat} {line : Line}, Paired line.toList → P row col line.size →
    g.Shows row col line → g'.Shows row col line

theorem Spares.refl (P : Nat → Nat → Nat → Prop) (g : Grid) : Spares P g g :=
  ⟨rfl, rfl, fun _ _ h => h⟩

theorem Spares.trans (h : Spares P g g') (h' : Spares P g' g'') : Spares P g g'' where
  rows := h'.rows.trans h.rows
  cols := h'.cols.trans h.cols
  shows hp hP hs := h'.shows hp hP (h.shows hp hP hs)

theorem Spares.mono (h : Spares P g g')
    (hPQ : ∀ row col length, Q row col length → P row col length) : Spares Q g g' :=
  ⟨h.rows, h.cols, fun hp hQ hs => h.shows hp (hPQ _ _ _ hQ) hs⟩

theorem Wrote.spares {row col : Nat} {cells : List Cell} (h : Wrote g g' row col cells) :
    Spares (Rect.Misses ⟨row, col, 1, cells.length⟩) g g' := by
  refine ⟨h.rows, h.cols, fun hp hmiss hs => h.shows_of_apart hp hs ?_⟩
  simp only [Rect.Misses] at hmiss
  omega

variable {top left cols : Nat}

/-- The writing of the dirty ones of some lines, which begin with the line number `first`. -/
def linesSequences (top left : Nat) (dirty : Nat → Bool) (lines : List Line) (first : Nat) :
    List Sequence :=
  (lines.zipIdx first).flatMap fun (line, row) =>
    if dirty row then .moveTo (top + row) left :: lineSequences line else []

theorem feed_line (dirty : Bool) {row col : Nat} {line : Line} (h : Paired line.toList)
    (hrow : row < g.rows) (hfit : col + line.size ≤ g.cols) :
    Spares (Rect.Misses ⟨row, col, 1, line.size⟩) g
        (g.feed (if dirty then .moveTo row col :: lineSequences line else [])) ∧
      ((dirty = false → g.Shows row col line) →
        (g.feed (if dirty then .moveTo row col :: lineSequences line else [])).Shows
          row col line) := by
  cases dirty with
  | false => exact ⟨.refl _ _, fun h => h rfl⟩
  | true =>
    have hwrote : Wrote g _ row col line.toList := wrote_line h hrow hfit
    refine ⟨by simpa using hwrote.spares, fun _ x cell hx => ?_⟩
    exact hwrote.shows x cell (by simpa using hx)

/-- Writing lines shows them, if those that are not dirty are shown already. -/
theorem feed_lines (dirty : Nat → Bool) {lines : List Line} {first : Nat}
    (hlines : ∀ line ∈ lines, Paired line.toList ∧ line.size = cols)
    (hrows : top + first + lines.length ≤ g.rows) (hcols : left + cols ≤ g.cols) :
    Spares (Rect.Misses ⟨top + first, left, lines.length, cols⟩) g
        (g.feed (linesSequences top left dirty lines first)) ∧
      ∀ i line, lines[i]? = some line →
        (dirty (first + i) = false → g.Shows (top + (first + i)) left line) →
        (g.feed (linesSequences top left dirty lines first)).Shows
          (top + (first + i)) left line := by
  induction lines generalizing g first with
  | nil => exact ⟨.refl _ _, fun i line hi => by simp at hi⟩
  | cons line lines ih =>
    obtain ⟨hpaired, hsize⟩ := hlines line (.head _)
    rw [List.length_cons] at hrows
    obtain ⟨hspares, hshows⟩ := feed_line (dirty first) hpaired (show top + first < g.rows by omega)
      (show left + line.size ≤ g.cols by omega)
    rw [hsize] at hspares
    simp only [linesSequences, List.zipIdx_cons, List.flatMap_cons, feed_append]
    generalize g.feed (if dirty first then _ else _) = g₁ at hspares hshows ⊢
    have hrows' : top + (first + 1) + lines.length ≤ g₁.rows := by
      rw [hspares.rows]
      omega
    have hcols' : left + cols ≤ g₁.cols := by rwa [hspares.cols]
    obtain ⟨hspares', hshows'⟩ := ih (fun line h => hlines line (.tail _ h)) hrows' hcols'
    refine ⟨(hspares.mono ?_).trans (hspares'.mono ?_), fun i line' hi hclean => ?_⟩
    · intro row col length hmiss
      simp only [Rect.Misses, List.length_cons] at hmiss ⊢
      omega
    · intro row col length hmiss
      simp only [Rect.Misses, List.length_cons] at hmiss ⊢
      omega
    · cases i with
      | zero =>
        cases hi
        refine hspares'.shows hpaired ?_ (hshows hclean)
        simp only [Rect.Misses]
        omega
      | succ i =>
        rw [show first + (i + 1) = first + 1 + i by omega] at hclean ⊢
        refine hshows' i line' hi fun hd => ?_
        obtain ⟨hpaired', hsize'⟩ := hlines line' (.tail _ (List.mem_of_getElem? hi))
        refine hspares.shows hpaired' ?_ (hclean hd)
        simp only [Rect.Misses]
        omega

end Grid

end TerminalSession
