import TerminalSession.Layout
import TerminalSession.Window.Basic

/-!
# The areas of a layout

Where the windows of a session go in a layout. The areas that are seen are the reserved lines, the
display and the label strip; they cover each cell of the terminal exactly once, and nothing outside
it (`countP_visibleAreas`).
-/

namespace TerminalSession

/-- Whether a rectangle has a cell at a place of the terminal. -/
def Rect.Covers (area : Rect) (row col : Nat) : Prop :=
  area.top ≤ row ∧ row < area.top + area.rows ∧ area.left ≤ col ∧ col < area.left + area.cols

/-- The rows of a rectangle. -/
def Rect.span (area : Rect) : List Nat := List.range' area.top area.rows

instance (area : Rect) (row col : Nat) : Decidable (area.Covers row col) :=
  inferInstanceAs (Decidable (_ ∧ _))

namespace Layout

variable {rows cols : Nat} {sides : List Side} {strip : StripPlacement} {l : Layout}

/-- The area of a window for the whole terminal. -/
def screenArea (l : Layout) : Rect := ⟨0, 0, l.terminalRows, l.terminalCols⟩

def displayArea (l : Layout) : Rect := ⟨l.displayTop, 0, l.usableRows, l.usableCols⟩

/-- The area of the label strip, if there is one. -/
def stripArea? (l : Layout) : Option Rect :=
  l.stripTop.map fun top => ⟨top, 0, l.strip.rows, l.terminalCols⟩

def lineArea (l : Layout) (line : ReservedLine) : Rect := ⟨line.row, 0, 1, l.terminalCols⟩

/-- The areas of all windows of a session, in the order in which they are made. -/
def areas (l : Layout) : List Rect :=
  l.screenArea :: l.screenArea ::
    (l.stripArea?.toList ++ (l.reserved.map l.lineArea ++ [l.displayArea]))

/-- The areas of the windows that are seen, in the order in which they are painted. -/
def visibleAreas (l : Layout) : List Rect :=
  l.reserved.map l.lineArea ++ [l.displayArea] ++ l.stripArea?.toList

/-! ## What allocating gives -/

/-- The row that the strip starts at, if it has any. -/
def stripRow (rows : Nat) (sides : List Side) (strip : StripPlacement) : Nat :=
  match strip.anchor with
  | .bottom => rows - strip.rows
  | .top => sides.count .top

/-- A layout as it is allocated. -/
structure Allocated (rows cols : Nat) (sides : List Side) (strip : StripPlacement) (l : Layout) :
    Prop where
  terminalRows : l.terminalRows = rows
  terminalCols : l.terminalCols = cols
  usableCols : l.usableCols = cols
  placement : l.strip = strip
  reserved : l.reserved = reserve sides 0 (bottomEdge rows strip)
  displayTop : l.displayTop = match strip.anchor with
    | .bottom => sides.count .top
    | .top => sides.count .top + strip.rows
  stripTop : l.stripTop = if strip.rows = 0 then none else some (stripRow rows sides strip)
  sum : rows = l.usableRows + sides.length + strip.rows
  usableRows : 2 ≤ l.usableRows
  enoughCols : 2 ≤ cols

theorem of_allocate (h : allocate rows cols sides strip = .ok l) :
    Allocated rows cols sides strip l := by
  simp only [allocate] at h
  split at h
  · cases h
  rename_i husable
  have hrows : rows = rows - (sides.length + strip.rows) + sides.length + strip.rows := by omega
  cases h
  refine ⟨rfl, rfl, rfl, rfl, rfl, rfl, ?_, hrows, by dsimp only; omega, by omega⟩
  obtain ⟨stripRows, anchor⟩ := strip
  cases anchor <;> rfl

theorem Allocated.length_reserved (h : Allocated rows cols sides strip l) :
    l.reserved.length = sides.length := by
  rw [h.reserved, length_reserve]

/-- There is a strip exactly if it has rows. -/
theorem Allocated.isSome_stripTop (h : Allocated rows cols sides strip l) :
    l.stripTop.isSome = decide (strip.rows ≠ 0) := by
  rw [h.stripTop]
  split <;> simp_all

/-! ## Tiling -/

/-- Reserved lines take the rows from `top` down and from `edge` up, each once. -/
theorem countP_reserve {top edge : Nat} (row : Nat)
    (hroom : top + sides.count .top + sides.count .bottom ≤ edge) :
    (reserve sides top edge).countP (fun line => line.row = row) =
      if (top ≤ row ∧ row < top + sides.count .top) ∨
        (edge - sides.count .bottom ≤ row ∧ row < edge) then 1 else 0 := by
  induction sides generalizing top edge with
  | nil =>
    have hnone : ¬ ((top ≤ row ∧ row < top + 0) ∨ (edge - 0 ≤ row ∧ row < edge)) := by omega
    exact (if_neg hnone).symm
  | cons side sides ih =>
    cases side with
    | top =>
      have htop : (Side.top :: sides).count .top = sides.count .top + 1 := List.count_cons_self
      have hbottom : (Side.top :: sides).count .bottom = sides.count .bottom :=
        List.count_cons_of_ne (by decide)
      rw [htop, hbottom] at hroom ⊢
      simp only [reserve, List.countP_cons, decide_eq_true_eq]
      have hrest : top + 1 + sides.count .top + sides.count .bottom ≤ edge := by omega
      rw [ih hrest]
      split <;> split <;> split <;> omega
    | bottom =>
      have htop : (Side.bottom :: sides).count .top = sides.count .top :=
        List.count_cons_of_ne (by decide)
      have hbottom : (Side.bottom :: sides).count .bottom = sides.count .bottom + 1 :=
        List.count_cons_self
      rw [htop, hbottom] at hroom ⊢
      simp only [reserve, List.countP_cons, decide_eq_true_eq]
      have hrest : top + sides.count .top + sides.count .bottom ≤ edge - 1 := by omega
      rw [ih hrest]
      split <;> split <;> split <;> omega

theorem length_eq_count (sides : List Side) :
    sides.length = sides.count .top + sides.count .bottom := by
  induction sides with
  | nil => rfl
  | cons side sides ih => cases side <;> simp [ih] <;> omega

theorem covers_iff {top rows cols row col : Nat} :
    Rect.Covers ⟨top, 0, rows, cols⟩ row col ↔ (top ≤ row ∧ row < top + rows) ∧ col < cols := by
  simp only [Rect.Covers]
  omega

theorem countP_map_lineArea (l : Layout) (lines : List ReservedLine) (row col : Nat) :
    (lines.map l.lineArea).countP (·.Covers row col) =
      if col < l.terminalCols then lines.countP (fun line => line.row = row) else 0 := by
  have hcovers (line : ReservedLine) :
      (l.lineArea line).Covers row col ↔ line.row = row ∧ col < l.terminalCols := by
    rw [lineArea, covers_iff]
    omega
  rw [List.countP_map]
  split
  · rename_i hcol
    refine List.countP_congr fun line _ => ?_
    simp only [Function.comp_apply, decide_eq_true_eq, hcovers, hcol, and_true]
  · rename_i hcol
    refine List.countP_eq_zero.mpr fun line _ => ?_
    simp only [Function.comp_apply, decide_eq_true_eq, hcovers, hcol, and_false, not_false_eq_true]

theorem countP_singleton (area : Rect) (row col : Nat) :
    [area].countP (·.Covers row col) = if area.Covers row col then 1 else 0 := by
  simp [List.countP_cons]

/-- Of three things of which no two can be the case, as many are the case as one of them is. -/
theorem count_of_disjoint {p q r w : Prop} [Decidable p] [Decidable q] [Decidable r] [Decidable w]
    (hw : w ↔ p ∨ q ∨ r) (hpq : ¬ (p ∧ q)) (hpr : ¬ (p ∧ r)) (hqr : ¬ (q ∧ r)) :
    (if p then 1 else 0) + (if q then 1 else 0) + (if r then 1 else 0) = if w then 1 else 0 := by
  by_cases hp : p <;> by_cases hq : q <;> by_cases hr : r <;> simp_all

theorem countP_toList_stripArea? (h : Allocated rows cols sides strip l) (row col : Nat) :
    l.stripArea?.toList.countP (·.Covers row col) =
      if strip.rows ≠ 0 ∧ (stripRow rows sides strip ≤ row ∧
        row < stripRow rows sides strip + strip.rows) ∧ col < cols then 1 else 0 := by
  rw [stripArea?, h.stripTop, h.placement, h.terminalCols]
  split
  · simp_all
  · rename_i hrows
    rw [Option.map_some, Option.toList_some, countP_singleton]
    simp only [covers_iff, ne_eq, hrows, not_false_eq_true, true_and]

/-- The windows that are seen cover each cell of the terminal once, and none outside it. -/
theorem countP_visibleAreas (h : Allocated rows cols sides strip l) (row col : Nat) :
    l.visibleAreas.countP (·.Covers row col) =
      if row < l.terminalRows ∧ col < l.terminalCols then 1 else 0 := by
  have hlength := length_eq_count sides
  have hrows := h.sum
  have hroom : 0 + sides.count .top + sides.count .bottom ≤ bottomEdge rows strip := by
    unfold bottomEdge
    split <;> omega
  have hlines : (l.reserved.map l.lineArea).countP (·.Covers row col) =
      if ((0 ≤ row ∧ row < 0 + sides.count .top) ∨
        (bottomEdge rows strip - sides.count .bottom ≤ row ∧ row < bottomEdge rows strip)) ∧
        col < cols then 1 else 0 := by
    rw [countP_map_lineArea, h.reserved, countP_reserve row hroom, h.terminalCols]
    by_cases hcol : col < cols <;> simp [hcol]
  rw [visibleAreas, List.countP_append, List.countP_append, hlines, countP_singleton,
    countP_toList_stripArea? h, displayArea, h.displayTop, h.usableCols, h.terminalRows,
    h.terminalCols]
  simp only [covers_iff]
  obtain ⟨stripRows, anchor⟩ := strip
  cases anchor <;> dsimp only [bottomEdge, stripRow] at hrows ⊢ <;> apply count_of_disjoint <;> omega

/-! ## Rows -/

/-- The rows of the strip, if there is one. -/
def stripRows (l : Layout) : List Nat :=
  l.stripTop.toList.flatMap fun top => List.range' top l.strip.rows

/-- The rows of the terminal in the order in which they are painted. -/
def rowsInOrder (l : Layout) : List Nat :=
  l.reserved.map ReservedLine.row ++ List.range' l.displayTop l.usableRows ++ l.stripRows

theorem flatMap_span_lines (l : Layout) (lines : List ReservedLine) :
    (lines.map l.lineArea).flatMap Rect.span = lines.map ReservedLine.row := by
  induction lines with
  | nil => rfl
  | cons line lines ih => exact congrArg (line.row :: ·) ih

theorem flatMap_span_strip (l : Layout) : l.stripArea?.toList.flatMap Rect.span = l.stripRows := by
  rw [stripRows, stripArea?]
  cases l.stripTop <;> rfl

theorem flatMap_span_visibleAreas (l : Layout) :
    l.visibleAreas.flatMap Rect.span = l.rowsInOrder := by
  rw [visibleAreas, List.flatMap_append, List.flatMap_append, flatMap_span_lines,
    flatMap_span_strip, List.flatMap_singleton]
  rfl

/-- A row is met as often as areas at the left edge cover it. -/
theorem count_flatMap_span {areas : List Rect} (h : ∀ area ∈ areas, area.left = 0 ∧ 0 < area.cols)
    (row : Nat) : (areas.flatMap Rect.span).count row = areas.countP (·.Covers row 0) := by
  induction areas with
  | nil => rfl
  | cons area areas ih =>
    obtain ⟨hleft, hcols⟩ := h area (.head _)
    have hspan : area.span.count row = if area.Covers row 0 then 1 else 0 := by
      rw [Rect.span, List.count_range_1']
      simp [Rect.Covers, hleft, hcols]
    rw [List.flatMap_cons, List.count_append, ih fun a ha => h a (.tail _ ha), hspan,
      List.countP_cons, Nat.add_comm]
    simp only [decide_eq_true_eq]

theorem Allocated.left_visibleAreas (h : Allocated rows cols sides strip l) :
    ∀ area ∈ l.visibleAreas, area.left = 0 ∧ 0 < area.cols := by
  have hcols : 0 < cols := Nat.lt_of_lt_of_le Nat.zero_lt_two h.enoughCols
  rw [← h.terminalCols] at hcols
  have husable : l.usableCols = l.terminalCols := h.usableCols.trans h.terminalCols.symm
  intro area harea
  simp only [visibleAreas, List.mem_append, List.mem_map, List.mem_singleton, stripArea?,
    Option.mem_toList, Option.map_eq_some_iff] at harea
  rcases harea with (⟨line, -, rfl⟩ | rfl) | ⟨top, -, rfl⟩
  · exact ⟨rfl, hcols⟩
  · exact ⟨rfl, Nat.lt_of_lt_of_eq hcols husable.symm⟩
  · exact ⟨rfl, hcols⟩

/-- Each row of the terminal is painted once. -/
theorem Allocated.rowsInOrder_perm (h : Allocated rows cols sides strip l) :
    l.rowsInOrder.Perm (List.range l.terminalRows) := by
  have hcols : 0 < l.terminalCols := by
    rw [h.terminalCols]
    exact Nat.lt_of_lt_of_le Nat.zero_lt_two h.enoughCols
  refine List.perm_iff_count.mpr fun row => ?_
  rw [← flatMap_span_visibleAreas, count_flatMap_span h.left_visibleAreas, countP_visibleAreas h,
    List.count_range]
  simp only [hcols, and_true]

/-- The rows of reserved lines and strip are no rows of the display. -/
theorem Allocated.not_mem_display (h : Allocated rows cols sides strip l) {row : Nat}
    (hrow : row ∈ l.reserved.map ReservedLine.row ++ l.stripRows) :
    row ∉ List.range' l.displayTop l.usableRows := by
  have hnodup : l.rowsInOrder.Nodup := h.rowsInOrder_perm.nodup_iff.mpr List.nodup_range
  rw [rowsInOrder, List.nodup_append, List.nodup_append] at hnodup
  obtain ⟨⟨-, -, hlines⟩, -, hstrip⟩ := hnodup
  intro hdisplay
  rcases List.mem_append.mp hrow with hrow | hrow
  · exact hlines row hrow row hdisplay rfl
  · exact hstrip row (List.mem_append_right _ hdisplay) row hrow rfl

end Layout

end TerminalSession
