import Mathlib.Logic.ExistsUnique
import TerminalSession.Proofs.Layout.Words

/-!
# A layout partitions the terminal

Each row of the terminal belongs to exactly one part of the layout: to one of the reserved lines, to
the display or to the strip. Lines at the top take the first rows in order, lines at the bottom take
the rows above the bottom edge in order, and the strip lies at its edge.
-/

namespace TerminalSession.Layout

variable {rows cols : Nat} {sides : List Side} {strip : StripPlacement} {l : Layout}

/-- What a row of the terminal can belong to. -/
inductive Part
  /-- A reserved line, by its number in the order in which the lines were asked for. -/
  | line (number : Nat)
  | display
  | strip

/-- A part of the layout takes a row. -/
def Takes (l : Layout) (row : Nat) : Part → Prop
  | .line number => l.reserved[number]?.map ReservedLine.row = some row
  | .display => l.displayRows.1 ≤ row ∧ row < l.displayRows.2
  | .strip => ∃ top, l.stripTop = some top ∧ top ≤ row ∧ row < top + l.strip.rows

/-- The rows of the lines on one side, in the order in which they were asked for. -/
def rowsOn (side : Side) (lines : List ReservedLine) : List Nat :=
  (lines.filter (·.side = side)).map ReservedLine.row

/-- A layout that partitions its terminal. -/
structure Partitions (rows cols : Nat) (sides : List Side) (strip : StripPlacement) (l : Layout) :
    Prop where
  terminal : l.terminalRows = rows ∧ l.terminalCols = cols
  usable : l.usableRows = rows - (sides.length + strip.rows) ∧ l.usableCols = cols
  order : l.sides = sides
  addsUp : l.addsUp = true
  taken : ∀ row < rows, ∃! part, l.Takes row part
  within : ∀ row part, l.Takes row part → row < rows
  /-- The `i`-th line at the top gets row `i`. -/
  top : rowsOn .top l.reserved = List.range (sides.count .top)
  /-- The `j`-th line at the bottom gets the `j`-th row above the edge. -/
  bottom : (rowsOn .bottom l.reserved).length = sides.count .bottom ∧
    ∀ j row, (rowsOn .bottom l.reserved)[j]? = some row → row + (j + 1) = bottomEdge rows strip
  edge : bottomEdge rows strip + (if strip.anchor = .bottom then strip.rows else 0) = rows
  noStrip : strip.rows = 0 → l.stripTop = none
  stripAtTop : strip.rows ≠ 0 → strip.anchor = .top → l.stripTop = some (sides.count .top)
  stripAtBottom : strip.rows ≠ 0 → strip.anchor = .bottom →
    ∃ top, l.stripTop = some top ∧ top + strip.rows = rows

/-! ## One part for each row -/

theorem mem_displayRange {row : Nat} :
    row ∈ List.range' l.displayTop l.usableRows ↔ l.Takes row .display := by
  rw [List.mem_range'_1]
  rfl

theorem mem_stripRows {row : Nat} : row ∈ l.stripRows ↔ l.Takes row .strip := by
  simp only [stripRows, List.mem_flatMap, Option.mem_toList, List.mem_range'_1, Takes]

theorem mem_lineRows {row : Nat} :
    row ∈ l.reserved.map ReservedLine.row ↔ ∃ number, l.Takes row (.line number) := by
  rw [List.mem_iff_getElem?]
  simp only [List.getElem?_map, Takes]

theorem mem_rowsInOrder {row : Nat} : row ∈ l.rowsInOrder ↔ ∃ part, l.Takes row part := by
  rw [rowsInOrder, List.mem_append, List.mem_append, mem_displayRange, mem_stripRows, mem_lineRows]
  constructor
  · rintro ((⟨number, h⟩ | h) | h)
    · exact ⟨_, h⟩
    · exact ⟨_, h⟩
    · exact ⟨_, h⟩
  · rintro ⟨part, h⟩
    cases part with
    | line number => exact .inl (.inl ⟨number, h⟩)
    | display => exact .inl (.inr h)
    | strip => exact .inr h

theorem Allocated.takes_iff (h : Allocated rows cols sides strip l) {row : Nat} :
    (∃ part, l.Takes row part) ↔ row < rows := by
  rw [← mem_rowsInOrder, h.rowsInOrder_perm.mem_iff, List.mem_range, h.terminalRows]

/-- No two parts of a layout share a row, since no row comes twice in painting order. -/
theorem Allocated.takes_unique (h : Allocated rows cols sides strip l) {row : Nat} {p q : Part}
    (hp : l.Takes row p) (hq : l.Takes row q) : p = q := by
  have hnodup : l.rowsInOrder.Nodup := h.rowsInOrder_perm.nodup_iff.mpr List.nodup_range
  rw [rowsInOrder, List.nodup_append, List.nodup_append] at hnodup
  obtain ⟨⟨hlines, -, hdisplay⟩, -, hstrip⟩ := hnodup
  have hlineDisplay {number : Nat} (hline : l.Takes row (.line number))
      (h : l.Takes row .display) : False :=
    hdisplay row (mem_lineRows.mpr ⟨number, hline⟩) row (mem_displayRange.mpr h) rfl
  have hlineStrip {number : Nat} (hline : l.Takes row (.line number))
      (h : l.Takes row .strip) : False :=
    hstrip row (List.mem_append_left _ (mem_lineRows.mpr ⟨number, hline⟩)) row
      (mem_stripRows.mpr h) rfl
  have hdisplayStrip (h : l.Takes row .display) (h' : l.Takes row .strip) : False :=
    hstrip row (List.mem_append_right _ (mem_displayRange.mpr h)) row (mem_stripRows.mpr h') rfl
  have hlineLine {i j : Nat} (hi : l.Takes row (.line i)) (hj : l.Takes row (.line j)) : i = j := by
    simp only [Takes, ← List.getElem?_map] at hi hj
    have hbound := (List.getElem?_eq_some_iff.mp hi).1
    exact (List.getElem?_inj hbound hlines).mp (hi.trans hj.symm)
  cases p with
  | line i =>
    cases q with
    | line j => rw [hlineLine hp hq]
    | display => exact (hlineDisplay hp hq).elim
    | strip => exact (hlineStrip hp hq).elim
  | display =>
    cases q with
    | line j => exact (hlineDisplay hq hp).elim
    | display => rfl
    | strip => exact (hdisplayStrip hp hq).elim
  | strip =>
    cases q with
    | line j => exact (hlineStrip hq hp).elim
    | display => exact (hdisplayStrip hq hp).elim
    | strip => rfl

/-! ## Lines in order -/

theorem rowsOn_cons_self (line : ReservedLine) (lines : List ReservedLine) :
    rowsOn line.side (line :: lines) = line.row :: rowsOn line.side lines := by
  simp only [rowsOn, List.filter_cons, decide_true, if_true, List.map_cons]

theorem rowsOn_cons_of_ne {line : ReservedLine} {side : Side} (h : line.side ≠ side)
    (lines : List ReservedLine) : rowsOn side (line :: lines) = rowsOn side lines := by
  simp only [rowsOn, List.filter_cons, h, decide_false, Bool.false_eq_true, if_false]

theorem rowsOn_top_reserve (sides : List Side) (top edge : Nat) :
    rowsOn .top (reserve sides top edge) = List.range' top (sides.count .top) := by
  induction sides generalizing top edge with
  | nil => rfl
  | cons side sides ih =>
    cases side with
    | top =>
      rw [List.count_cons_self, List.range'_succ, ← ih (top + 1) edge]
      exact rowsOn_cons_self ⟨.top, top⟩ _
    | bottom =>
      rw [List.count_cons_of_ne (by decide), ← ih top (edge - 1)]
      exact @rowsOn_cons_of_ne ⟨.bottom, edge - 1⟩ .top Side.noConfusion _

theorem length_rowsOn_reserve (side : Side) (sides : List Side) (top edge : Nat) :
    (rowsOn side (reserve sides top edge)).length = sides.count side := by
  rw [rowsOn, List.length_map, ← List.countP_eq_length_filter]
  calc (reserve sides top edge).countP (fun line => decide (line.side = side))
      = ((reserve sides top edge).map ReservedLine.side).countP (· == side) := by
        rw [List.countP_map]
        exact List.countP_congr fun line _ => by
          simp only [Function.comp_apply, decide_eq_true_eq, beq_iff_eq]
    _ = sides.count side := by rw [map_side_reserve, List.count]

/-- Lines at the bottom stack upward from the edge, however lines at the top come between them. -/
theorem rowsOn_bottom_reserve {top edge : Nat} (hroom : sides.count .bottom ≤ edge) {j row : Nat}
    (h : (rowsOn .bottom (reserve sides top edge))[j]? = some row) : row + (j + 1) = edge := by
  induction sides generalizing top edge j with
  | nil => cases h
  | cons side sides ih =>
    cases side with
    | top =>
      rw [List.count_cons_of_ne (by decide)] at hroom
      rw [reserve, rowsOn_cons_of_ne Side.noConfusion] at h
      exact ih hroom h
    | bottom =>
      rw [List.count_cons_self] at hroom
      have hcons := rowsOn_cons_self ⟨.bottom, edge - 1⟩ (reserve sides top (edge - 1))
      dsimp only at hcons
      rw [reserve, hcons] at h
      cases j with
      | zero =>
        cases h
        omega
      | succ j =>
        have hrest := @ih top (edge - 1) (by omega) j h
        omega

/-! ## The whole terminal -/

theorem bottomEdge_add (h : strip.rows ≤ rows) :
    bottomEdge rows strip + (if strip.anchor = .bottom then strip.rows else 0) = rows := by
  obtain ⟨stripRows, anchor⟩ := strip
  cases anchor with
  | top => rfl
  | bottom => exact Nat.sub_add_cancel h

theorem partitions_of_allocate (h : allocate rows cols sides strip = .ok l) :
    Partitions rows cols sides strip l := by
  have hallocated := of_allocate h
  obtain ⟨htop, hbottom⟩ := counts_of_allocate h
  have hsum := hallocated.sum
  have hlength := length_eq_count sides
  have hedge := @bottomEdge_add rows strip (by omega)
  constructor
  case terminal => exact ⟨hallocated.terminalRows, hallocated.terminalCols⟩
  case usable => exact ⟨by omega, hallocated.usableCols⟩
  case order => exact sides_of_allocate h
  case addsUp =>
    rw [addsUp, beq_iff_eq, hallocated.terminalRows, htop, hbottom, hallocated.placement]
    omega
  case taken =>
    intro row hrow
    obtain ⟨part, hpart⟩ := hallocated.takes_iff.mpr hrow
    exact ⟨part, hpart, fun other hother => hallocated.takes_unique hother hpart⟩
  case within => exact fun row part hpart => hallocated.takes_iff.mp ⟨part, hpart⟩
  case top => rw [hallocated.reserved, rowsOn_top_reserve, List.range_eq_range']
  case bottom =>
    rw [hallocated.reserved]
    refine ⟨length_rowsOn_reserve _ _ _ _, fun j row => rowsOn_bottom_reserve ?_⟩
    split at hedge <;> omega
  case edge => exact hedge
  case noStrip => exact fun hnone => by rw [hallocated.stripTop, if_pos hnone]
  case stripAtTop =>
    intro hsome hanchor
    rw [hallocated.stripTop, if_neg hsome, stripRow, hanchor]
  case stripAtBottom =>
    intro hsome hanchor
    refine ⟨rows - strip.rows, ?_, by omega⟩
    rw [hallocated.stripTop, if_neg hsome, stripRow, hanchor]

theorem allocate_of_room (hcols : 2 ≤ cols) (hrows : sides.length + strip.rows + 2 ≤ rows) :
    ∃ l, allocate rows cols sides strip = .ok l := by
  have husable : ¬ (rows - (sides.length + strip.rows) < 2 ∨ cols < 2) := by omega
  simp only [allocate, husable, if_false]
  exact ⟨_, rfl⟩

theorem allocate_of_crowded (h : ¬ (2 ≤ cols ∧ sides.length + strip.rows + 2 ≤ rows)) :
    allocate rows cols sides strip =
      .error (.tooSmall (rows - (sides.length + strip.rows)) cols) := by
  have husable : rows - (sides.length + strip.rows) < 2 ∨ cols < 2 := by omega
  simp only [allocate, husable, if_true]

/-- **Allocating partitions the terminal**, and says by how much a terminal is too small otherwise.
It takes any order of the sides and any strip, and counts in machine words without leaving them. -/
theorem allocate_partitions (hrows : rows < 2 ^ 16)
    (hclaimed : sides.length + strip.rows < 2 ^ 32) :
    allocateInWords rows cols sides strip = some (allocate rows cols sides strip) ∧
    (2 ≤ cols ∧ sides.length + strip.rows + 2 ≤ rows → ∃ l,
      allocate rows cols sides strip = .ok l ∧ Partitions rows cols sides strip l ∧
      l.displayRowsInWords = some l.displayRows ∧ l.addsUpInWords = some true) ∧
    (¬ (2 ≤ cols ∧ sides.length + strip.rows + 2 ≤ rows) →
      allocate rows cols sides strip =
        .error (.tooSmall (rows - (sides.length + strip.rows)) cols)) := by
  refine ⟨allocateInWords_eq hrows hclaimed, ?_, allocate_of_crowded⟩
  rintro ⟨hcols, hroom⟩
  obtain ⟨l, hl⟩ := allocate_of_room hcols hroom
  exact ⟨l, hl, partitions_of_allocate hl, (of_allocate hl).displayRowsInWords_eq hrows,
    addsUpInWords_eq hl hrows⟩

/-- Five lines on both sides of a terminal of 24 rows, and a strip of two rows below them. -/
theorem allocate_partitions_five_lines :
    ∃ l, allocate 24 40 [.top, .bottom, .bottom, .top, .bottom] ⟨2, .bottom⟩ = .ok l ∧
      Partitions 24 40 [.top, .bottom, .bottom, .top, .bottom] ⟨2, .bottom⟩ l ∧
      l.displayRowsInWords = some l.displayRows ∧ l.addsUpInWords = some true :=
  (allocate_partitions (by decide) (by decide)).2.1 (by decide)

end TerminalSession.Layout
