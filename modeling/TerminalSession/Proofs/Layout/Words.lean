import Mathlib.Algebra.GroupWithZero.Nat
import TerminalSession.Proofs.Layout.Areas

/-!
# Layouts in machine words

`Layout.allocate` counts without bounds. A terminal counts its rows in words of 16 bits, and sums up
what is claimed of them in words of 32 bits. `Layout.allocateInWords` does the same there, step by
step, and has no result once a sum does not fit its word or a difference is negative. It agrees with
`Layout.allocate` on any terminal of less than `2 ^ 16` rows as long as the reserved lines and the
rows of the strip can be counted in 32 bits (`Layout.allocateInWords_eq`).
-/

namespace TerminalSession

namespace Word

/-- A sum, if it fits into so many bits. -/
def sum? (bits a b : Nat) : Option Nat := if a + b < 2 ^ bits then some (a + b) else none

/-- A difference, if it is not negative. -/
def difference? (a b : Nat) : Option Nat := if b ≤ a then some (a - b) else none

/-- The lowest bits of a number. -/
def narrow (bits n : Nat) : Nat := n % 2 ^ bits

variable {bits a b n : Nat}

theorem sum?_eq (h : a + b < 2 ^ bits) : sum? bits a b = some (a + b) := if_pos h

theorem difference?_eq (h : b ≤ a) : difference? a b = some (a - b) := if_pos h

theorem narrow_eq (h : n < 2 ^ bits) : narrow bits n = n := Nat.mod_eq_of_lt h

end Word

namespace Layout

open Word

/-- Gives each line its row, and tells the next free row at the top afterwards. -/
def reserveInWords : List Side → Nat → Nat → Option (List ReservedLine × Nat)
  | [], top, _ => some ([], top)
  | .top :: sides, top, edge => do
    let next ← sum? 16 top 1
    let row ← difference? next 1
    let (lines, last) ← reserveInWords sides next edge
    return (⟨.top, row⟩ :: lines, last)
  | .bottom :: sides, top, edge => do
    let row ← difference? edge 1
    let (lines, last) ← reserveInWords sides top row
    return (⟨.bottom, row⟩ :: lines, last)

/-- The row after the last one that lines at the bottom may take. -/
def bottomEdgeInWords (rows : Nat) (strip : StripPlacement) : Option Nat :=
  match strip.anchor with
  | .bottom => difference? rows strip.rows
  | .top => some rows

/-- The first row of the strip, if there is one, and the first row of the display, where lines at
the top end before `top` and lines at the bottom start above `edge`. -/
def topsInWords (strip : StripPlacement) (top edge : Nat) : Option (Option Nat × Nat) :=
  if strip.rows = 0 then some (none, top)
  else match strip.anchor with
    | .bottom => some (some edge, top)
    | .top => (sum? 16 top strip.rows).map fun displayTop => (some top, displayTop)

/-- `Layout.allocate` in words. -/
def allocateInWords (rows cols : Nat) (sides : List Side) (strip : StripPlacement) :
    Option (Except LayoutError Layout) := do
  let topCount := narrow 32 (sides.count .top)
  let bottomCount ← difference? (narrow 32 sides.length) topCount
  let lines ← sum? 32 topCount bottomCount
  let claimed ← sum? 32 lines strip.rows
  let usable := rows - claimed
  if usable < 2 ∨ cols < 2 then return .error (.tooSmall (narrow 16 usable) cols)
  let edge ← bottomEdgeInWords rows strip
  let (reserved, top) ← reserveInWords sides 0 edge
  let (stripTop, displayTop) ← topsInWords strip top edge
  return .ok {
    terminalRows := rows
    terminalCols := cols
    usableRows := narrow 16 usable
    usableCols := cols
    displayTop
    reserved
    topCount := narrow 16 topCount
    bottomCount := narrow 16 bottomCount
    strip
    stripTop }

/-- `Layout.displayRows` in words. -/
def displayRowsInWords (l : Layout) : Option (Nat × Nat) :=
  (sum? 16 l.displayTop l.usableRows).map fun stop => (l.displayTop, stop)

/-- `Layout.addsUp` in words. -/
def addsUpInWords (l : Layout) : Option Bool := do
  let seen ← sum? 16 l.usableRows l.topCount
  let seen ← sum? 16 seen l.bottomCount
  let seen ← sum? 16 seen l.strip.rows
  return l.terminalRows == seen

variable {rows cols : Nat} {sides : List Side} {strip : StripPlacement}

/-! ## Agreement -/

/-- The two ends do not meet as long as there is a row for each line between them. -/
theorem reserveInWords_eq {top edge : Nat}
    (hroom : top + sides.count .top + sides.count .bottom ≤ edge) (hedge : edge < 2 ^ 16) :
    reserveInWords sides top edge = some (reserve sides top edge, top + sides.count .top) := by
  induction sides generalizing top edge with
  | nil => rfl
  | cons side sides ih =>
    cases side with
    | top =>
      have htop : (Side.top :: sides).count .top = sides.count .top + 1 := List.count_cons_self
      have hbottom : (Side.top :: sides).count .bottom = sides.count .bottom :=
        List.count_cons_of_ne (by decide)
      rw [htop, hbottom] at hroom
      have hnext : sum? 16 top 1 = some (top + 1) := sum?_eq (by omega)
      have hrow : difference? (top + 1) 1 = some top := difference?_eq (Nat.le_add_left 1 top)
      have hrest := @ih (top + 1) edge (by omega) hedge
      rw [htop, Nat.add_comm _ 1, ← Nat.add_assoc]
      simp only [reserveInWords, reserve, hnext, hrow, hrest, Option.bind_eq_bind,
        Option.bind_some, Option.pure_def]
    | bottom =>
      have htop : (Side.bottom :: sides).count .top = sides.count .top :=
        List.count_cons_of_ne (by decide)
      have hbottom : (Side.bottom :: sides).count .bottom = sides.count .bottom + 1 :=
        List.count_cons_self
      rw [htop, hbottom] at hroom
      have hrow : difference? edge 1 = some (edge - 1) := difference?_eq (by omega)
      have hrest := @ih top (edge - 1) (by omega) (by omega)
      rw [htop]
      simp only [reserveInWords, reserve, hrow, hrest, Option.bind_eq_bind, Option.bind_some,
        Option.pure_def]

theorem bottomEdgeInWords_eq (h : strip.rows ≤ rows) :
    bottomEdgeInWords rows strip = some (bottomEdge rows strip) := by
  unfold bottomEdgeInWords bottomEdge
  cases strip.anchor with
  | top => rfl
  | bottom => exact difference?_eq h

theorem bottomEdge_le (rows : Nat) (strip : StripPlacement) : bottomEdge rows strip ≤ rows := by
  unfold bottomEdge
  split <;> omega

theorem topsInWords_eq {top : Nat} (h : top + strip.rows < 2 ^ 16) (edge : Nat) :
    topsInWords strip top edge = some
      (if strip.rows = 0 then none else match strip.anchor with
        | .bottom => some edge
        | .top => some top,
      match strip.anchor with
        | .bottom => top
        | .top => top + strip.rows) := by
  obtain ⟨stripRows, anchor⟩ := strip
  unfold topsInWords
  split
  · rename_i hnone
    dsimp only at hnone
    subst hnone
    cases anchor <;> rfl
  · cases anchor with
    | top => dsimp only at h ⊢; rw [sum?_eq h, Option.map_some]
    | bottom => rfl

/-- **No step of allocating leaves its word**, so nothing is lost by counting without bounds. -/
theorem allocateInWords_eq (hrows : rows < 2 ^ 16) (hclaimed : sides.length + strip.rows < 2 ^ 32) :
    allocateInWords rows cols sides strip = some (allocate rows cols sides strip) := by
  have hlength := length_eq_count sides
  have hlengthWord : narrow 32 sides.length = sides.length := narrow_eq (by omega)
  have htopWord : narrow 32 (sides.count .top) = sides.count .top := narrow_eq (by omega)
  have hbottom : difference? sides.length (sides.count .top) = some (sides.count .bottom) := by
    rw [difference?_eq (by omega), hlength, Nat.add_sub_cancel_left]
  have hlines : sum? 32 (sides.count .top) (sides.count .bottom) = some sides.length := by
    rw [sum?_eq (by omega), hlength]
  have husableWord : narrow 16 (rows - (sides.length + strip.rows)) =
      rows - (sides.length + strip.rows) := narrow_eq (by omega)
  simp only [allocateInWords, allocate, hlengthWord, htopWord, hbottom, hlines, sum?_eq hclaimed,
    husableWord, Option.bind_eq_bind, Option.bind_some, Option.pure_def]
  split
  · rfl
  rename_i husable
  have htop16 : narrow 16 (sides.count .top) = sides.count .top := narrow_eq (by omega)
  have hbottom16 : narrow 16 (sides.count .bottom) = sides.count .bottom := narrow_eq (by omega)
  have hedge : bottomEdge rows strip < 2 ^ 16 := Nat.lt_of_le_of_lt (bottomEdge_le rows strip) hrows
  have hroom : 0 + sides.count .top + sides.count .bottom ≤ bottomEdge rows strip := by
    unfold bottomEdge
    split <;> omega
  have hstart : sides.count .top + strip.rows < 2 ^ 16 := by omega
  rw [bottomEdgeInWords_eq (by omega)]
  simp only [reserveInWords_eq hroom hedge, htop16, hbottom16, Option.bind_some, Nat.zero_add]
  rw [topsInWords_eq hstart]
  rfl

variable {l : Layout}

/-- An allocated layout knows how many lines there are at each end. -/
theorem counts_of_allocate (h : allocate rows cols sides strip = .ok l) :
    l.topCount = sides.count .top ∧ l.bottomCount = sides.count .bottom := by
  simp only [allocate] at h
  split at h
  · cases h
  · cases h
    exact ⟨rfl, rfl⟩

theorem addsUpInWords_eq (h : allocate rows cols sides strip = .ok l) (hrows : rows < 2 ^ 16) :
    l.addsUpInWords = some true := by
  obtain ⟨htop, hbottom⟩ := counts_of_allocate h
  have hallocated := of_allocate h
  have hlength := length_eq_count sides
  have hsum := hallocated.sum
  rw [addsUpInWords, htop, hbottom, hallocated.placement, hallocated.terminalRows]
  simp only [sum?_eq (show l.usableRows + sides.count .top < 2 ^ 16 by omega), Option.bind_eq_bind,
    sum?_eq (show l.usableRows + sides.count .top + sides.count .bottom < 2 ^ 16 by omega),
    sum?_eq (show l.usableRows + sides.count .top + sides.count .bottom + strip.rows < 2 ^ 16 by
      omega), Option.bind_some, Option.pure_def, Option.some.injEq, beq_iff_eq]
  omega

/-- The end of the display is a row of the terminal or the one after its last. -/
theorem Allocated.displayRowsInWords_eq (h : Allocated rows cols sides strip l)
    (hrows : rows < 2 ^ 16) : l.displayRowsInWords = some l.displayRows := by
  have hlength := length_eq_count sides
  have hsum := h.sum
  have hstart : l.displayTop ≤ sides.count .top + strip.rows := by
    rw [h.displayTop]
    split <;> omega
  rw [displayRowsInWords, sum?_eq (by omega)]
  rfl

end Layout

end TerminalSession
