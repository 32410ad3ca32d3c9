import TerminalSession.Proofs.Window.Shape

/-!
# Lines without split wide characters

A wide character takes two cells of a line: its own, and the tail behind it. A line is `Whole` if
the two never occur apart. Cutting a line or blanking its end keeps it whole exactly if the cut does
not fall between the two (`whole_fit_iff`, `whole_blankFrom_iff`), and so does writing, which cuts
the line where the text begins and where it stops (`whole_putChars_iff`).
-/

namespace TerminalSession

/-- Whether the cell holds a character of two columns. -/
def Cell.isWide (cell : Cell) : Bool := cell.width == 2

namespace Line

/-- Whether a wide character begins at a column. -/
def wideAt (l : Line) (col : Nat) : Bool := l[col]?.any Cell.isWide

/-- Whether the tail of a wide character stands at a column. -/
def tailAt (l : Line) (col : Nat) : Bool := l[col]?.any Cell.isTail

/-- No wide character is split: there is a tail at a column exactly if a wide character begins at
the column before. -/
structure Whole (l : Line) : Prop where
  tailAt_zero : tailAt l 0 = false
  tailAt_succ : ∀ col, tailAt l (col + 1) = wideAt l col

variable {l l' l'' : Line} {attrs : Attrs} {col stop cols : Nat}

/-! ## Cutting and blanking -/

/-- A line whose wide characters and tails are those of a whole line up to a column is whole exactly
if that column does not divide a wide character. -/
theorem whole_iff_of_kept (h : Whole l)
    (hw : ∀ x, wideAt l' x = (decide (x < col) && wideAt l x))
    (ht : ∀ x, tailAt l' x = (decide (x < col) && tailAt l x)) :
    Whole l' ↔ tailAt l col = false := by
  constructor
  · intro h'
    cases col with
    | zero => exact h.tailAt_zero
    | succ k =>
      have := h'.tailAt_succ k
      rw [ht, hw] at this
      simpa [h.tailAt_succ] using this.symm
  · intro hcut
    refine ⟨by rw [ht, h.tailAt_zero, Bool.and_false], fun x => ?_⟩
    rw [ht, hw, h.tailAt_succ]
    by_cases hx : x + 1 = col
    · rw [← hx, h.tailAt_succ] at hcut
      rw [hcut, Bool.and_false, Bool.and_false]
    · congr 1
      simp only [decide_eq_decide]
      omega

theorem whole_fit_iff (h : Whole l) (cols : Nat) :
    Whole (fit l cols {}) ↔ tailAt l cols = false := by
  refine whole_iff_of_kept h (fun x => ?_) fun x => ?_
  all_goals
    simp only [wideAt, tailAt, getElem?_fit]
    by_cases hx : x < cols
    · cases hl : l[x]? <;> simp [hx]
      rfl
    · simp [hx]

theorem whole_blankFrom_iff (h : Whole l) (attrs : Attrs) (col : Nat) :
    Whole (Window.blankFrom attrs col l) ↔ tailAt l col = false := by
  refine whole_iff_of_kept h (fun x => ?_) fun x => ?_
  all_goals
    simp only [wideAt, tailAt, Window.blankFrom, Array.getElem?_mapIdx]
    by_cases hx : x < col
    · cases hl : l[x]? <;> simp [hx]
    · cases hl : l[x]? <;> simp [hx]
      rfl

theorem whole_of_plain (h : ∀ cell ∈ l, cell.isWide = false ∧ cell.isTail = false) :
    Whole l := by
  have hat : ∀ x, tailAt l x = false ∧ wideAt l x = false := by
    intro x
    unfold tailAt wideAt
    cases hx : l[x]? with
    | none => exact ⟨rfl, rfl⟩
    | some cell => exact (h cell (Array.mem_of_getElem? hx)).symm
  exact ⟨(hat 0).1, fun x => (hat (x + 1)).1.trans (hat x).2.symm⟩

theorem whole_empty : Whole #[] :=
  whole_of_plain (by simp)

theorem whole_replicate (n : Nat) : Whole (Array.replicate n {}) := by
  refine whole_of_plain fun cell h => ?_
  obtain ⟨-, rfl⟩ := Array.mem_replicate.mp h
  exact ⟨rfl, rfl⟩

theorem whole_blankFrom_zero (attrs : Attrs) (l : Line) :
    Whole (Window.blankFrom attrs 0 l) := by
  refine whole_of_plain fun cell h => ?_
  obtain ⟨x, hx⟩ := Array.mem_iff_getElem?.mp h
  simp only [Window.blankFrom, Array.getElem?_mapIdx] at hx
  obtain ⟨_, -, rfl⟩ := Option.map_eq_some_iff.mp hx
  exact ⟨rfl, rfl⟩

/-! ## Writing -/

/-- The columns from `col` up to `stop` have been written, with wide characters inside only. -/
structure Written (l l' : Line) (col stop : Nat) : Prop where
  le : col ≤ stop
  outside : ∀ x, x < col ∨ stop ≤ x → l'[x]? = l[x]?
  starts : col < stop → tailAt l' col = false
  inside : ∀ x, col ≤ x → x < stop →
    wideAt l' x = (decide (x + 1 < stop) && tailAt l' (x + 1))

namespace Written

theorem refl (l : Line) (col : Nat) : Written l l col col where
  le := Nat.le_refl _
  outside _ _ := rfl
  starts h := absurd h (Nat.lt_irrefl _)
  inside _ h₁ h₂ := absurd h₂ (Nat.not_lt.mpr h₁)

theorem wideAt_of_outside (h : Written l l' col stop) {x : Nat} (hx : x < col ∨ stop ≤ x) :
    wideAt l' x = wideAt l x := by
  rw [wideAt, h.outside x hx, wideAt]

theorem tailAt_of_outside (h : Written l l' col stop) {x : Nat} (hx : x < col ∨ stop ≤ x) :
    tailAt l' x = tailAt l x := by
  rw [tailAt, h.outside x hx, tailAt]

/-- What is written behind is written in one go. -/
theorem trans {mid : Nat} (h : Written l l' col mid) (h' : Written l' l'' mid stop) :
    Written l l'' col stop where
  le := Nat.le_trans h.le h'.le
  outside x hx := by
    have := h.le
    have := h'.le
    exact (h'.outside x (by omega)).trans (h.outside x (by omega))
  starts hlt := by
    rcases Nat.eq_or_lt_of_le h.le with rfl | hcol
    · exact h'.starts hlt
    · exact (h'.tailAt_of_outside (.inl hcol)).trans (h.starts hcol)
  inside x hx hlt := by
    have hle := h'.le
    by_cases hmid : mid ≤ x
    · exact h'.inside x hmid hlt
    rw [h'.wideAt_of_outside (.inl (by omega)), h.inside x hx (by omega)]
    by_cases hnext : x + 1 < mid
    · rw [h'.tailAt_of_outside (.inl hnext)]
      simp only [hnext, show x + 1 < stop by omega]
    -- The last column written first is followed by the first one written then.
    obtain rfl : x + 1 = mid := by omega
    by_cases hstop : x + 1 < stop
    · rw [h'.starts hstop, Bool.and_false]
      simp
    · simp [hstop]

/-- Writing keeps a line whole exactly if no wide character reaches into the columns written, or
out of them. -/
theorem whole_iff (h : Written l l' col stop) (hw : Whole l) (hlt : col < stop) :
    Whole l' ↔ tailAt l col = false ∧ tailAt l stop = false := by
  obtain ⟨last, rfl⟩ : ∃ last, stop = last + 1 := ⟨stop - 1, by omega⟩
  have hlast : wideAt l' last = false := by
    rw [h.inside last (by omega) (by omega)]
    simp
  constructor
  · intro hw'
    constructor
    · cases col with
      | zero => exact hw.tailAt_zero
      | succ k =>
        rw [hw.tailAt_succ, ← h.wideAt_of_outside (.inl k.lt_succ_self), ← hw'.tailAt_succ]
        exact h.starts hlt
    · rw [← h.tailAt_of_outside (.inr (Nat.le_refl _)), hw'.tailAt_succ, hlast]
  · rintro ⟨hcol, hstop⟩
    constructor
    · cases col with
      | zero => exact h.starts hlt
      | succ k => exact (h.tailAt_of_outside (.inl (by omega))).trans hw.tailAt_zero
    · intro x
      rcases Nat.lt_trichotomy (x + 1) col with hx | rfl | hx
      · rw [h.tailAt_of_outside (.inl hx), h.wideAt_of_outside (.inl (by omega)), hw.tailAt_succ]
      · rw [h.starts hlt, h.wideAt_of_outside (.inl (by omega)), ← hw.tailAt_succ, hcol]
      rcases Nat.lt_trichotomy x last with hx' | rfl | hx'
      · rw [h.inside x (by omega) (by omega)]
        simp [hx']
      · rw [h.tailAt_of_outside (.inr (Nat.le_refl _)), hstop, hlast]
      · rw [h.tailAt_of_outside (.inr (by omega)), h.wideAt_of_outside (.inr (by omega)),
          hw.tailAt_succ]

end Written

theorem written_putChar {c : Char} (hc : columns c = 1 ∨ columns c = 2)
    (hfit : col + columns c ≤ l.size) :
    Written l (Window.putChar attrs l col c) col (col + columns c) := by
  rcases hc with hc | hc <;> rw [hc] at hfit ⊢
  · have hcell : (Window.putChar attrs l col c)[col]? = some { glyph := .char c, attrs } := by
      simp [Window.putChar, hc, show col < l.size by omega]
    refine ⟨by omega, fun x hx => ?_, fun _ => ?_, fun x hx hlt => ?_⟩
    · simp [Window.putChar, hc, show col ≠ x by omega]
    · rw [tailAt, hcell]
      rfl
    · obtain rfl : x = col := by omega
      rw [wideAt, hcell]
      simp [Cell.isWide, Cell.width, hc]
  · have hcell : (Window.putChar attrs l col c)[col]? = some { glyph := .char c, attrs } := by
      simp [Window.putChar, hc, show col < l.size by omega]
    have hnext : (Window.putChar attrs l col c)[col + 1]? = some { glyph := .tail, attrs } := by
      simp [Window.putChar, hc, show col + 1 < l.size by omega]
    refine ⟨by omega, fun x hx => ?_, fun _ => ?_, fun x hx hlt => ?_⟩
    · simp [Window.putChar, hc, show col ≠ x by omega, show col + 1 ≠ x by omega]
    · rw [tailAt, hcell]
      rfl
    · obtain rfl | rfl : x = col ∨ x = col + 1 := by omega
      · rw [wideAt, tailAt, hcell, hnext]
        simp [Cell.isWide, Cell.isTail, Cell.width, hc]
      · rw [wideAt, hnext]
        simp [Cell.isWide, Cell.width]

/-- The column after the last character of a text that fits on a line, if the text begins at column
`col`. -/
def textEnd (cols : Nat) : List Char → Nat → Nat
  | [], col => col
  | c :: text, col =>
    if columns c = 0 then textEnd cols text col
    else if cols < col + columns c then col
    else textEnd cols text (col + columns c)

variable {text : List Char}

theorem written_putChars (narrow : ∀ c ∈ text, columns c ≤ 2) :
    Written l (Window.putChars attrs l.size text col l).1 col
      (textEnd l.size text col) := by
  suffices ∀ cols, l.size = cols →
      Written l (Window.putChars attrs cols text col l).1 col (textEnd cols text col) from
    this _ rfl
  intro cols hsize
  induction text generalizing col l with
  | nil => exact .refl ..
  | cons c text ih =>
    have hrest := fun c hc => narrow c (.tail _ hc)
    rw [Window.putChars, textEnd]
    split
    · exact ih hrest hsize
    split
    · exact .refl ..
    have := narrow c (.head _)
    exact (written_putChar (by omega) (by omega)).trans
      (ih hrest ((Window.size_putChar ..).trans hsize))

theorem whole_putChars_iff (h : Whole l) (attrs : Attrs) (col : Nat)
    (narrow : ∀ c ∈ text, columns c ≤ 2) :
    Whole (Window.putChars attrs l.size text col l).1 ↔
      (col < textEnd l.size text col →
        tailAt l col = false ∧ tailAt l (textEnd l.size text col) = false) := by
  have hwritten : Written l (Window.putChars attrs l.size text col l).1 col _ :=
    written_putChars narrow
  by_cases hlt : col < textEnd l.size text col
  · rw [hwritten.whole_iff h hlt]
    exact ⟨fun h _ => h, fun h => h hlt⟩
  · -- Nothing is written, so the line is as it was.
    have hsame : (Window.putChars attrs l.size text col l).1 = l := by
      refine Array.ext_getElem? fun x => hwritten.outside x ?_
      have := hwritten.le
      omega
    rw [hsame]
    exact ⟨fun _ hc => absurd hc hlt, fun _ => h⟩

end Line

end TerminalSession
