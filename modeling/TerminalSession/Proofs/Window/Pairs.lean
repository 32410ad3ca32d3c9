import Mathlib.Algebra.GroupWithZero.Nat
import TerminalSession.Paint
import TerminalSession.Proofs.Window.WholeLine

/-!
# The pairs of a whole line

A tail is written together with the wide character before it, so the two have equal attributes as
long as both are there (`joined_changes`). A whole line therefore falls apart into single cells and
pairs (`paired_of_whole`): the widths of its cells add up to its length, and what is shown of it
takes as many columns as it has.
-/

namespace TerminalSession

namespace Line

variable {l l' : Line} {attrs : Attrs} {text : List Char}

/-! ## Tails have the attributes of their characters -/

/-- A tail behind a wide character has the attributes of that character. -/
def Joined (l : Line) : Prop :=
  ∀ col head tail, l[col]? = some head → l[col + 1]? = some tail →
    head.isWide = true → tail.isTail = true → tail.attrs = head.attrs

theorem joined_empty : Joined #[] := by
  intro col head tail h
  simp at h

theorem Joined.of_kept (h : Joined l) (hkept : ∀ (x : Nat) (cell : Cell), l'[x]? = some cell →
    cell.isWide = true ∨ cell.isTail = true → l[x]? = some cell) : Joined l' :=
  fun col head tail hh ht hw htail =>
    h col head tail (hkept _ _ hh (.inl hw)) (hkept _ _ ht (.inr htail)) hw htail

theorem Joined.fit (h : Joined l) (cols : Nat) : Joined (fit l cols {}) := by
  refine h.of_kept fun x cell hx hcell => ?_
  rw [getElem?_fit] at hx
  split at hx <;> cases hx
  cases hl : l[x]? with
  | none =>
    rw [hl] at hcell
    exact absurd hcell (by decide)
  | some cell => rfl

theorem Joined.blankFrom (h : Joined l) (attrs : Attrs) (col : Nat) :
    Joined (Window.blankFrom attrs col l) := by
  refine h.of_kept fun x cell hx hcell => ?_
  simp only [Window.blankFrom, Array.getElem?_mapIdx] at hx
  obtain ⟨old, hold, rfl⟩ := Option.map_eq_some_iff.mp hx
  split at hcell
  · rw [if_pos ‹_›]
    exact hold
  · rcases hcell with hcell | hcell <;> cases hcell

theorem Joined.putChar (h : Joined l) (attrs : Attrs) (col : Nat) (c : Char) :
    Joined (Window.putChar attrs l col c) := by
  unfold Window.putChar
  split
  · rename_i hc
    intro x head tail hh ht hw htail
    simp only [Array.getElem?_setIfInBounds, Array.size_setIfInBounds] at hh ht
    by_cases hx : col = x
    · -- the new character with its own tail
      subst hx
      rw [if_neg (by omega)] at hh
      simp only [if_true] at hh ht
      split at hh <;> split at ht <;> cases hh <;> cases ht
      rfl
    by_cases hx' : col = x + 1
    · subst hx'
      rw [if_neg (by omega), if_pos rfl] at ht
      split at ht <;> cases ht
      cases htail
    by_cases hx'' : col + 1 = x
    · subst hx''
      rw [if_pos rfl] at hh
      split at hh <;> cases hh
      cases hw
    rw [if_neg (by omega), if_neg (by omega)] at hh ht
    exact h x head tail hh ht hw htail
  · rename_i hc
    refine h.of_kept fun x cell hx hcell => ?_
    rw [Array.getElem?_setIfInBounds] at hx
    split at hx
    · split at hx <;> cases hx
      rcases hcell with hcell | hcell
      · exact absurd (by simpa [Cell.isWide, Cell.width] using hcell) hc
      · cases hcell
    · exact hx

theorem Joined.putChars (h : Joined l) (attrs : Attrs) (cols : Nat) (text : List Char)
    (col : Nat) : Joined (Window.putChars attrs cols text col l).1 := by
  induction text generalizing col l with
  | nil => exact h
  | cons c text ih =>
    rw [Window.putChars]
    split
    · exact ih h col
    · split
      · exact h
      · exact ih (h.putChar attrs col c) _

/-! ## Pairs -/

/-- Cells that fall apart into cells of one column and wide characters with their tails. -/
inductive Paired : List Cell → Prop
  | nil : Paired []
  | single {cell : Cell} {cells : List Cell} (width : cell.width = 1) (rest : Paired cells) :
    Paired (cell :: cells)
  | pair {head : Cell} {cells : List Cell} (width : head.width = 2) (rest : Paired cells) :
    Paired (head :: { glyph := .tail, attrs := head.attrs } :: cells)

/-- A whole line stays whole without the cells before a column where no tail stands. -/
theorem Whole.drop {cells : List Cell} (h : Whole cells.toArray) {n : Nat}
    (hn : tailAt cells.toArray n = false) : Whole (cells.drop n).toArray := by
  have htail : ∀ x, tailAt (cells.drop n).toArray x = tailAt cells.toArray (n + x) := by
    intro x
    simp [tailAt]
  refine ⟨(htail 0).trans hn, fun x => ?_⟩
  rw [htail, ← Nat.add_assoc, h.tailAt_succ]
  simp [wideAt]

theorem Joined.drop {cells : List Cell} (h : Joined cells.toArray) (n : Nat) :
    Joined (cells.drop n).toArray := by
  intro x head tail hh ht
  simp only [List.getElem?_toArray, List.getElem?_drop] at hh ht
  exact h (n + x) head tail (by simpa using hh) (by simpa [Nat.add_assoc] using ht)

/-- Without wider characters, a whole line consists of single cells and pairs. -/
theorem paired_of_whole : ∀ {cells : List Cell}, Whole cells.toArray → Joined cells.toArray →
    (∀ cell ∈ cells, cell.Drawn) → Paired cells
  | [], _, _, _ => .nil
  | cell :: cells, hwhole, hjoined, hdrawn => by
    have hfirst : cell.isTail = false := by simpa [tailAt] using hwhole.tailAt_zero
    have hsecond := hwhole.tailAt_succ 0
    have hthird := hwhole.tailAt_succ 1
    have hrest := fun cell h => hdrawn cell (.tail _ h)
    have hwidth : cell.width = 1 ∨ cell.width = 2 := by
      cases hg : cell.glyph with
      | blank => simp [Cell.width, hg]
      | char c => simpa [Cell.width, hg] using hdrawn cell (.head _) c hg
      | tail => simp [Cell.isTail, hg] at hfirst
    rcases hwidth with hwidth | hwidth
    · have hwide : cell.isWide = false := by simp [Cell.isWide, hwidth]
      have hnext := hwhole.drop (hsecond.trans (by simpa [wideAt] using hwide))
      exact .single hwidth (paired_of_whole hnext (hjoined.drop 1) hrest)
    · have hwide : cell.isWide = true := by simp [Cell.isWide, hwidth]
      cases cells with
      | nil => simp [tailAt, wideAt, hwide] at hsecond
      | cons tail cells =>
        have htail : tail.isTail = true := by simpa [tailAt, wideAt, hwide] using hsecond
        have hglyph : tail.glyph = .tail := by simpa [Cell.isTail] using htail
        have hattrs : tail.attrs = cell.attrs := hjoined 0 cell tail rfl rfl hwide htail
        obtain rfl : tail = { glyph := .tail, attrs := cell.attrs } := by
          rw [← hglyph, ← hattrs]
        have hnext := hwhole.drop hthird
        exact .pair hwidth
          (paired_of_whole hnext (hjoined.drop 2) fun cell h => hrest cell (.tail _ h))

theorem Paired.isTail_zero {cells : List Cell} (h : Paired cells) {cell : Cell}
    (hcell : cells[0]? = some cell) : cell.isTail = false := by
  have hwidth : ∀ {cell : Cell}, cell.width ≠ 0 → cell.isTail = false := by
    intro cell hw
    cases hg : cell.glyph with
    | tail => simp [Cell.width, hg] at hw
    | _ => simp [Cell.isTail, hg]
  cases h with
  | nil => cases hcell
  | single width _ | pair width _ =>
    cases hcell
    exact hwidth (by omega)

theorem Paired.isWide_last {cells : List Cell} (h : Paired cells) {x : Nat} {cell : Cell}
    (hx : x + 1 = cells.length) (hcell : cells[x]? = some cell) : cell.isWide = false := by
  induction h generalizing x with
  | nil => cases hx
  | single width rest ih =>
    cases x with
    | zero =>
      cases hcell
      simp [Cell.isWide, width]
    | succ x => exact ih (by simpa using hx) (by simpa using hcell)
  | pair width rest ih =>
    rcases x with _ | _ | x
    · simp at hx
    · cases hcell
      rfl
    · exact ih (by simpa using hx) (by simpa using hcell)

theorem Paired.sum_width {cells : List Cell} (h : Paired cells) :
    (cells.map Cell.width).sum = cells.length := by
  induction h with
  | nil => rfl
  | single width _ ih => simp [width, ih, Nat.add_comm]
  | pair width _ ih =>
    have htail : ∀ attrs, ({ glyph := .tail, attrs } : Cell).width = 0 := fun _ => rfl
    simp only [List.map_cons, List.sum_cons, List.length_cons, width, htail, ih]
    omega

theorem width_eq_columns_shown? (cell : Cell) :
    cell.width = (cell.shown?.map columns).getD 0 := by
  unfold Cell.shown? Cell.width
  cases cell.glyph <;> rfl

/-- What is shown of a line takes as many columns as its cells have. -/
theorem textColumns_shown (l : Line) :
    textColumns ((shown l).map Prod.snd) = (l.toList.map Cell.width).sum := by
  unfold shown textColumns
  induction l.toList with
  | nil => rfl
  | cons cell cells ih =>
    rw [List.map_cons, List.sum_cons, ← ih, width_eq_columns_shown?]
    cases hc : cell.shown? <;> simp [hc]

end Line

/-! ## Windows -/

namespace Window

variable {w : Window}

theorem joined_blank (area : Rect) : ∀ l ∈ (blank area).lines, l.Joined := by
  intro l hl
  obtain ⟨-, rfl⟩ := Array.mem_replicate.mp hl
  refine Line.joined_empty.of_kept fun x cell hx hcell => ?_
  obtain ⟨-, rfl⟩ := Array.mem_replicate.mp (Array.mem_of_getElem? hx)
  exact absurd hcell (by decide)

/-- Tails keep the attributes of their characters, whatever happens to a window. -/
theorem joined_changes (h : ∀ l ∈ w.lines, l.Joined) (cs : List Change) :
    ∀ l ∈ (w.changes cs).lines, l.Joined := by
  refine forall_lines_changes h ?_ ?_ ?_
  · rintro cols l (rfl | hl)
    · exact Line.joined_empty.fit cols
    · exact hl.fit cols
  · exact fun attrs col l hl => hl.blankFrom attrs col
  · exact fun attrs cols col l c _ hl => hl.putChars attrs cols c.text col

end Window

end TerminalSession
