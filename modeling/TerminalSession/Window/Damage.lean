/-!
# Damage

The set of lines of a window that wait to be drawn again. It is kept as one mark per line; the
array is as long as the last line ever marked, and marks may outlive the lines they name, since a
window that shrinks keeps its marks until it is next clean.
-/

namespace TerminalSession

/-- Lines waiting to be drawn again. -/
structure Damage where
  marks : Array Bool := #[]
  deriving DecidableEq, Repr, Inhabited

namespace Damage

def contains (d : Damage) (line : Nat) : Bool := d.marks.getD line false

/-- Marks the lines from `first` up to but not including `stop`. -/
def mark (d : Damage) (first stop : Nat) : Damage where
  marks := Array.ofFn (n := max d.marks.size stop) fun line =>
    d.contains line || (first ≤ line.val && line.val < stop)

def isEmpty (d : Damage) : Bool := d.marks.all (!·)

def lines (d : Damage) : List Nat := (List.range d.marks.size).filter d.contains

@[simp] theorem contains_empty (line : Nat) : ({} : Damage).contains line = false := by
  simp [contains]

@[simp] theorem contains_mark (d : Damage) (first stop line : Nat) :
    (d.mark first stop).contains line
      = (d.contains line || (decide (first ≤ line) && decide (line < stop))) := by
  by_cases h : line < max d.marks.size stop
  · simp [contains, mark, Array.getD, h]
  · have h₁ : ¬ line < d.marks.size := by omega
    have h₂ : ¬ line < stop := by omega
    simp [contains, mark, Array.getD, h, h₁, h₂]

theorem isEmpty_iff (d : Damage) : d.isEmpty = true ↔ ∀ line, d.contains line = false := by
  simp only [isEmpty, Array.all_eq_true, Bool.not_eq_true']
  constructor
  · intro h line
    by_cases hl : line < d.marks.size
    · simpa [contains, Array.getD, hl] using h line hl
    · simp [contains, Array.getD, hl]
  · intro h line hl
    simpa [contains, Array.getD, hl] using h line

theorem mem_lines (d : Damage) (line : Nat) : line ∈ d.lines ↔ d.contains line = true := by
  simp only [lines, List.mem_filter, List.mem_range, and_iff_right_iff_imp]
  intro h
  by_cases hl : line < d.marks.size
  · exact hl
  · simp [contains, Array.getD, hl] at h

end Damage

end TerminalSession
