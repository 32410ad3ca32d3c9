import TerminalSession.Proofs.Label.Legible
import TerminalSession.Proofs.Label.Storing

/-!
# Texts made to fit

A label's text is cut in one pass that sums its columns up, and what they leave free is filled with
spaces. `justifyText?` does this step by step and has no result once a difference is negative; it
always has one (`justifyText?_eq`), and the text fills its columns exactly (`Padded`). Since a text
that is cut twice is cut to the smaller width, a label draws the same whether or not it was cut when
it was stored (`labelEdits_stored`).
-/

namespace TerminalSession

open Word

variable {text : List Char} {width taken : Nat}

/-! ## Step by step -/

/-- The beginning of a text before its columns, and the `taken` ones in front of it, exceed a
width. -/
def cutSumming (width : Nat) : Nat → List Char → List Char
  | _, [] => []
  | taken, c :: text =>
    let taken := taken + columns c
    if taken ≤ width then c :: cutSumming width taken text else []

/-- `justifyText` with differences that are checked. -/
def justifyText? (text : List Char) (width : Nat) (j : Justify) : Option (List Char) := do
  let text := cutSumming width 0 text
  let pad ← difference? width (textColumns text)
  let left := j.leftPad pad
  let right ← difference? pad left
  return List.replicate left ' ' ++ text ++ List.replicate right ' '

/-- To sum columns up comes to the same as to count down those that are left. -/
theorem cutSumming_eq (h : taken ≤ width) :
    cutSumming width taken text = cutToWidth text (width - taken) := by
  induction text generalizing taken with
  | nil => rfl
  | cons c text ih =>
    rw [cutSumming, cutToWidth]
    by_cases hfits : taken + columns c ≤ width
    · have hleft : columns c ≤ width - taken := by omega
      rw [if_pos hfits, if_pos hleft, ih hfits, Nat.sub_sub]
    · have hleft : ¬ columns c ≤ width - taken := by omega
      rw [if_neg hfits, if_neg hleft]

/-- No difference is negative. -/
theorem justifyText?_eq (text : List Char) (width : Nat) (j : Justify) :
    justifyText? text width j = some (justifyText text width j) := by
  have hcut : cutSumming width 0 text = cutToWidth text width := cutSumming_eq (Nat.zero_le width)
  have hpad := difference?_eq (textColumns_cutToWidth_le text width)
  have hright := difference?_eq (j.leftPad_le (width - textColumns (cutToWidth text width)))
  simp only [justifyText?, hcut, hpad, hright, Option.bind_eq_bind, Option.bind_some]
  rfl

/-! ## Padding -/

/-- How spaces on the left and on the right of a text go together. -/
def Justify.Shares (left right : Nat) : Justify → Prop
  | .left => left = 0
  | .center => left = (left + right) / 2
  | .right => right = 0

/-- A text fills its columns, with nothing but spaces around what is kept of it. -/
structure Padded (j : Justify) (width : Nat) (kept filled : List Char) : Prop where
  columns : textColumns filled = width
  spaced : ∃ left right, filled = List.replicate left ' ' ++ kept ++ List.replicate right ' ' ∧
    left + textColumns kept + right = width ∧ j.Shares left right

theorem Justify.shares_leftPad (j : Justify) (pad : Nat) :
    j.Shares (j.leftPad pad) (pad - j.leftPad pad) := by
  cases j with
  | left => rfl
  | center =>
    change pad / 2 = (pad / 2 + (pad - pad / 2)) / 2
    omega
  | right => exact Nat.sub_self pad

theorem padded_justifyText (text : List Char) (width : Nat) (j : Justify) :
    Padded j width (cutToWidth text width) (justifyText text width j) := by
  have hcut := textColumns_cutToWidth_le text width
  have hleft := j.leftPad_le (width - textColumns (cutToWidth text width))
  constructor
  case columns => exact textColumns_justifyText text width j
  case spaced => exact ⟨_, _, rfl, by omega, j.shares_leftPad _⟩

/-! ## Stored texts -/

namespace SoftLabels

/-- To cut a text when it is stored is to cut it to both widths at once. -/
theorem justifyText_labelText (text : List Char) (width : Nat) (j : Justify) :
    justifyText (labelText text) (min width maxLabelWidth) j =
      justifyText (printedText text) (min width maxLabelWidth) j := by
  have hcut : cutToWidth (labelText text) (min width maxLabelWidth) =
      cutToWidth (printedText text) (min width maxLabelWidth) := by
    have hwidth : min maxLabelWidth (min width maxLabelWidth) = min width maxLabelWidth := by
      omega
    rw [labelText, cutToWidth_cutToWidth, hwidth]
    rfl
  simp only [justifyText, hcut]

/-- **A label draws the same whether or not its text was cut when it was stored**, since no label is
drawn wider than its stored text may be. -/
theorem labelEdits_stored (format : LabelFormat) (width i : Nat) (label : Label)
    (text : List Char) :
    labelEdits format (min width maxLabelWidth) i
        { label with text := String.ofList (labelText text) } =
      labelEdits format (min width maxLabelWidth) i
        { label with text := String.ofList (printedText text) } := by
  simp only [labelEdits, String.toList_ofList, justifyText_labelText]

/-- **A label's text is made to fit exactly.** It is cut to the longest beginning that fits, once or
more often, and stands among spaces that fill its columns, with no more of them on the left than its
justification says. No difference is negative on the way. A text that was cut when it was stored is
drawn as the whole text would be. -/
theorem text_fitted (text : List Char) (width : Nat) (j : Justify) :
    LongestFit text width (cutToWidth text width) ∧
    (∀ narrower, cutToWidth (cutToWidth text width) narrower =
      cutToWidth text (min width narrower)) ∧
    justifyText? text width j = some (justifyText text width j) ∧
    Padded j width (cutToWidth text width) (justifyText text width j) ∧
    ∀ (format : LabelFormat) (i : Nat) (label : Label),
      labelEdits format (min width maxLabelWidth) i
          { label with text := String.ofList (labelText text) } =
        labelEdits format (min width maxLabelWidth) i
          { label with text := String.ofList (printedText text) } :=
  ⟨longestFit_cutToWidth text width, cutToWidth_cutToWidth text width, justifyText?_eq text width j,
    padded_justifyText text width j, fun format i label =>
      labelEdits_stored format width i label text⟩

/-- A wide character of which only half fits is left out, with the narrow one behind it. -/
example : justifyText ['a', '日', 'b'] 2 .right = [' ', 'a'] := by decide +kernel

end SoftLabels

end TerminalSession
