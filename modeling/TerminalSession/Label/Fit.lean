import TerminalSession.Text.Columns
import TerminalSession.Text.Blank

/-!
# Fitting label texts

Cutting a text to a number of columns and padding it to exactly that many. Columns are those of
`columns`, so a text that fits here also fits when it is written into a window.
-/

namespace TerminalSession

/-- Where a label's text stands in its columns. -/
inductive Justify
  | left
  | center
  | right
  deriving DecidableEq, Repr, Inhabited

/-- The longest beginning of a text that takes at most `width` columns. -/
def cutToWidth : List Char → Nat → List Char
  | [], _ => []
  | c :: text, width =>
    if columns c ≤ width then c :: cutToWidth text (width - columns c) else []

/-- How many of `pad` free columns stand on the left. -/
def Justify.leftPad (j : Justify) (pad : Nat) : Nat :=
  match j with
  | .left => 0
  | .center => pad / 2
  | .right => pad

/-- A text cut to `width` columns and padded with spaces to fill them. -/
def justifyText (text : List Char) (width : Nat) (j : Justify) : List Char :=
  let text := cutToWidth text width
  let pad := width - textColumns text
  let left := j.leftPad pad
  List.replicate left ' ' ++ text ++ List.replicate (pad - left) ' '

/-- The most columns a stored label takes. -/
def maxLabelWidth : Nat := 8

/-- The stored form of a label's text: without control characters, without blanks at its ends, and
cut to `maxLabelWidth` columns. -/
def labelText (text : List Char) : List Char :=
  cutToWidth (trim (text.filter (!isControl ·))) maxLabelWidth

@[simp] theorem textColumns_nil : textColumns [] = 0 := rfl

@[simp] theorem textColumns_cons (c : Char) (text : List Char) :
    textColumns (c :: text) = columns c + textColumns text := rfl

theorem textColumns_cutToWidth_le (text : List Char) (width : Nat) :
    textColumns (cutToWidth text width) ≤ width := by
  induction text generalizing width with
  | nil => simp [cutToWidth]
  | cons c text ih =>
    rw [cutToWidth]
    split
    · have := ih (width - columns c)
      simp only [textColumns_cons]
      omega
    · simp

theorem cutToWidth_isPrefix (text : List Char) (width : Nat) : cutToWidth text width <+: text := by
  induction text generalizing width with
  | nil => exact List.prefix_rfl
  | cons c text ih =>
    rw [cutToWidth]
    split
    · exact List.cons_prefix_cons.mpr ⟨rfl, ih _⟩
    · exact List.nil_prefix

end TerminalSession
