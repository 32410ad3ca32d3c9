/-!
# Blanks

The white space that is cut from the ends of a text, and the cutting. Both work on lists of
characters, where "starts with no blank" and "ends with no blank" are statements about `head?` and
`getLast?`.
-/

namespace TerminalSession

/-- Unicode white space. -/
def isBlank (c : Char) : Bool :=
  let code := c.toNat
  (0x9 ≤ code && code ≤ 0xD) || code == 0x20 || code == 0x85 || code == 0xA0 || code == 0x1680 ||
    (0x2000 ≤ code && code ≤ 0x200A) || code == 0x2028 || code == 0x2029 || code == 0x202F ||
    code == 0x205F || code == 0x3000

def trimEnd (text : List Char) : List Char := (text.reverse.dropWhile isBlank).reverse

/-- A text without the blanks at its ends. -/
def trim (text : List Char) : List Char := trimEnd (text.dropWhile isBlank)

/-- Cutting the end takes nothing but blanks off it. -/
theorem exists_eq_trimEnd_append (text : List Char) :
    ∃ blanks, text = trimEnd text ++ blanks ∧ ∀ c ∈ blanks, isBlank c = true := by
  refine ⟨(text.reverse.takeWhile isBlank).reverse, ?_, fun c hc => ?_⟩
  · rw [trimEnd, ← List.reverse_append, List.takeWhile_append_dropWhile, List.reverse_reverse]
  · exact List.all_eq_true.mp (List.all_takeWhile (p := isBlank)) c (List.mem_reverse.mp hc)

end TerminalSession
