import TerminalSession.Text.Blank

/-!
# Texts with no blanks at their ends

Trimming leaves a text that neither begins nor ends with a blank (`noLeadingBlank_trim`,
`noTrailingBlank_trim`), and such a text is left as it is. A beginning of a trimmed text still
begins with no blank, but it may end with one.
-/

namespace TerminalSession

/-- A text does not begin with a blank. -/
def NoLeadingBlank (text : List Char) : Prop := ∀ c, text.head? = some c → isBlank c = false

/-- A text does not end with a blank. -/
def NoTrailingBlank (text : List Char) : Prop := ∀ c, text.getLast? = some c → isBlank c = false

instance (text : List Char) : Decidable (NoTrailingBlank text) :=
  decidable_of_iff (text.getLast?.all (!isBlank ·) = true) (by
    rw [NoTrailingBlank, Option.all_eq_true]
    simp only [Bool.not_eq_true'])

variable {text text' : List Char}

theorem noLeadingBlank_dropWhile (text : List Char) : NoLeadingBlank (text.dropWhile isBlank) := by
  intro c hc
  have hfirst := List.head?_dropWhile_not isBlank text
  rwa [hc] at hfirst

theorem NoLeadingBlank.of_isPrefix (h : NoLeadingBlank text') (hbegins : text <+: text') :
    NoLeadingBlank text := by
  obtain ⟨rest, rfl⟩ := hbegins
  intro c hc
  cases text with
  | nil => cases hc
  | cons first text => exact h c hc

theorem dropWhile_of_noLeadingBlank (h : NoLeadingBlank text) : text.dropWhile isBlank = text := by
  cases text with
  | nil => rfl
  | cons c text =>
    apply List.dropWhile_cons_of_neg
    rw [h c rfl]
    exact Bool.false_ne_true

/-! ## The end -/

theorem trimEnd_isPrefix (text : List Char) : trimEnd text <+: text := by
  obtain ⟨blanks, htext, -⟩ := exists_eq_trimEnd_append text
  exact ⟨blanks, htext.symm⟩

theorem noTrailingBlank_trimEnd (text : List Char) : NoTrailingBlank (trimEnd text) := by
  intro c hc
  rw [trimEnd, List.getLast?_reverse] at hc
  exact noLeadingBlank_dropWhile _ c hc

theorem noTrailingBlank_concat {c : Char} : NoTrailingBlank (text ++ [c]) ↔ isBlank c = false := by
  simp [NoTrailingBlank]

theorem trimEnd_of_noTrailingBlank (h : NoTrailingBlank text) : trimEnd text = text := by
  obtain ⟨blanks, htext, hblanks⟩ := exists_eq_trimEnd_append text
  rcases List.eq_nil_or_concat blanks with rfl | ⟨front, c, rfl⟩
  · rw [List.append_nil] at htext
    exact htext.symm
  · -- What is cut ends with a blank, so the text would end with it.
    have hblank : isBlank c = true := hblanks c (by simp)
    rw [htext, List.concat_eq_append, ← List.append_assoc, noTrailingBlank_concat, hblank] at h
    cases h

/-- Blanks at the end of a text do not matter once its end is cut. -/
theorem trimEnd_append_of_blank {blanks : List Char} (h : ∀ c ∈ blanks, isBlank c = true)
    (text : List Char) : trimEnd (text ++ blanks) = trimEnd text := by
  rw [trimEnd, List.reverse_append, List.dropWhile_append_of_pos]
  · rfl
  · exact fun c hc => h c (List.mem_reverse.mp hc)

/-! ## Both ends -/

theorem noLeadingBlank_trim (text : List Char) : NoLeadingBlank (trim text) :=
  (noLeadingBlank_dropWhile text).of_isPrefix (trimEnd_isPrefix _)

theorem noTrailingBlank_trim (text : List Char) : NoTrailingBlank (trim text) :=
  noTrailingBlank_trimEnd _

theorem trim_subset (text : List Char) : trim text ⊆ text :=
  List.Subset.trans (trimEnd_isPrefix _).subset (List.dropWhile_suffix _).subset

theorem trim_of_noLeadingBlank (h : NoLeadingBlank text) : trim text = trimEnd text := by
  rw [trim, dropWhile_of_noLeadingBlank h]

end TerminalSession
