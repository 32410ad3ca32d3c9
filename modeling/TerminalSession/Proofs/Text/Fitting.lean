import TerminalSession.Label.Fit

/-!
# The longest beginning of a text that fits

A text is cut where its columns end, and what is left is the longest of its beginnings that fit
(`longestFit_cutToWidth`). So it does not matter whether a text is cut once or twice
(`cutToWidth_cutToWidth`). Characters without width take part in nothing but the order: leaving them
out changes neither the columns of a text nor where it is cut.
-/

namespace TerminalSession

/-- A beginning of a text that takes at most so many columns, and that all others which do are
beginnings of. -/
structure LongestFit (text : List Char) (width : Nat) (kept : List Char) : Prop where
  isPrefix : kept <+: text
  fits : textColumns kept ≤ width
  longest : ∀ other, other <+: text → textColumns other ≤ width → other <+: kept

/-- The characters of a text that have a width. -/
def visible (text : List Char) : List Char := text.filter fun c => columns c ≠ 0

variable {text : List Char} {width : Nat}

theorem textColumns_append (text text' : List Char) :
    textColumns (text ++ text') = textColumns text + textColumns text' := by
  induction text with
  | nil => simp
  | cons c text ih => simp [ih, Nat.add_assoc]

theorem textColumns_le_of_isPrefix {text' : List Char} (h : text <+: text') :
    textColumns text ≤ textColumns text' := by
  obtain ⟨rest, rfl⟩ := h
  rw [textColumns_append]
  exact Nat.le_add_right ..

theorem longestFit_cutToWidth (text : List Char) (width : Nat) :
    LongestFit text width (cutToWidth text width) where
  isPrefix := cutToWidth_isPrefix text width
  fits := textColumns_cutToWidth_le text width
  longest other := by
    induction text generalizing width other with
    | nil => exact fun h _ => h
    | cons c text ih =>
      intro hprefix hfits
      cases other with
      | nil => exact List.nil_prefix
      | cons d other =>
        obtain ⟨rfl, hrest⟩ := List.cons_prefix_cons.mp hprefix
        rw [textColumns_cons] at hfits
        rw [cutToWidth, if_pos (by omega)]
        exact List.cons_prefix_cons.mpr ⟨rfl, ih _ other hrest (by omega)⟩

/-- There is only one longest beginning. -/
theorem LongestFit.eq_cutToWidth {kept : List Char} (h : LongestFit text width kept) :
    kept = cutToWidth text width := by
  have hcut := longestFit_cutToWidth text width
  have hle := hcut.longest kept h.isPrefix h.fits
  have hge := h.longest _ hcut.isPrefix hcut.fits
  exact hle.eq_of_length_le hge.length_le

/-- The longest beginning of a longest beginning fits into both widths, and is the longest that
does. -/
theorem LongestFit.trans {kept kept' : List Char} {width' : Nat} (h : LongestFit text width kept)
    (h' : LongestFit kept width' kept') : LongestFit text (min width width') kept' where
  isPrefix := h'.isPrefix.trans h.isPrefix
  fits := Nat.le_min.mpr ⟨Nat.le_trans (textColumns_le_of_isPrefix h'.isPrefix) h.fits, h'.fits⟩
  longest other hprefix hfits := by
    obtain ⟨hwidth, hwidth'⟩ := Nat.le_min.mp hfits
    exact h'.longest other (h.longest other hprefix hwidth) hwidth'

theorem cutToWidth_cutToWidth (text : List Char) (width width' : Nat) :
    cutToWidth (cutToWidth text width) width' = cutToWidth text (min width width') :=
  ((longestFit_cutToWidth text width).trans (longestFit_cutToWidth _ width')).eq_cutToWidth

/-- A text that fits is not cut. -/
theorem cutToWidth_of_le (h : textColumns text ≤ width) : cutToWidth text width = text :=
  (LongestFit.eq_cutToWidth ⟨List.prefix_rfl, h, fun _ hprefix _ => hprefix⟩).symm

/-- A beginning is the longest one that fits if the character behind it exceeds the columns. -/
theorem longestFit_append_cons_iff {kept after : List Char} {next : Char} :
    LongestFit (kept ++ next :: after) width kept ↔
      textColumns kept ≤ width ∧ width < textColumns (kept ++ [next]) := by
  have hlonger : kept ++ [next] <+: kept ++ next :: after := ⟨after, by simp⟩
  constructor
  · intro h
    refine ⟨h.fits, Nat.lt_of_not_le fun hwidth => ?_⟩
    have hlength := (h.longest _ hlonger hwidth).length_le
    rw [List.length_append] at hlength
    exact absurd hlength (Nat.not_succ_le_self _)
  · rintro ⟨hfits, hexceeds⟩
    refine ⟨List.prefix_append .., hfits, fun other hother hwidth => ?_⟩
    rcases List.prefix_or_prefix_of_prefix hother hlonger with hshort | hlong
    · rcases List.prefix_concat_iff.mp hshort with rfl | hshort
      · exact absurd hwidth (Nat.not_le.mpr hexceeds)
      · exact hshort
    · have hcolumns := textColumns_le_of_isPrefix hlong
      omega

/-! ## Characters that have a width -/

theorem visible_cons_of_pos {c : Char} (h : columns c ≠ 0) (text : List Char) :
    visible (c :: text) = c :: visible text :=
  List.filter_cons_of_pos (by simpa using h)

theorem visible_cons_of_zero {c : Char} (h : columns c = 0) (text : List Char) :
    visible (c :: text) = visible text :=
  List.filter_cons_of_neg (by simpa using h)

theorem columns_of_mem_visible {c : Char} (h : c ∈ visible text) : columns c ≠ 0 := by
  simpa using (List.mem_filter.mp h).2

@[simp] theorem textColumns_visible (text : List Char) :
    textColumns (visible text) = textColumns text := by
  induction text with
  | nil => rfl
  | cons c text ih =>
    by_cases hc : columns c = 0
    · rw [visible_cons_of_zero hc, ih, textColumns_cons, hc, Nat.zero_add]
    · rw [visible_cons_of_pos hc, textColumns_cons, ih, textColumns_cons]

/-- Without room nothing that has a width is left. -/
theorem cutToWidth_visible_zero (text : List Char) : cutToWidth (visible text) 0 = [] := by
  cases hvisible : visible text with
  | nil => rfl
  | cons c rest =>
    have hmem : c ∈ visible text := hvisible ▸ .head _
    have hc := columns_of_mem_visible hmem
    rw [cutToWidth, if_neg (by omega)]

end TerminalSession
