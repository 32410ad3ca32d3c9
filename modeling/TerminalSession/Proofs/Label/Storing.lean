import TerminalSession.Proofs.Label.Drawing
import TerminalSession.Proofs.Text.Fitting
import TerminalSession.Proofs.Text.Trimming

/-!
# What is stored of a label's text

A stored text has no control characters, begins with no blank and takes no more columns than a label
may have (`Storable`). Its end is trimmed before it is cut, so it ends with a blank if it is cut
right behind one (`labelText_trailing_iff`). Only then does it change when it is stored again
(`labelText_eq_self_iff`), and with it the label that it is read from (`setLabel_stores`).
-/

namespace TerminalSession

open TerminalSession.Action

variable {text kept : List Char}

/-! ## Texts -/

/-- A text as labels have them. -/
structure Storable (text : List Char) : Prop where
  printed : ∀ c ∈ text, isControl c = false
  fits : textColumns text ≤ maxLabelWidth
  leading : NoLeadingBlank text

/-- The columns that a text has room in end right behind one of its blanks, though there is more of
it. -/
def CutBehindBlank (text : List Char) (width : Nat) : Prop :=
  ∃ before blank next after, text = before ++ blank :: next :: after ∧ isBlank blank = true ∧
    textColumns (before ++ [blank]) ≤ width ∧ width < textColumns (before ++ [blank, next])

/-- The text that is cut to the columns of a label. -/
def printedText (text : List Char) : List Char := trim (text.filter (!isControl ·))

theorem storable_labelText (text : List Char) : Storable (labelText text) := by
  have hbegins : labelText text <+: printedText text := cutToWidth_isPrefix ..
  constructor
  case printed =>
    intro c hc
    have hmem : c ∈ text.filter (!isControl ·) := trim_subset _ (hbegins.subset hc)
    simpa using (List.mem_filter.mp hmem).2
  case fits => exact textColumns_cutToWidth_le ..
  case leading => exact (noLeadingBlank_trim _).of_isPrefix hbegins

/-- Of a text that does not end with a blank, a cut leaves one at the end just if it is made right
behind it. -/
theorem noTrailingBlank_cutToWidth_iff (h : NoTrailingBlank text) (width : Nat) :
    NoTrailingBlank (cutToWidth text width) ↔ ¬ CutBehindBlank text width := by
  constructor
  · rintro hplain ⟨before, blank, next, after, rfl, hblank, hfits, hexceeds⟩
    rw [List.append_cons] at hexceeds
    rw [List.append_cons, ← (longestFit_append_cons_iff.mpr ⟨hfits, hexceeds⟩).eq_cutToWidth,
      noTrailingBlank_concat, hblank] at hplain
    cases hplain
  · intro hnot c hc
    rw [Bool.eq_false_iff]
    intro hblank
    have hcut := longestFit_cutToWidth text width
    obtain ⟨before, hbefore⟩ := List.getLast?_eq_some_iff.mp hc
    rw [hbefore] at hcut
    obtain ⟨rest, rfl⟩ := hcut.isPrefix
    cases rest with
    | nil =>
      rw [List.append_nil, noTrailingBlank_concat, hblank] at h
      cases h
    | cons next after =>
      obtain ⟨hfits, hexceeds⟩ := longestFit_append_cons_iff.mp hcut
      rw [← List.append_cons] at hexceeds
      exact hnot ⟨before, c, next, after, (List.append_cons ..).symm, hblank, hfits, hexceeds⟩

/-- A stored text ends with a blank just if it is cut behind one. -/
theorem labelText_trailing_iff (text : List Char) :
    NoTrailingBlank (labelText text) ↔ ¬ CutBehindBlank (printedText text) maxLabelWidth :=
  noTrailingBlank_cutToWidth_iff (noTrailingBlank_trim _) _

/-- Stored again, a text stays as it is unless it ends with a blank. -/
theorem labelText_eq_self_iff (h : Storable text) :
    labelText text = text ↔ NoTrailingBlank text := by
  have hprinted : text.filter (!isControl ·) = text := by
    rw [List.filter_eq_self]
    intro c hc
    rw [h.printed c hc]
    rfl
  have hfits : textColumns (trimEnd text) ≤ maxLabelWidth :=
    Nat.le_trans (textColumns_le_of_isPrefix (trimEnd_isPrefix text)) h.fits
  have hstored : labelText text = trimEnd text := by
    rw [labelText, hprinted, trim_of_noLeadingBlank h.leading, cutToWidth_of_le hfits]
  rw [hstored]
  constructor
  · intro heq
    rw [← heq]
    exact noTrailingBlank_trimEnd text
  · exact trimEnd_of_noTrailingBlank

/-! ## Labels -/

namespace SoftLabels

variable {s s' : SoftLabels} {index : Nat} {justify : Justify}

/-- One label has been given a text, and nothing else has changed. -/
structure Relabelled (s : SoftLabels) (index : Nat) (text : List Char) (justify : Justify)
    (s' : SoftLabels) : Prop where
  label : ∃ label, s.labels[index - 1]? = some label ∧
    s'.labels[index - 1]? = some { label with text := String.ofList text, justify }
  others : ∀ i, i ≠ index - 1 → s'.labels[i]? = s.labels[i]?
  starts : s'.starts = s.starts
  rest : s'.format = s.format ∧ s'.width = s.width ∧ s'.window = s.window

theorem isInitialized_eq_true : s.isInitialized = true ↔ ¬ s.format.isNone = true := by
  rw [isInitialized, Option.isSome_iff_ne_none, Option.isNone_iff_eq_none]

theorem isInitialized_eq_false : s.isInitialized = false ↔ s.format.isNone = true := by
  rw [← Bool.not_eq_true, isInitialized_eq_true, not_not]

theorem setLabel_of_valid (hinit : s.isInitialized = true)
    (hindex : 0 < index ∧ index ≤ s.labels.size) (text : String) (justify : Justify) :
    s.setLabel index text justify = .ok { s with
      labels := s.labels.modify (index - 1)
        ({ · with text := String.ofList (labelText text.toList), justify }) } := by
  rw [setLabel, if_neg (isInitialized_eq_true.mp hinit), if_neg (by omega)]

theorem relabelled_of_setLabel {text : String} (hinit : s.isInitialized = true)
    (hindex : 0 < index ∧ index ≤ s.labels.size) (h : s.setLabel index text justify = .ok s') :
    s.Relabelled index (labelText text.toList) justify s' := by
  have hlt : index - 1 < s.labels.size := by omega
  obtain ⟨-, hstarts, hwidth⟩ := of_setLabel_ok h
  obtain ⟨hwindow, hformat⟩ := of_setLabel h
  rw [setLabel_of_valid hinit hindex] at h
  cases h
  refine ⟨⟨s.labels[index - 1], Array.getElem?_eq_getElem hlt, ?_⟩, ?_, hstarts, hformat, hwidth,
    hwindow⟩
  · rw [Array.getElem?_modify, if_pos rfl, Array.getElem?_eq_getElem hlt]
    rfl
  · intro i hi
    rw [Array.getElem?_modify, if_neg (Ne.symm hi)]

/-- Stored again, the text of a label changes the labels if it changes itself. -/
theorem setLabel_own_iff {label : Label} (hinit : s.isInitialized = true)
    (hindex : 0 < index ∧ index ≤ s.labels.size) (hlabel : s.labels[index - 1]? = some label)
    (htext : label.text = String.ofList kept) :
    s.setLabel index (String.ofList kept) label.justify = .ok s ↔ labelText kept = kept := by
  rw [setLabel_of_valid hinit hindex, String.toList_ofList, Except.ok.injEq]
  constructor
  · intro h
    have hlabels := congrArg (fun s : SoftLabels => (s.labels[index - 1]?).map Label.text) h
    simp only [Array.getElem?_modify, if_pos, hlabel, Option.map_some, htext, Option.some.injEq]
      at hlabels
    exact String.ofList_inj.mp hlabels
  · intro hkept
    have hlabels : s.labels.modify (index - 1)
        ({ · with text := String.ofList (labelText kept), justify := label.justify }) =
        s.labels := by
      apply Array.ext_getElem?
      intro i
      rw [Array.getElem?_modify, hkept, ← htext]
      split
      · subst i
        rw [hlabel]
        rfl
      · rfl
    rw [hlabels]

/-- **What a label stores.** Without a format, or with an index that no label has, a text is refused,
and a screen stays as it was. Otherwise the label gets a text without control characters, which
begins with no blank and takes no more columns than a label may have; no other label, no column and
no width changes. The text ends with a blank just if it had to be cut right behind one, and storing
the label's own text again changes nothing just if it does not. -/
theorem setLabel_stores (s : SoftLabels) (index : Nat) (text : String) (justify : Justify) :
    (s.isInitialized = false → s.setLabel index text justify = .error .notInitialized) ∧
    (s.isInitialized = true → ¬ (0 < index ∧ index ≤ s.labels.size) →
      s.setLabel index text justify = .error (.noSuchLabel index s.labels.size)) ∧
    (∀ cause, s.setLabel index text justify = .error cause →
      ∀ {T E : Type} [WindowEngine E] (screen : Screen T E), screen.labels = s →
        exec (Screen.setLabel index text justify) screen = (.error (.softLabels cause), screen)) ∧
    (s.isInitialized = true → 0 < index ∧ index ≤ s.labels.size →
      ∃ s' kept, s.setLabel index text justify = .ok s' ∧
        s'.label? index = some (String.ofList kept) ∧ Storable kept ∧
        s.Relabelled index kept justify s' ∧
        (NoTrailingBlank kept ↔ ¬ CutBehindBlank (printedText text.toList) maxLabelWidth) ∧
        (s'.setLabel index (String.ofList kept) justify = .ok s' ↔ NoTrailingBlank kept)) := by
  refine ⟨?_, ?_, ?_, ?_⟩
  · intro hinit
    rw [setLabel, if_pos (isInitialized_eq_false.mp hinit)]
  · intro hinit hindex
    rw [setLabel, if_neg (isInitialized_eq_true.mp hinit), if_pos (by omega)]
  · rintro cause hrefused T E _ screen rfl
    rw [Screen.setLabel, exec_bind_ok (exec_get screen)]
    simp only [hrefused]
    rfl
  · intro hinit hindex
    obtain ⟨s', hset⟩ : ∃ s', s.setLabel index text justify = .ok s' :=
      ⟨_, setLabel_of_valid hinit hindex text justify⟩
    have hrelabelled := relabelled_of_setLabel hinit hindex hset
    obtain ⟨label, -, hlabel⟩ := hrelabelled.label
    have hinit' : s'.isInitialized = true := by
      rw [isInitialized, hrelabelled.rest.1]
      exact hinit
    have hindex' : 0 < index ∧ index ≤ s'.labels.size := (of_setLabel_ok hset).1 ▸ hindex
    refine ⟨s', _, hset, ?_, storable_labelText _, hrelabelled, labelText_trailing_iff _, ?_⟩
    · rw [label?, if_neg (by omega), hlabel]
      rfl
    · rw [← labelText_eq_self_iff (storable_labelText _)]
      exact setLabel_own_iff hinit' hindex' hlabel rfl

/-- Eight labels without texts. -/
def textless : SoftLabels where
  format := some .fourFour
  labels := Array.replicate 8 {}

/-- A text that is cut right before a blank is stored for good. -/
theorem setLabel_stores_cut : textless.isInitialized = true ∧
    (0 < 8 ∧ 8 ≤ textless.labels.size) ∧
      ∃ s, textless.setLabel 8 "Much too long" .right = .ok s ∧
        s.label? 8 = some "Much too" ∧ s.setLabel 8 "Much too" .right = .ok s := by
  have hstored : (textless.setLabel 8 "Much too long" .right).toOption.bind (·.label? 8) =
      some "Much too" := by
    decide +kernel
  have hcut : NoTrailingBlank (labelText "Much too long".toList) := by decide +kernel
  refine ⟨rfl, by decide, ?_⟩
  obtain ⟨s, kept, hset, hlabel, -, -, htrailing, hown⟩ :=
    (setLabel_stores textless 8 "Much too long" .right).2.2.2 rfl (by decide)
  rw [hset] at hstored
  have hkept : String.ofList kept = "Much too" := Option.some.inj (hlabel.symm.trans hstored)
  have hagain := hown.mpr (htrailing.mpr ((labelText_trailing_iff _).mp hcut))
  rw [hkept] at hlabel hagain
  exact ⟨s, hset, hlabel, hagain⟩

/-- A text that is cut behind a blank keeps it, and loses it when it is stored again. -/
theorem setLabel_keeps_blank :
    ∃ s, textless.setLabel 1 "Another label" .left = .ok s ∧ s.label? 1 = some "Another " ∧
      ∃ s', s.setLabel 1 "Another " .left = .ok s' ∧ s'.label? 1 = some "Another" ∧ s' ≠ s := by
  refine ⟨_, rfl, ?_, _, rfl, ?_, ?_⟩
  all_goals decide +kernel

end SoftLabels

end TerminalSession
