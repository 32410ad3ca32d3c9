import TerminalSession.Proofs.Window.Writing

/-!
# Texts beside each other

Texts that are written into a window one after the other overwrite each other, unless each has its
columns for itself. Then all of them can be read afterwards, and around them the window is what it
was (`Window.written_edits`). If it was blank, then no wide character is split
(`Window.Written.whole`).
-/

namespace TerminalSession

/-- A text and the place where it begins. -/
structure Piece where
  row : Nat
  col : Nat
  text : List Char

namespace Piece

/-- The writing of a piece. -/
def edit (p : Piece) : Edit := .putText p.row p.col (String.ofList p.text)

/-- A place is needed for a piece. -/
def Takes (p : Piece) (row col : Nat) : Prop := row = p.row ∧ Line.Takes p.text p.col col

/-- A piece is as large as the room that a window of so many rows and columns has for it. -/
def Fits (p : Piece) (rows cols : Nat) : Prop := p.row < rows ∧ p.col + textColumns p.text ≤ cols

/-- Two pieces have no place in common. -/
def Apart (p q : Piece) : Prop :=
  p.row = q.row → p.col + textColumns p.text ≤ q.col ∨ q.col + textColumns q.text ≤ p.col

theorem Apart.not_takes {p q : Piece} {row col : Nat} (h : p.Apart q) (hp : p.Takes row col) :
    ¬ q.Takes row col := by
  rintro ⟨hrow, hq⟩
  obtain ⟨rfl, hp⟩ := hp
  have hpcols := hp.within
  have hqcols := hq.within
  have := h hrow
  omega

end Piece

namespace Line

variable {l l' : Line} {attrs : Attrs} {col x : Nat} {text : List Char}

/-- What a line shows of a text stands in the columns that are needed for it. -/
theorem Bears.congr (h : Bears l attrs col text) (hsame : ∀ x, Takes text col x → l'[x]? = l[x]?) :
    Bears l' attrs col text := by
  intro before c after htext hc
  obtain ⟨hchar, htail⟩ := h before c after htext hc
  refine ⟨?_, fun hwide => ?_⟩
  · rw [hsame _ ⟨before, c, after, htext, hc, .inl rfl⟩, hchar]
  · rw [hsame _ ⟨before, c, after, htext, hc, .inr ⟨hwide, rfl⟩⟩, htail hwide]

/-- What stands in a column that is needed for a text: a character, with a tail behind it if it is
wide, or the tail of the wide character before it. -/
theorem Bears.of_takes (h : Bears l attrs col text) (hx : Takes text col x) :
    (∃ c, l[x]? = some { glyph := .char c, attrs } ∧
      (columns c = 2 → l[x + 1]? = some { glyph := .tail, attrs })) ∨
    (l[x]? = some { glyph := .tail, attrs } ∧
      ∃ c x', x = x' + 1 ∧ columns c = 2 ∧ l[x']? = some { glyph := .char c, attrs }) := by
  obtain ⟨before, c, after, htext, hc, hplace⟩ := hx
  obtain ⟨hchar, htail⟩ := h before c after htext hc
  obtain rfl | ⟨hwide, rfl⟩ := hplace
  · exact .inl ⟨c, hchar, htail⟩
  · exact .inr ⟨htail hwide, c, _, rfl, hwide, hchar⟩

theorem tailAt_eq_true : tailAt l x = true ↔ ∃ attrs, l[x]? = some { glyph := .tail, attrs } := by
  rw [tailAt, Option.any_eq_true]
  constructor
  · rintro ⟨⟨glyph, attrs⟩, hcell, htail⟩
    obtain rfl : glyph = .tail := by simpa [Cell.isTail] using htail
    exact ⟨attrs, hcell⟩
  · rintro ⟨attrs, hcell⟩
    exact ⟨_, hcell, rfl⟩

theorem wideAt_eq_true : wideAt l x = true ↔
    ∃ c attrs, columns c = 2 ∧ l[x]? = some { glyph := .char c, attrs } := by
  rw [wideAt, Option.any_eq_true]
  constructor
  · rintro ⟨⟨glyph, attrs⟩, hcell, hwide⟩
    cases glyph with
    | blank | tail => simp [Cell.isWide, Cell.width] at hwide
    | char c => exact ⟨c, attrs, by simpa [Cell.isWide, Cell.width] using hwide, hcell⟩
  · rintro ⟨c, attrs, hwide, hcell⟩
    exact ⟨_, hcell, by simp [Cell.isWide, Cell.width, hwide]⟩

/-- Cells that are blank, or stand as those of a text do, do not split any character. -/
theorem whole_of_bears (h : ∀ x cell, l[x]? = some cell → cell.glyph = .blank ∨
    ∃ attrs col text, Bears l attrs col text ∧ Takes text col x) : Whole l := by
  have htail (x : Nat) (hx : tailAt l x = true) : ∃ x', x = x' + 1 ∧ wideAt l x' = true := by
    obtain ⟨attrs, hcell⟩ := tailAt_eq_true.mp hx
    obtain hblank | ⟨_, _, _, hbears, htaken⟩ := h x _ hcell
    · cases hblank
    obtain ⟨c, hchar, -⟩ | ⟨-, c, x', rfl, hwide, hchar⟩ := hbears.of_takes htaken
    · cases hcell.symm.trans hchar
    · exact ⟨x', rfl, wideAt_eq_true.mpr ⟨c, _, hwide, hchar⟩⟩
  have hwide (x : Nat) (hx : wideAt l x = true) : tailAt l (x + 1) = true := by
    obtain ⟨c, attrs, hc, hcell⟩ := wideAt_eq_true.mp hx
    obtain hblank | ⟨_, _, _, hbears, htaken⟩ := h x _ hcell
    · cases hblank
    obtain ⟨d, hchar, hnext⟩ | ⟨hchar, -⟩ := hbears.of_takes htaken
    · cases hcell.symm.trans hchar
      exact tailAt_eq_true.mpr ⟨_, hnext hc⟩
    · cases hcell.symm.trans hchar
  constructor
  · refine Bool.eq_false_iff.mpr fun hzero => ?_
    obtain ⟨x', hx, -⟩ := htail 0 hzero
    cases hx
  · refine fun x => Bool.eq_iff_iff.mpr ⟨fun hx => ?_, hwide x⟩
    obtain ⟨x', hx', hw⟩ := htail _ hx
    cases hx'
    exact hw

end Line

namespace Window

variable {w w' : Window} {pieces : List Piece}

/-- Texts have been written into a window, and nothing else has changed. -/
structure Written (w : Window) (pieces : List Piece) (w' : Window) : Prop where
  bears : ∀ p ∈ pieces, (w'.line p.row).Bears w.attrs p.col p.text
  others : ∀ row col, (∀ p ∈ pieces, ¬ p.Takes row col) → w'.cell? row col = w.cell? row col

/-- A text that fits is written without its characters that have no width. -/
theorem inscribed_piece (h : w.Rectangular) {p : Piece} (hp : p.Fits w.rows w.cols) :
    w.Inscribed p.row p.col (visible p.text) (w.edit p.edit) := by
  have hfits : textColumns (visible p.text) ≤ w.cols - p.col := by
    rw [textColumns_visible]
    have := hp.2
    omega
  have hwritten := inscribed_putText h hp.1 p.col (String.ofList p.text)
  rwa [String.toList_ofList, cutToWidth_of_le hfits] at hwritten

/-- **Texts that are apart are all written.** -/
theorem written_edits (h : w.Rectangular) (fits : ∀ p ∈ pieces, p.Fits w.rows w.cols)
    (apart : pieces.Pairwise Piece.Apart) : w.Written pieces (w.edits (pieces.map Piece.edit)) := by
  induction pieces generalizing w with
  | nil => exact ⟨List.forall_mem_nil _, fun _ _ _ => rfl⟩
  | cons p pieces ih =>
    obtain ⟨hp, hpieces⟩ := List.forall_mem_cons.mp fits
    obtain ⟨hapart, hpairwise⟩ := List.pairwise_cons.mp apart
    have hfirst := inscribed_piece h hp
    obtain ⟨harea, hattrs, -⟩ := hfirst.rest
    have hrows : (w.edit p.edit).rows = w.rows := congrArg Rect.rows harea
    have hcols : (w.edit p.edit).cols = w.cols := congrArg Rect.cols harea
    have hrest := ih (w := w.edit p.edit) (h.change (.edit _)) (by rwa [hrows, hcols]) hpairwise
    constructor
    case bears =>
      refine List.forall_mem_cons.mpr ⟨?_, fun q hq => hattrs ▸ hrest.bears q hq⟩
      -- The pieces behind the first one leave it alone.
      refine (Line.bears_visible.mp hfirst.bears).congr fun x hx => ?_
      rw [getElem?_line, getElem?_line]
      exact hrest.others p.row x fun q hq => (hapart q hq).not_takes ⟨rfl, hx⟩
    case others =>
      intro row col hfree
      obtain ⟨hfree, hfrees⟩ := List.forall_mem_cons.mp hfree
      refine (hrest.others row col hfrees).trans (hfirst.others row col fun hrow htaken => ?_)
      exact hfree ⟨hrow, Line.takes_visible.mp htaken⟩

/-- A cell is as it was, or a text stands there. -/
theorem Written.cell_cases (h : w.Written pieces w') (row x : Nat) :
    w'.cell? row x = w.cell? row x ∨
      ∃ col text, (w'.line row).Bears w.attrs col text ∧ Line.Takes text col x := by
  by_cases hfree : ∀ p ∈ pieces, ¬ p.Takes row x
  · exact .inl (h.others row x hfree)
  · push Not at hfree
    obtain ⟨p, hp, rfl, htaken⟩ := hfree
    exact .inr ⟨_, _, h.bears p hp, htaken⟩

/-- Texts are written with the attributes of the window. -/
theorem Written.attrs_of_cell (h : w.Written pieces w')
    (hattrs : ∀ row x cell, w.cell? row x = some cell → cell.attrs = w.attrs) (row x : Nat)
    (cell : Cell) (hcell : w'.cell? row x = some cell) : cell.attrs = w.attrs := by
  obtain hsame | ⟨_, _, hbears, htaken⟩ := h.cell_cases row x
  · exact hattrs row x cell (hsame ▸ hcell)
  · rw [← getElem?_line] at hcell
    obtain ⟨_, hchar, -⟩ | ⟨htail, -⟩ := hbears.of_takes htaken
    · cases hcell.symm.trans hchar
      rfl
    · cases hcell.symm.trans htail
      rfl

/-- **Texts that are written onto blank lines split no character.** -/
theorem Written.whole (h : w.Written pieces w') (hblank : ∀ row, (w.line row).Blank) :
    w'.Whole := by
  refine whole_iff.mpr fun row => Line.whole_of_bears fun x cell hcell => ?_
  obtain hsame | hstands := h.cell_cases row x
  · rw [getElem?_line, hsame, ← getElem?_line] at hcell
    exact .inl (hblank row cell (Array.mem_of_getElem? hcell))
  · exact .inr ⟨_, hstands⟩

end Window

end TerminalSession
