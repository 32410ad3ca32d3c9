import TerminalSession.Proofs.Label.Spacing
import TerminalSession.Proofs.Window.Pieces
import TerminalSession.Proofs.Window.Regrown

/-!
# What the strip shows

A strip is drawn as a blank window with a piece of text for each label, and one more for its key's
name if the format has these (`SoftLabels.pieces`). Labels that have been spread leave each piece
its own columns, so all of them can be read (`SoftLabels.written_drawn`), whatever the texts are and
whatever the window showed before (`SoftLabels.legible_draw`).
-/

namespace TerminalSession

/-! ## Padded texts -/

theorem visible_append (text text' : List Char) :
    visible (text ++ text') = visible text ++ visible text' := List.filter_append ..

theorem visible_spaces (n : Nat) : visible (List.replicate n ' ') = List.replicate n ' ' :=
  List.filter_replicate_of_pos (by decide)

theorem textColumns_spaces (n : Nat) : textColumns (List.replicate n ' ') = n := by
  have hspace : columns ' ' = 1 := by decide
  induction n with
  | zero => rfl
  | succ n ih => rw [List.replicate_succ, textColumns_cons, ih, hspace, Nat.add_comm]

theorem Justify.leftPad_le (j : Justify) (pad : Nat) : j.leftPad pad ≤ pad := by
  cases j with
  | left => exact Nat.zero_le pad
  | center => exact Nat.div_le_self pad 2
  | right => exact Nat.le_refl pad

/-- A justified text fills its columns. -/
theorem textColumns_justifyText (text : List Char) (width : Nat) (j : Justify) :
    textColumns (justifyText text width j) = width := by
  have hcut := textColumns_cutToWidth_le text width
  have hleft := j.leftPad_le (width - textColumns (cutToWidth text width))
  simp only [justifyText, textColumns_append, textColumns_spaces]
  omega

/-- What a label shows if so much of its text is kept: the characters that have a width, with spaces
on both sides that fill its columns. -/
def Label.shown (label : Label) (width : Nat) (kept : List Char) : List Char :=
  let pad := width - textColumns kept
  let left := label.justify.leftPad pad
  List.replicate left ' ' ++ visible kept ++ List.replicate (pad - left) ' '

theorem Label.visible_justifyText (label : Label) (width : Nat) :
    visible (justifyText label.text.toList width label.justify) =
      label.shown width (cutToWidth label.text.toList width) := by
  simp only [justifyText, visible_append, visible_spaces, shown]

namespace Line

variable {l : Line} {attrs : Attrs} {col x : Nat} {text : List Char}

theorem columns_le_of_split {before after : List Char} {c : Char}
    (h : text = before ++ c :: after) : columns c ≤ textColumns text := by
  rw [h, textColumns_append, textColumns_cons]
  omega

/-- Nothing stands anywhere of a text that takes no column. -/
theorem bears_of_no_columns (h : textColumns text = 0) : Bears l attrs col text :=
  fun _ _ _ htext hc => absurd (columns_le_of_split htext) (by omega)

end Line

namespace Window

variable {w : Window} {rows cols : Nat} {attrs : Attrs} {pieces : List Piece}

theorem Blanked.line_blank (h : w.Blanked rows cols attrs) (row : Nat) : (w.line row).Blank := by
  intro cell hcell
  obtain ⟨x, hx⟩ := Array.mem_iff_getElem?.mp hcell
  rw [getElem?_line, h row x] at hx
  split at hx <;> cases hx
  rfl

/-- Texts that take no column leave a window as it is. -/
theorem written_of_no_columns (h : ∀ p ∈ pieces, textColumns p.text = 0) : w.Written pieces w where
  bears p hp := Line.bears_of_no_columns (h p hp)
  others _ _ _ := rfl

end Window

namespace SoftLabels

open TerminalSession.Action

variable {s : SoftLabels} {format : LabelFormat} {cols i : Nat} {label : Label} {p : Piece}
  {w w' : Window}

/-! ## Pieces of a strip -/

/-- The name of a key, with labels counted from 0. -/
def keyText (i : Nat) : List Char := 'F' :: (toString (i + 1)).toList

def textPiece (format : LabelFormat) (width : Nat) (label : Label) : Piece where
  row := format.labelLine
  col := label.start
  text := justifyText label.text.toList width label.justify

def namePiece (width i : Nat) (label : Label) : Piece where
  row := 0
  col := label.start
  text := cutToWidth (keyText i) width

/-- The pieces of one label. -/
def labelPieces (format : LabelFormat) (width i : Nat) (label : Label) : List Piece :=
  if 0 < format.labelLine then [namePiece width i label, textPiece format width label]
  else [textPiece format width label]

def pieces (s : SoftLabels) (format : LabelFormat) : List Piece :=
  s.labels.toList.zipIdx.flatMap fun (label, i) => labelPieces format s.width i label

theorem mem_labelPieces {width : Nat} : p ∈ labelPieces format width i label ↔
    p = textPiece format width label ∨ 0 < format.labelLine ∧ p = namePiece width i label := by
  unfold labelPieces
  split <;> simp [*, or_comm]

theorem mem_pieces : p ∈ s.pieces format ↔ ∃ i label, s.labels[i]? = some label ∧
    (p = textPiece format s.width label ∨
      0 < format.labelLine ∧ p = namePiece s.width i label) := by
  simp only [pieces, List.mem_flatMap, Prod.exists, List.mk_mem_zipIdx_iff_getElem?,
    Array.getElem?_toList, mem_labelPieces]
  exact exists_comm

theorem labelEdits_eq (format : LabelFormat) (width i : Nat) (label : Label) :
    labelEdits format width i label = (labelPieces format width i label).map Piece.edit := by
  unfold labelEdits labelPieces
  split <;> rfl

theorem drawing_eq (s : SoftLabels) (format : LabelFormat) : s.drawing format =
    [.setAttrs .inverse, .erase] ++
      if s.width = 0 then [] else (s.pieces format).map Piece.edit := by
  simp only [drawing, pieces, List.map_flatMap, labelEdits_eq]

/-- The pieces of a label take at most the columns it has. -/
theorem of_mem_labelPieces {width : Nat} (h : p ∈ labelPieces format width i label) :
    p.row ≤ format.labelLine ∧ p.col = label.start ∧ textColumns p.text ≤ width := by
  obtain rfl | ⟨-, rfl⟩ := mem_labelPieces.mp h
  · exact ⟨Nat.le_refl _, rfl, Nat.le_of_eq (textColumns_justifyText ..)⟩
  · exact ⟨Nat.zero_le _, rfl, textColumns_cutToWidth_le ..⟩

theorem textColumns_of_mem_pieces (h : p ∈ s.pieces format) : textColumns p.text ≤ s.width := by
  obtain ⟨_, _, hpiece⟩ := List.mem_flatMap.mp h
  exact (of_mem_labelPieces hpiece).2.2

/-- The name of a key stands above the text of its label. -/
theorem pairwise_labelPieces (format : LabelFormat) (width i : Nat) (label : Label) :
    (labelPieces format width i label).Pairwise Piece.Apart := by
  unfold labelPieces
  split
  · rename_i hline
    simp [Piece.Apart, namePiece, textPiece, Nat.ne_of_lt hline]
  · exact List.pairwise_singleton ..

/-- **No piece has a column of another one.** -/
theorem pairwise_pieces (h : s.Spread format cols) (hshown : 0 < s.width) :
    (s.pieces format).Pairwise Piece.Apart := by
  have hlabels : s.labels.toList.zipIdx.Pairwise fun a b =>
      a.1.start + s.width + 1 ≤ b.1.start := by
    have hstarts := h.apart hshown
    rw [starts, List.pairwise_map, ← List.zipIdx_map_fst 0 s.labels.toList, List.pairwise_map]
      at hstarts
    exact hstarts
  rw [pieces, List.pairwise_flatMap]
  refine ⟨fun _ _ => pairwise_labelPieces .., hlabels.imp fun hapart p hp q hq _ => .inl ?_⟩
  obtain ⟨-, hpcol, hpwidth⟩ := of_mem_labelPieces hp
  obtain ⟨-, hqcol, -⟩ := of_mem_labelPieces hq
  omega

theorem fits_of_mem_pieces (h : s.Spread format cols) (hp : p ∈ s.pieces format) :
    p.Fits format.lineCount cols := by
  obtain ⟨⟨label, i⟩, hlabel, hpiece⟩ := List.mem_flatMap.mp hp
  obtain ⟨hrow, hcol, hwidth⟩ := of_mem_labelPieces hpiece
  have hlines : format.labelLine < format.lineCount := by cases format <;> decide
  have hstart : label.start ∈ s.starts :=
    List.mem_map_of_mem (List.fst_mem_of_mem_zipIdx hlabel)
  have hend := h.inside label.start hstart
  exact ⟨Nat.lt_of_le_of_lt hrow hlines, by omega⟩

/-- **A strip is its pieces on a blank window.** -/
theorem written_drawn (h : s.Spread format w.cols) (hformat : s.format = some format)
    (hw : w.Rectangular) (hrows : w.rows = format.lineCount) :
    ∃ blanked : Window, blanked.attrs = .inverse ∧
      blanked.Blanked format.lineCount w.cols .inverse ∧
        blanked.Written (s.pieces format) (w.edits s.drawn) := by
  refine ⟨w.edits [.setAttrs .inverse, .erase], rfl, ?_, ?_⟩
  · rw [← hrows]
    exact Window.blanked_erase (w := w.edit (.setAttrs .inverse)) (hw.change (.edit _))
  have hdrawn : s.drawn = s.drawing format := by rw [drawn, hformat]
  rw [hdrawn, drawing_eq, Window.edits_append]
  have hblanked : (w.edits [.setAttrs .inverse, .erase]).Rectangular :=
    Window.rectangular_edits hw _
  split
  · rename_i hwidth
    refine Window.written_of_no_columns fun p hp => ?_
    have := textColumns_of_mem_pieces hp
    omega
  · refine Window.written_edits hblanked (fun p hp => ?_) (pairwise_pieces h (by omega))
    have hsize : (w.edits [.setAttrs .inverse, .erase]).rows = w.rows := by
      simp [Window.edits, Window.edit, Window.erase, Window.rows]
    rw [hsize, hrows]
    exact fits_of_mem_pieces h hp

/-! ## Reading the strip -/

/-- What the window of a strip shows: so much of each label's text, and in the indexed format of
each key's name, as its columns have room for, and nothing else. -/
structure Legible (s : SoftLabels) (format : LabelFormat) (cols : Nat)
    (texts names : Nat → List Char) (w : Window) : Prop where
  inverse : ∀ row col cell, w.cell? row col = some cell → cell.attrs = .inverse
  /-- No label has a column of another one. -/
  apart : 0 < s.width → ∀ (i j : Nat) (label label' : Label), i < j →
    s.labels[i]? = some label → s.labels[j]? = some label' → label.start + s.width < label'.start
  text : ∀ i (label : Label), s.labels[i]? = some label →
    LongestFit label.text.toList s.width (texts i) ∧
      textColumns (label.shown s.width (texts i)) = s.width ∧
      (w.line format.labelLine).Bears .inverse label.start (label.shown s.width (texts i))
  name : format = .fourFourFourIndexed → ∀ i (label : Label), s.labels[i]? = some label →
    LongestFit (keyText i) s.width (names i) ∧ (w.line 0).Bears .inverse label.start (names i)
  blank : ∀ row col, row < format.lineCount → col < cols →
    (∀ i (label : Label), s.labels[i]? = some label → row = format.labelLine →
      ¬ Line.Takes (label.shown s.width (texts i)) label.start col) →
    (format = .fourFourFourIndexed → ∀ i (label : Label), s.labels[i]? = some label → row = 0 →
      ¬ Line.Takes (names i) label.start col) →
    w.cell? row col = some (.blank .inverse)
  whole : w.Whole
  empty : s.width = 0 → w.Blanked format.lineCount cols .inverse

theorem labelLine_pos_iff : 0 < format.labelLine ↔ format = .fourFourFourIndexed := by
  cases format <;> decide

/-- What is kept of the text of label number `i`, counted from 0. -/
def keptText (s : SoftLabels) (i : Nat) : List Char :=
  cutToWidth (s.labels[i]?.getD default).text.toList s.width

theorem keptText_eq (hlabel : s.labels[i]? = some label) :
    s.keptText i = cutToWidth label.text.toList s.width := by
  rw [keptText, hlabel, Option.getD_some]

theorem legible_of_written {blanked : Window} (hspread : s.Spread format cols)
    (hattrs : blanked.attrs = .inverse)
    (hblank : blanked.Blanked format.lineCount cols .inverse)
    (h : blanked.Written (s.pieces format) w) :
    ∃ texts names, s.Legible format cols texts names w := by
  have hshown (label : Label) : label.shown s.width (cutToWidth label.text.toList s.width) =
      visible (textPiece format s.width label).text := (label.visible_justifyText s.width).symm
  refine ⟨s.keptText, fun i => cutToWidth (keyText i) s.width, ?_⟩
  constructor
  case inverse =>
    rw [← hattrs]
    refine h.attrs_of_cell fun row col cell hcell => ?_
    rw [hblank row col] at hcell
    split at hcell <;> cases hcell
    exact hattrs.symm
  case apart =>
    exact fun hshown _ _ _ _ hij hi hj => hspread.start_lt hshown hij hi hj
  case text =>
    intro i label hlabel
    rw [keptText_eq hlabel, hshown, textColumns_visible, Line.bears_visible]
    have hpiece : textPiece format s.width label ∈ s.pieces format :=
      mem_pieces.mpr ⟨i, label, hlabel, .inl rfl⟩
    exact ⟨longestFit_cutToWidth .., textColumns_justifyText .., hattrs ▸ h.bears _ hpiece⟩
  case name =>
    intro hindexed i label hlabel
    have hpiece : namePiece s.width i label ∈ s.pieces format :=
      mem_pieces.mpr ⟨i, label, hlabel, .inr ⟨labelLine_pos_iff.mpr hindexed, rfl⟩⟩
    exact ⟨longestFit_cutToWidth .., hattrs ▸ h.bears _ hpiece⟩
  case blank =>
    intro row col hrow hcol htexts hnames
    rw [h.others row col, hblank row col, if_pos ⟨hrow, hcol⟩]
    rintro p hp ⟨hprow, htaken⟩
    obtain ⟨i, label, hlabel, rfl | ⟨hline, rfl⟩⟩ := mem_pieces.mp hp
    · refine htexts i label hlabel hprow ?_
      rwa [keptText_eq hlabel, hshown, Line.takes_visible]
    · exact hnames (labelLine_pos_iff.mp hline) i label hlabel hprow htaken
  case whole => exact h.whole hblank.line_blank
  case empty =>
    intro hwidth row col
    refine (h.others row col fun p hp htaken => ?_).trans (hblank row col)
    have hcols := textColumns_of_mem_pieces hp
    have := htaken.2.within
    omega

/-- Laying out gives a label its column and nothing else. -/
theorem getElem?_layOut (cols : Nat) (hlabel : s.labels[i]? = some label) :
    ∃ start, (s.layOut cols).labels[i]? = some { label with start } := by
  unfold layOut
  split
  · exact ⟨label.start, hlabel⟩
  · simp [hlabel]

/-- **Every label is drawn in its own columns**, whatever its text is and whatever the window showed
before, and drawing the labels again changes nothing. -/
theorem legible_draw {b : Buffers} {id : WindowId} (hformat : s.format = some format)
    (hcount : s.labels.size = format.labelCount) (hwindow : s.window = some id)
    (hw : b.window? id = some w) (hrect : w.Rectangular) (hrows : w.rows = format.lineCount) :
    (∀ (i : Nat) (label : Label), s.labels[i]? = some label →
      ∃ start, (s.layOut w.cols).labels[i]? = some { label with start }) ∧
    ∃ b' w', exec (s.layOut w.cols).draw b = (.ok (), b') ∧ b'.window? id = some w' ∧
      w'.area = w.area ∧
      (∃ texts names, (s.layOut w.cols).Legible format w.cols texts names w') ∧
      ∃ b'' w'', exec (s.layOut w.cols).draw b' = (.ok (), b'') ∧ b''.window? id = some w'' ∧
        w''.lines = w'.lines := by
  have hformat' := (s.format_layOut w.cols).trans hformat
  have hwindow' := (s.window_layOut w.cols).trans hwindow
  have hspread := spread_layOut hformat hcount w.cols
  have harea := (s.layOut w.cols).area_drawn w
  obtain ⟨blanked, hattrs, hblanked, hwritten⟩ := written_drawn hspread hformat' hrect hrows
  obtain ⟨b', hdraw, hdrawn⟩ := exec_draw hwindow' hw
  obtain ⟨b'', hagain, hredrawn⟩ := exec_draw hwindow' hdrawn
  refine ⟨fun _ _ => getElem?_layOut w.cols, b', _, hdraw, hdrawn, harea,
    legible_of_written hspread hattrs hblanked hwritten, b'', _, hagain, hredrawn, ?_⟩
  exact lines_drawn (Window.rectangular_edits hrect _) hrect (congrArg Rect.rows harea)
    (congrArg Rect.cols harea) hformat'

/-- Labels in the indexed format, whose first texts are wide. -/
def wide : SoftLabels where
  format := some .fourFourFourIndexed
  labels := #[{ text := String.ofList ['日', '本'] },
    { text := String.ofList ['a', '語'], justify := .right }] ++ Array.replicate 10 {}
  window := some 0

/-- A window of two lines that shows something else. -/
def scribbled : Window :=
  (Window.blank ⟨0, 0, 2, 36⟩).edits [.putText 1 1 (String.ofList ['日', '日', '日'])]

/-- With two columns for each label, a wide character is kept or left out, and the name of the tenth
key is cut. -/
theorem legible_draw_wide : wide.format = some .fourFourFourIndexed ∧
    wide.labels.size = LabelFormat.fourFourFourIndexed.labelCount ∧ wide.window = some 0 ∧
    ({ slots := #[some scribbled] } : Buffers).window? 0 = some scribbled ∧
    scribbled.Rectangular ∧ scribbled.rows = LabelFormat.fourFourFourIndexed.lineCount ∧
    ∃ b' w', exec (wide.layOut 36).draw ({ slots := #[some scribbled] } : Buffers) = (.ok (), b') ∧
      b'.window? 0 = some w' ∧ w'.Whole ∧ (w'.line 1).Bears .inverse 0 ['日'] ∧
      (w'.line 1).Bears .inverse 3 [' ', 'a'] ∧ (w'.line 0).Bears .inverse 27 ['F', '1'] := by
  have hrect : scribbled.Rectangular :=
    Window.rectangular_edits (Window.rectangular_blank _) _
  have hrows : scribbled.rows = LabelFormat.fourFourFourIndexed.lineCount := by decide +kernel
  have hw : ({ slots := #[some scribbled] } : Buffers).window? 0 = some scribbled := rfl
  have hcols : scribbled.cols = 36 := by decide +kernel
  have hdrawn := legible_draw (s := wide) rfl rfl rfl hw hrect hrows
  rw [hcols] at hdrawn
  obtain ⟨-, b', w', hdraw, hw', -, ⟨texts, names, hlegible⟩, -⟩ := hdrawn
  refine ⟨rfl, rfl, rfl, hw, hrect, hrows, b', w', hdraw, hw', hlegible.whole, ?_, ?_, ?_⟩
  · obtain ⟨hfit, -, hbears⟩ := hlegible.text 0 _ rfl
    have hshown : (wide.layOut 36).labels[0].shown 2
        (cutToWidth (wide.layOut 36).labels[0].text.toList 2) = ['日'] := by decide +kernel
    rw [hfit.eq_cutToWidth] at hbears
    exact hshown ▸ hbears
  · obtain ⟨hfit, -, hbears⟩ := hlegible.text 1 _ rfl
    have hshown : (wide.layOut 36).labels[1].shown 2
        (cutToWidth (wide.layOut 36).labels[1].text.toList 2) = [' ', 'a'] := by decide +kernel
    rw [hfit.eq_cutToWidth] at hbears
    exact hshown ▸ hbears
  · obtain ⟨hfit, hbears⟩ := hlegible.name rfl 9 _ rfl
    have hname : cutToWidth (keyText 9) 2 = ['F', '1'] := by decide +kernel
    rw [hfit.eq_cutToWidth] at hbears
    exact hname ▸ hbears

end SoftLabels

end TerminalSession
