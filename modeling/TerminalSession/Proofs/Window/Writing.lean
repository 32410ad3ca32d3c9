import TerminalSession.Proofs.Text.Fitting
import TerminalSession.Proofs.Text.Trimming
import TerminalSession.Proofs.Window.Whole

/-!
# What writing a text leaves

A text that is written is cut where its line ends, and of what is left the characters that have a
width come to stand one behind the other (`Line.inscribed_putChars`). They are all that changes.
Nothing is written outside of the line (`Window.putText?_eq`), so on a blank line just the text can
be read afterwards (`Window.putText_exact`).
-/

namespace TerminalSession

namespace Line

variable {l l' : Line} {attrs : Attrs} {cols col x : Nat} {c : Char} {text : List Char}

/-- From a column on, a line shows a text: each character stands behind the columns of those before
it, a wide one with its tail. Characters without width do not stand anywhere. -/
def Bears (l : Line) (attrs : Attrs) (col : Nat) (text : List Char) : Prop :=
  ∀ before c after, text = before ++ c :: after → columns c ≠ 0 →
    l[col + textColumns before]? = some { glyph := .char c, attrs } ∧
      (columns c = 2 → l[col + textColumns before + 1]? = some { glyph := .tail, attrs })

/-- A column is needed for a text that begins at column `col`: one of its characters stands there,
or the tail of one. -/
def Takes (text : List Char) (col x : Nat) : Prop :=
  ∃ before c after, text = before ++ c :: after ∧ columns c ≠ 0 ∧
    (x = col + textColumns before ∨ columns c = 2 ∧ x = col + textColumns before + 1)

/-- A text has been written into a line from a column on, and nothing else has changed. -/
structure Inscribed (l l' : Line) (attrs : Attrs) (col : Nat) (text : List Char) : Prop where
  bears : Bears l' attrs col text
  others : ∀ x, ¬ Takes text col x → l'[x]? = l[x]?

theorem inscribed_nil (l : Line) (attrs : Attrs) (col : Nat) : Inscribed l l attrs col [] where
  bears before c after h := by cases before <;> cases h
  others _ _ := rfl

theorem bears_cons : Bears l attrs col (c :: text) ↔
    (columns c ≠ 0 → l[col]? = some { glyph := .char c, attrs } ∧
      (columns c = 2 → l[col + 1]? = some { glyph := .tail, attrs })) ∧
    Bears l attrs (col + columns c) text := by
  constructor
  · intro h
    refine ⟨fun hc => by simpa using h [] c text rfl hc, fun before d after htext hd => ?_⟩
    have := h (c :: before) d after (by rw [htext]; rfl) hd
    simpa only [textColumns_cons, ← Nat.add_assoc] using this
  · rintro ⟨hfirst, hrest⟩ before d after htext hd
    cases before with
    | nil =>
      cases htext
      simpa using hfirst hd
    | cons _ before =>
      cases htext
      simpa only [textColumns_cons, ← Nat.add_assoc] using hrest before d after rfl hd

theorem takes_cons : Takes (c :: text) col x ↔
    (columns c ≠ 0 ∧ (x = col ∨ columns c = 2 ∧ x = col + 1)) ∨ Takes text (col + columns c) x := by
  constructor
  · rintro ⟨before, d, after, htext, hd, hx⟩
    cases before with
    | nil =>
      cases htext
      exact .inl ⟨hd, hx⟩
    | cons _ before =>
      cases htext
      simp only [textColumns_cons, ← Nat.add_assoc] at hx
      exact .inr ⟨before, d, after, rfl, hd, hx⟩
  · rintro (⟨hc, hx⟩ | ⟨before, d, after, rfl, hd, hx⟩)
    · exact ⟨[], c, text, rfl, hc, hx⟩
    · refine ⟨c :: before, d, after, rfl, hd, ?_⟩
      simpa only [textColumns_cons, ← Nat.add_assoc] using hx

/-- The columns of a text lie one behind the other. -/
theorem Takes.within (h : Takes text col x) : col ≤ x ∧ x < col + textColumns text := by
  obtain ⟨before, c, after, rfl, hc, hx⟩ := h
  rw [textColumns_append, textColumns_cons]
  omega

theorem bears_visible : Bears l attrs col (visible text) ↔ Bears l attrs col text := by
  induction text generalizing col with
  | nil => rfl
  | cons c text ih =>
    by_cases hc : columns c = 0
    · rw [visible_cons_of_zero hc, ih, bears_cons, hc]
      simp
    · rw [visible_cons_of_pos hc, bears_cons, bears_cons, ih]

theorem takes_visible : Takes (visible text) col x ↔ Takes text col x := by
  induction text generalizing col with
  | nil => rfl
  | cons c text ih =>
    by_cases hc : columns c = 0
    · rw [visible_cons_of_zero hc, ih, takes_cons, hc]
      simp
    · rw [visible_cons_of_pos hc, takes_cons, takes_cons, ih]

/-! ## One character after the other -/

theorem getElem?_putChar (attrs : Attrs) (hfit : col + columns c ≤ l.size) (hc : columns c ≠ 0)
    (x : Nat) :
    (Window.putChar attrs l col c)[x]? =
      if x = col then some { glyph := .char c, attrs }
      else if columns c = 2 ∧ x = col + 1 then some { glyph := .tail, attrs }
      else l[x]? := by
  unfold Window.putChar
  by_cases hwide : columns c = 2
  · simp only [hwide, if_true, Array.getElem?_setIfInBounds, Array.size_setIfInBounds, true_and]
    grind
  · simp only [hwide, if_false, Array.getElem?_setIfInBounds, false_and]
    grind

theorem Inscribed.cons (h : Inscribed (Window.putChar attrs l col c) l' attrs (col + columns c) text)
    (hfit : col + columns c ≤ l.size) (hc : columns c ≠ 0) :
    Inscribed l l' attrs col (c :: text) := by
  have hput := getElem?_putChar attrs hfit hc
  -- What is written later lies behind the character and its tail.
  have hkept (x : Nat) (hx : x < col + columns c) :
      l'[x]? = (Window.putChar attrs l col c)[x]? :=
    h.others x fun htaken => by
      have := htaken.within
      omega
  constructor
  · refine bears_cons.mpr ⟨fun _ => ⟨?_, fun hwide => ?_⟩, h.bears⟩
    · rw [hkept col (by omega), hput, if_pos rfl]
    · rw [hkept (col + 1) (by omega), hput, if_neg (by omega), if_pos ⟨hwide, rfl⟩]
  · intro x hx
    rw [takes_cons, not_or] at hx
    obtain ⟨hfirst, hrest⟩ := hx
    rw [h.others x hrest, hput, if_neg fun hcol => hfirst ⟨hc, .inl hcol⟩,
      if_neg fun htail => hfirst ⟨hc, .inr htail⟩]

/-- **Writing leaves what fits**: the longest beginning that the line has room for, if characters
without width are passed over. -/
theorem inscribed_putChars (hsize : l.size = cols) (attrs : Attrs) (text : List Char) (col : Nat) :
    Inscribed l (Window.putChars attrs cols text col l).1 attrs col
      (cutToWidth (visible text) (cols - col)) := by
  induction text generalizing col l with
  | nil => exact inscribed_nil ..
  | cons c text ih =>
    rw [Window.putChars]
    split
    · rename_i hc
      rw [visible_cons_of_zero hc]
      exact ih hsize col
    rename_i hc
    rw [visible_cons_of_pos hc, cutToWidth]
    split
    · rw [if_neg (by omega)]
      exact inscribed_nil ..
    · rw [if_pos (by omega), Nat.sub_sub]
      exact (ih ((Window.size_putChar ..).trans hsize) _).cons (by omega) hc

/-- Writing stops behind what fits. -/
theorem snd_putChars (attrs : Attrs) (cols : Nat) (text : List Char) (col : Nat) (l : Line) :
    (Window.putChars attrs cols text col l).2 =
      col + textColumns (cutToWidth (visible text) (cols - col)) := by
  induction text generalizing col l with
  | nil => rfl
  | cons c text ih =>
    rw [Window.putChars]
    split
    · rename_i hc
      rw [visible_cons_of_zero hc]
      exact ih col l
    rename_i hc
    rw [visible_cons_of_pos hc, cutToWidth]
    split
    · rw [if_neg (by omega)]
      rfl
    · rw [if_pos (by omega), Nat.sub_sub, ih, textColumns_cons, Nat.add_assoc]

/-! ## Reading a line -/

/-- All cells of a line are blank. -/
def Blank (l : Line) : Prop := ∀ cell ∈ l, cell.glyph = .blank

/-- The cells of a text: one for each character, and one for the tail of a wide one. -/
def cells (attrs : Attrs) (text : List Char) : List Cell :=
  text.flatMap fun c =>
    { glyph := .char c, attrs } :: if columns c = 2 then [{ glyph := .tail, attrs }] else []

theorem putChar_append (before after : List Cell) (hc : columns c = 1 ∨ columns c = 2)
    (hfit : columns c ≤ after.length) :
    Window.putChar attrs (before ++ after).toArray before.length c =
      (before ++ cells attrs [c] ++ after.drop (columns c)).toArray := by
  unfold Window.putChar cells
  rcases hc with hc | hc
  · obtain ⟨a, after, rfl⟩ := List.exists_cons_of_length_pos (Nat.lt_of_lt_of_le (by omega) hfit)
    simp [hc]
  · obtain ⟨a, after, rfl⟩ := List.exists_cons_of_length_pos (Nat.lt_of_lt_of_le (by omega) hfit)
    obtain ⟨b, after, rfl⟩ := List.exists_cons_of_length_pos (l := after) (by
      rw [List.length_cons] at hfit
      omega)
    simp [hc]

/-- What is written pushes out as many cells as it has columns. -/
theorem toList_putChars (before after : List Cell) (attrs : Attrs) (text : List Char)
    (narrow : ∀ c ∈ cutToWidth (visible text) after.length, columns c ≤ 2) :
    (Window.putChars attrs (before.length + after.length) text before.length
        (before ++ after).toArray).1.toList =
      before ++ cells attrs (cutToWidth (visible text) after.length) ++
        after.drop (textColumns (cutToWidth (visible text) after.length)) := by
  induction text generalizing before after with
  | nil => simp [visible, cutToWidth, cells, Window.putChars]
  | cons c text ih =>
    rw [Window.putChars]
    split
    · rename_i hc
      rw [visible_cons_of_zero hc] at narrow ⊢
      exact ih before after narrow
    rename_i hc
    rw [visible_cons_of_pos hc, cutToWidth] at narrow ⊢
    split
    · rw [if_neg (by omega)]
      simp [cells]
    · rw [if_pos (by omega)] at narrow ⊢
      have hwidth : columns c = 1 ∨ columns c = 2 := by
        have := narrow c (.head _)
        omega
      have hlength : (before ++ cells attrs [c]).length = before.length + columns c := by
        rcases hwidth with hwidth | hwidth <;> simp [cells, hwidth]
      rw [putChar_append before after hwidth (by omega)]
      have hrest := ih (before ++ cells attrs [c]) (after.drop (columns c)) (by
        rw [List.length_drop]
        exact fun d hd => narrow d (.tail _ hd))
      rw [hlength, List.length_drop, List.drop_drop] at hrest
      rw [show before.length + after.length = before.length + columns c +
        (after.length - columns c) by omega, hrest]
      simp [cells]

theorem filterMap_shown?_cells (attrs : Attrs) (text : List Char) :
    (cells attrs text).filterMap Cell.shown? = text := by
  induction text with
  | nil => rfl
  | cons c text ih =>
    rw [cells, List.flatMap_cons, List.filterMap_append]
    change _ ++ (cells attrs text).filterMap Cell.shown? = _
    rw [ih]
    split <;> simp [Cell.shown?]

theorem filterMap_shown?_of_blank {cells : List Cell} (h : ∀ cell ∈ cells, cell.glyph = .blank) :
    cells.filterMap Cell.shown? = List.replicate cells.length ' ' := by
  induction cells with
  | nil => rfl
  | cons cell cells ih =>
    obtain ⟨hcell, hcells⟩ := List.forall_mem_cons.mp h
    rw [List.filterMap_cons_some (by rw [Cell.shown?, hcell]), ih hcells]
    rfl

/-- On a blank line a text stands behind as many blanks as there are columns before it. -/
theorem filterMap_shown?_putChars (hsize : l.size = cols) (hblank : l.Blank) (attrs : Attrs)
    {text : List Char} (narrow : ∀ c ∈ cutToWidth (visible text) (cols - col), columns c ≤ 2)
    (hcol : col ≤ cols) :
    ∃ rest, (Window.putChars attrs cols text col l).1.toList.filterMap Cell.shown? =
      List.replicate col ' ' ++ cutToWidth (visible text) (cols - col) ++
        List.replicate rest ' ' := by
  have hblank' : ∀ cell ∈ l.toList, cell.glyph = .blank := fun cell hc =>
    hblank cell (Array.mem_toList_iff.mp hc)
  have hlength : (l.toList.take col).length = col := by
    rw [List.length_take, Array.length_toList]
    omega
  have hlength' : (l.toList.drop col).length = cols - col := by
    rw [List.length_drop, Array.length_toList, hsize]
  have hwritten := toList_putChars (l.toList.take col) (l.toList.drop col) attrs text
  rw [hlength', hlength, List.take_append_drop, Array.toArray_toList, Nat.add_sub_cancel' hcol]
    at hwritten
  rw [hwritten narrow, List.filterMap_append, List.filterMap_append, filterMap_shown?_cells,
    filterMap_shown?_of_blank fun cell hc => hblank' cell (List.mem_of_mem_take hc), hlength,
    filterMap_shown?_of_blank fun cell hc =>
      hblank' cell (List.mem_of_mem_drop (List.mem_of_mem_drop hc))]
  exact ⟨_, rfl⟩

end Line

theorem isBlank_of_mem_replicate {n : Nat} {c : Char} (h : c ∈ List.replicate n ' ') :
    isBlank c = true := by
  rw [List.eq_of_mem_replicate h]
  decide

namespace Window

variable {w w' : Window} {attrs : Attrs} {row col : Nat} {text : List Char}

theorem getElem?_line (w : Window) (row col : Nat) : (w.line row)[col]? = w.cell? row col := by
  rw [line, cell?]
  cases w.lines[row]? <;> rfl

/-! ## Writing that stays inside -/

/-- A line with another cell at a column that it has. -/
def setCell? (line : Line) (col : Nat) (cell : Cell) : Option Line :=
  if col < line.size then some (line.setIfInBounds col cell) else none

/-- `putChar`, without a result if a cell outside of the line is written. -/
def putChar? (attrs : Attrs) (line : Line) (col : Nat) (c : Char) : Option Line := do
  let line ← setCell? line col { glyph := .char c, attrs }
  if columns c = 2 then setCell? line (col + 1) { glyph := .tail, attrs } else return line

/-- `putChars`, without a result if a cell outside of the line is written. -/
def putChars? (attrs : Attrs) (cols : Nat) : List Char → Nat → Line → Option (Line × Nat)
  | [], col, line => some (line, col)
  | c :: text, col, line =>
    if columns c = 0 then putChars? attrs cols text col line
    else if cols < col + columns c then some (line, col)
    else do putChars? attrs cols text (col + columns c) (← putChar? attrs line col c)

/-- `putText`, without a result if a cell outside of the line is written. -/
def putText? (w : Window) (row col : Nat) (text : String) : Option Window :=
  match w.lines[row]? with
  | none => some w
  | some line => do
    let (line, stop) ← putChars? w.attrs w.cols text.toList col line
    return { w with
      lines := w.lines.setIfInBounds row line
      cursorRow := row
      cursorCol := min stop (w.cols - 1)
      damage := w.damage.mark row (row + 1) }

theorem putChar?_eq {line : Line} {c : Char} (hc : columns c ≠ 0)
    (hfit : col + columns c ≤ line.size) :
    putChar? attrs line col c = some (putChar attrs line col c) := by
  have hfirst : setCell? line col { glyph := .char c, attrs } =
      some (line.setIfInBounds col { glyph := .char c, attrs }) := if_pos (by omega)
  rw [putChar?, hfirst, putChar]
  by_cases hwide : columns c = 2
  · simp only [hwide, if_true, Option.bind_eq_bind, Option.bind_some]
    exact if_pos (by rw [Array.size_setIfInBounds]; omega)
  · simp only [hwide, if_false, Option.bind_eq_bind, Option.bind_some, Option.pure_def]

theorem putChars?_eq {line : Line} {cols : Nat} (hsize : line.size = cols) :
    putChars? attrs cols text col line = some (putChars attrs cols text col line) := by
  induction text generalizing col line with
  | nil => rfl
  | cons c text ih =>
    rw [putChars?, putChars]
    split
    · exact ih hsize
    split
    · rfl
    · rw [putChar?_eq ‹_› (by omega)]
      exact ih ((size_putChar ..).trans hsize)

/-- **Nothing is written outside of a line** that is as long as the window is wide. -/
theorem putText?_eq (h : w.Rectangular) (row col : Nat) (text : String) :
    w.putText? row col text = some (w.putText row col text) := by
  unfold putText? putText
  cases hline : w.lines[row]? with
  | none => rfl
  | some line =>
    dsimp only
    rw [putChars?_eq (h line (Array.mem_of_getElem? hline))]
    rfl

/-! ## What has been written -/

/-- A text has been written from a place on, with the attributes of the window, and nothing else
has changed. -/
structure Inscribed (w : Window) (row col : Nat) (text : List Char) (w' : Window) : Prop where
  bears : (w'.line row).Bears w.attrs col text
  others : ∀ r x, (r = row → ¬ Line.Takes text col x) → w'.cell? r x = w.cell? r x
  cursor : w'.cursorRow = row ∧ w'.cursorCol = min (col + textColumns text) (w.cols - 1)
  dirty : ∀ r, w'.isDirty r = true ↔ w.isDirty r = true ∨ r = row
  rest : w'.area = w.area ∧ w'.attrs = w.attrs ∧ w'.full = w.full ∧ w'.clear = w.clear

theorem putText_of_none (h : w.rows ≤ row) (col : Nat) (text : String) :
    w.putText row col text = w := by
  rw [putText, Array.getElem?_eq_none h]

theorem inscribed_putText (h : w.Rectangular) (hrow : row < w.rows) (col : Nat) (text : String) :
    w.Inscribed row col (cutToWidth (visible text.toList) (w.cols - col))
      (w.putText row col text) := by
  obtain ⟨line, hline⟩ : ∃ line, w.lines[row]? = some line :=
    ⟨_, Array.getElem?_eq_getElem hrow⟩
  have hold : w.line row = line := by rw [Window.line, hline]; rfl
  have hwritten := Line.inscribed_putChars (h line (Array.mem_of_getElem? hline)) w.attrs
    text.toList col
  constructor
  case bears =>
    rw [line_putText, hold]
    exact hwritten.bears
  case others =>
    intro r x hx
    rw [← getElem?_line, ← getElem?_line]
    by_cases hr : r = row
    · subst hr
      rw [line_putText, hold, hwritten.others x (hx rfl)]
    · rw [line_putText_of_ne hr]
  case cursor =>
    rw [putText, hline, ← Line.snd_putChars w.attrs _ _ _ line]
    exact ⟨rfl, rfl⟩
  case dirty =>
    intro r
    rw [putText, hline]
    simp only [isDirty, Damage.contains_mark, Bool.or_eq_true, Bool.and_eq_true, decide_eq_true_eq,
      or_assoc]
    grind
  case rest =>
    rw [putText, hline]
    simp [area, rows]

theorem lineText_eq (w : Window) (row : Nat) :
    w.lineText row = String.ofList (trimEnd ((w.line row).toList.filterMap Cell.shown?)) := rfl

/-- On a blank line just the text can be read. -/
theorem lineText_putText (h : w.Rectangular) (hrow : row < w.rows) (hblank : (w.line row).Blank)
    {text : String} (narrow : ∀ c ∈ cutToWidth (visible text.toList) (w.cols - col), columns c ≤ 2) :
    (w.putText row col text).lineText row = String.ofList (trimEnd
      (List.replicate col ' ' ++ cutToWidth (visible text.toList) (w.cols - col))) := by
  have hsize : (w.line row).size = w.cols := by
    rw [line, Array.getElem?_eq_getElem hrow]
    exact h _ (Array.getElem_mem hrow)
  rw [lineText_eq, line_putText]
  congr 1
  by_cases hcol : col ≤ w.cols
  · obtain ⟨rest, hshown⟩ := Line.filterMap_shown?_putChars hsize hblank w.attrs narrow hcol
    rw [hshown, trimEnd_append_of_blank fun c => isBlank_of_mem_replicate]
  · -- Nothing is written, so the line can only show blanks.
    have hkept : cutToWidth (visible text.toList) (w.cols - col) = [] := by
      rw [Nat.sub_eq_zero_of_le (by omega), cutToWidth_visible_zero]
    have hwritten := Line.inscribed_putChars hsize w.attrs text.toList col
    have hsame : (putChars w.attrs w.cols text.toList col (w.line row)).1 = w.line row :=
      Array.ext_getElem? fun x => hwritten.others x fun htaken => by
        have := htaken.within
        rw [hkept, textColumns_nil] at this
        omega
    have hempty {n : Nat} : trimEnd (List.replicate n ' ') = [] :=
      trimEnd_append_of_blank (fun c => isBlank_of_mem_replicate) []
    rw [hsame, hkept, Line.filterMap_shown?_of_blank fun cell hc =>
      hblank cell (Array.mem_toList_iff.mp hc), List.append_nil, hempty, hempty]

/-- **Writing leaves exactly what fits.** Nothing happens on a line that a window does not have. On
one that it has, the longest beginning of the text that there is room for comes to stand, if
characters without width are passed over, and nothing else changes but the cursor, which goes behind
it, and the line, which is to be drawn. No cell outside of the line is written. If the line was
blank, nothing else can be read on it afterwards. -/
theorem putText_exact (h : w.Rectangular) (row col : Nat) (text : String) :
    w.putText? row col text = some (w.putText row col text) ∧
    (w.rows ≤ row → w.putText row col text = w) ∧
    (row < w.rows → ∃ kept, LongestFit (visible text.toList) (w.cols - col) kept ∧
      (w.cols ≤ col → kept = []) ∧ w.Inscribed row col kept (w.putText row col text) ∧
      ((∀ c ∈ kept, columns c ≤ 2) → (w.line row).Blank →
        (w.putText row col text).lineText row =
          String.ofList (trimEnd (List.replicate col ' ' ++ kept)))) := by
  refine ⟨putText?_eq h row col text, fun hrow => putText_of_none hrow col text, fun hrow => ?_⟩
  refine ⟨cutToWidth (visible text.toList) (w.cols - col), longestFit_cutToWidth .., fun hcol => ?_,
    inscribed_putText h hrow col text, fun narrow hblank => lineText_putText h hrow hblank narrow⟩
  rw [Nat.sub_eq_zero_of_le hcol, cutToWidth_visible_zero]

/-- Wide characters of which not all fit, and an accent that takes no column. -/
def accented : String := String.ofList ['日', 'a', Char.ofNat 0x301, '本', '語']

/-- A wide character that only half fits is left out, with all that comes behind it. -/
theorem putText_exact_accented : (blank ⟨0, 0, 2, 5⟩).Rectangular ∧
    LongestFit (visible accented.toList) 4 ['日', 'a'] ∧
      (blank ⟨0, 0, 2, 5⟩).Inscribed 1 1 ['日', 'a'] ((blank ⟨0, 0, 2, 5⟩).putText 1 1 accented) ∧
      ((blank ⟨0, 0, 2, 5⟩).putText 1 1 accented).lineText 1 =
        String.ofList [' ', '日', 'a'] := by
  have hrect := rectangular_blank ⟨0, 0, 2, 5⟩
  obtain ⟨kept, hkept, -, hinscribed, hread⟩ :=
    (putText_exact hrect 1 1 accented).2.2 (by decide)
  obtain rfl : kept = ['日', 'a'] := by
    rw [hkept.eq_cutToWidth, accented, String.toList_ofList]
    decide +kernel
  have hblank : ((blank ⟨0, 0, 2, 5⟩).line 1).Blank := by
    unfold Line.Blank
    decide +kernel
  have hwide : columns '日' = 2 := by decide +kernel
  have hnarrow : columns 'a' = 1 := by decide
  have hcolumns : ∀ c ∈ ['日', 'a'], columns c ≤ 2 := by
    simp [hwide, hnarrow]
  refine ⟨hrect, hkept, hinscribed, (hread hcolumns hblank).trans ?_⟩
  decide +kernel

end Window

end TerminalSession
