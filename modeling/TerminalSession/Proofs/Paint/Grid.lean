import TerminalSession.Paint
import TerminalSession.Proofs.Window.WholeLine

/-!
# A terminal to paint on

The grid of a terminal, and what the sequences of a paint do to it (`Grid.interpret`). A terminal
keeps its own wide characters whole: what is left of one that is partly overwritten becomes a
space. Text that does not fit on its line is dropped, since lines do not wrap.

The attributes of a run are in force when its text comes, whatever was in force before
(`interpret_attrs`), so the writing of a line draws each character with its own attributes
(`feed_runs`).
-/

namespace TerminalSession

/-- A cell as a terminal shows it: nothing is shown as a space. -/
def Cell.face (cell : Cell) : Cell :=
  match cell.glyph with
  | .blank => { cell with glyph := .char ' ' }
  | _ => cell

/-- What a terminal shows. -/
structure Grid where
  rows : Nat
  cols : Nat
  cells : Nat → Nat → Cell
  cursorRow : Nat := 0
  cursorCol : Nat := 0
  cursorVisible : Bool := true
  /-- What text is drawn with. -/
  attrs : Attrs := {}

namespace Grid

/-- A space. -/
def space (attrs : Attrs) : Cell := { glyph := .char ' ', attrs }

/-- A row with a character put into it. The halves of other wide characters next to it become
spaces. -/
def overwrite (attrs : Attrs) (c : Char) (col : Nat) (row : Nat → Cell) (x : Nat) : Cell :=
  if x = col then { glyph := .char c, attrs }
  else if x = col + 1 ∧ columns c = 2 then { glyph := .tail, attrs }
  else if (x + 1 = col ∧ (row x).isWide) ∨ (x = col + columns c ∧ (row x).isTail) then
    space (row x).attrs
  else row x

/-- Prints a character at the cursor, which goes behind it. -/
def put (g : Grid) (c : Char) : Grid :=
  if columns c = 0 ∨ g.cols < g.cursorCol + columns c then g
  else { g with
    cells := fun row =>
      if row = g.cursorRow then overwrite g.attrs c g.cursorCol (g.cells row) else g.cells row
    cursorCol := g.cursorCol + columns c }

/-- Has text drawn with other attributes. -/
def withAttrs (g : Grid) (attrs : Attrs) : Grid := { g with attrs }

/-- Switches a style on. -/
def style (g : Grid) (f : Styles → Styles) : Grid :=
  g.withAttrs { g.attrs with styles := f g.attrs.styles }

/-- What a sequence does. Modes and requests do not change what is shown. -/
def interpret (g : Grid) : Sequence → Grid
  | .text chars => chars.foldl put g
  | .hideCursor => { g with cursorVisible := false }
  | .showCursor => { g with cursorVisible := true }
  | .clearAll => { g with cells := fun _ _ => space { bg := g.attrs.bg } }
  | .moveTo row col =>
    { g with cursorRow := min row (g.rows - 1), cursorCol := min col (g.cols - 1) }
  | .reset => g.withAttrs {}
  | .bold => g.style ({ · with bold := true })
  | .dim => g.style ({ · with dim := true })
  | .italic => g.style ({ · with italic := true })
  | .underline => g.style ({ · with underline := true })
  | .blink => g.style ({ · with blink := true })
  | .inverse => g.style ({ · with inverse := true })
  | .hidden => g.style ({ · with hidden := true })
  | .strikethrough => g.style ({ · with strikethrough := true })
  | .foreground color => g.withAttrs { g.attrs with fg := color }
  | .background color => g.withAttrs { g.attrs with bg := color }
  | .enterAlternateScreen | .leaveAlternateScreen | .disableWrap | .enableWrap | .cursorShape _
  | .resize .. => g

/-- The terminal after several sequences. -/
def feed (g : Grid) (l : List Sequence) : Grid := l.foldl interpret g

variable (g : Grid)

@[simp] theorem feed_nil : g.feed [] = g := rfl

@[simp] theorem feed_cons (s : Sequence) (l : List Sequence) :
    g.feed (s :: l) = (g.interpret s).feed l := rfl

@[simp] theorem feed_append (l l' : List Sequence) : g.feed (l ++ l') = (g.feed l).feed l' :=
  List.foldl_append

/-! ## Size -/

theorem size_put (c : Char) : (g.put c).rows = g.rows ∧ (g.put c).cols = g.cols := by
  unfold put
  split <;> exact ⟨rfl, rfl⟩

theorem size_interpret (s : Sequence) :
    (g.interpret s).rows = g.rows ∧ (g.interpret s).cols = g.cols := by
  cases s with
  | text chars =>
    simp only [interpret]
    induction chars generalizing g with
    | nil => exact ⟨rfl, rfl⟩
    | cons c chars ih =>
      obtain ⟨hrows, hcols⟩ := g.size_put c
      exact ⟨(ih _).1.trans hrows, (ih _).2.trans hcols⟩
  | _ => exact ⟨rfl, rfl⟩

theorem size_feed (l : List Sequence) :
    (g.feed l).rows = g.rows ∧ (g.feed l).cols = g.cols := by
  induction l generalizing g with
  | nil => exact ⟨rfl, rfl⟩
  | cons s l ih =>
    obtain ⟨hrows, hcols⟩ := g.size_interpret s
    exact ⟨(ih _).1.trans hrows, (ih _).2.trans hcols⟩

/-! ## Attributes -/

/-- A style is in force after its sequence if that is sent at all. -/
theorem feed_ite_cons (on : Bool) (s : Sequence) (l : List (Bool × Sequence)) :
    g.feed (((on, s) :: l).filterMap fun (on, s) => if on then some s else none) =
      (if on then g.interpret s else g).feed
        (l.filterMap fun (on, s) => if on then some s else none) := by
  cases on <;> rfl

theorem ite_style (on : Bool) (f : Styles → Styles) :
    (if on then g.style f else g) = g.style fun s => if on then f s else s := by
  cases on <;> rfl

theorem feed_styleSequences (s : Styles) :
    (g.withAttrs {}).feed (Attrs.styleSequences s) = g.withAttrs { styles := s } := by
  simp only [Attrs.styleSequences, feed_ite_cons, interpret, ite_style, List.filterMap_nil,
    feed_nil]
  obtain ⟨bold, dim, italic, underline, blink, inverse, hidden, strikethrough⟩ := s
  simp only [style, withAttrs, Grid.mk.injEq, Attrs.mk.injEq, true_and]
  revert bold dim italic underline blink inverse hidden strikethrough
  decide

/-- Text is drawn with the attributes chosen last, whatever was in force before. -/
theorem feed_attrs (a : Attrs) : g.feed a.sequences = g.withAttrs a := by
  obtain ⟨fg, bg, styles⟩ := a
  rw [Attrs.sequences, List.cons_append, List.cons_append, feed_cons, feed_append, feed_append,
    interpret, feed_styleSequences]
  by_cases hfg : fg = .default <;> by_cases hbg : bg = .default <;>
    simp [hfg, hbg, interpret, withAttrs]

theorem withAttrs_put (attrs : Attrs) (c : Char) :
    ((g.withAttrs attrs).put c).withAttrs attrs = (g.withAttrs attrs).put c := by
  unfold put
  split <;> rfl

/-- Prints characters with attributes of their own. -/
def draw (g : Grid) (l : List (Attrs × Char)) : Grid :=
  l.foldl (fun g (attrs, c) => (g.withAttrs attrs).put c) g

theorem draw_cons (attrs : Attrs) (c : Char) (l : List (Attrs × Char)) :
    g.draw ((attrs, c) :: l) = ((g.withAttrs attrs).put c).draw l := rfl

/-- Written in runs, each character is drawn with its own attributes. -/
theorem feed_runs (l : List (Attrs × Char)) :
    g.feed ((runs l).flatMap fun (attrs, chars) => attrs.sequences ++ [.text chars]) =
      g.draw l := by
  induction l generalizing g with
  | nil => rfl
  | cons a l ih =>
    obtain ⟨attrs, c⟩ := a
    rw [draw_cons, ← ih, runs]
    cases runs l with
    | nil => simp [feed_attrs, interpret]
    | cons run more =>
      obtain ⟨attrs', chars⟩ := run
      by_cases ha : attrs = attrs'
      · -- The character joins a run, whose attributes are in force already.
        subst ha
        simp [feed_attrs, interpret, withAttrs_put]
      · simp [ha, feed_attrs, interpret]

theorem feed_lineSequences (line : Line) : g.feed (lineSequences line) = g.draw (shown line) :=
  feed_runs g (shown line)

end Grid

end TerminalSession
