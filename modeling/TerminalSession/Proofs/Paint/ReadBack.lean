import Mathlib.Data.List.Chain
import TerminalSession.Proofs.Paint.Lines
import TerminalSession.Proofs.Terminal.Transcript
import TerminalSession.Proofs.Text.Encoding

/-!
# Lines read back

A line is written in runs of equal attributes. It makes no difference whether the runs are known
beforehand, as in `lineSequences`, or found on the way, where a run is written once one with other
attributes begins (`Pen.lift_foldl_add`).

Whatever a terminal would draw with before, the attributes that it is told are those that it draws
with afterwards (`Transcript.read_attrs`). So no two attributes are told alike, and a terminal that
reads a line shows the cells of the line, each with its own attributes (`line_read_back`).
-/

namespace TerminalSession

open Sequence

/-! ## Runs -/

/-- The writing of runs, each after its attributes. -/
def runSequences (rs : List (Attrs × List Char)) : List Sequence :=
  rs.flatMap fun (attrs, chars) => attrs.sequences ++ [.text chars]

/-- Characters grouped by their attributes, with no group empty and none that could be larger. -/
structure Grouped (l : List (Attrs × Char)) (rs : List (Attrs × List Char)) : Prop where
  whole : rs.flatMap (fun (attrs, chars) => chars.map (attrs, ·)) = l
  nonempty : ∀ run ∈ rs, run.2 ≠ []
  apart : rs.IsChain fun run next => run.1 ≠ next.1

/-- A character joins the first run of those behind it, or makes one of its own because that run has
other attributes. -/
theorem runs_cons (attrs : Attrs) (c : Char) (l : List (Attrs × Char)) :
    (∃ chars more, runs l = (attrs, chars) :: more ∧
      runs ((attrs, c) :: l) = (attrs, c :: chars) :: more) ∨
    (∀ run ∈ (runs l).head?, attrs ≠ run.1) ∧ runs ((attrs, c) :: l) = (attrs, [c]) :: runs l := by
  rw [runs]
  cases runs l with
  | nil => exact .inr ⟨by simp, rfl⟩
  | cons run more =>
    obtain ⟨attrs', chars⟩ := run
    dsimp only
    split
    · rename_i heq
      exact .inl ⟨chars, more, by rw [heq], rfl⟩
    · rename_i heq
      refine .inr ⟨fun run hrun => ?_, rfl⟩
      cases hrun
      exact heq

/-- The first run has the attributes of the first character. -/
theorem fst_of_mem_head?_runs {attrs : Attrs} {c : Char} {l : List (Attrs × Char)}
    {run : Attrs × List Char} (h : run ∈ (runs ((attrs, c) :: l)).head?) : run.1 = attrs := by
  rcases runs_cons attrs c l with ⟨chars, more, -, hcons⟩ | ⟨-, hcons⟩
  all_goals
    rw [hcons] at h
    cases h
    rfl

theorem grouped_runs (l : List (Attrs × Char)) : Grouped l (runs l) := by
  constructor
  case whole => exact flatMap_runs l
  case nonempty =>
    induction l with
    | nil => exact List.forall_mem_nil _
    | cons first l ih =>
      rcases runs_cons first.1 first.2 l with ⟨chars, more, hruns, hcons⟩ | ⟨-, hcons⟩
      · rw [hruns] at ih
        rw [hcons]
        exact List.forall_mem_cons.mpr
          ⟨List.cons_ne_nil first.2 chars, (List.forall_mem_cons.mp ih).2⟩
      · rw [hcons]
        exact List.forall_mem_cons.mpr ⟨List.cons_ne_nil first.2 [], ih⟩
  case apart =>
    induction l with
    | nil => exact .nil
    | cons first l ih =>
      rcases runs_cons first.1 first.2 l with ⟨chars, more, hruns, hcons⟩ | ⟨hother, hcons⟩
      · rw [hruns] at ih
        rw [hcons]
        exact List.isChain_cons.mpr (List.isChain_cons.mp ih)
      · rw [hcons]
        exact List.isChain_cons.mpr ⟨hother, ih⟩

/-- Characters with equal attributes are a run if none with these follows. -/
theorem runs_append {attrs : Attrs} {chars : List Char} {l : List (Attrs × Char)}
    (hchars : chars ≠ []) (hl : ∀ run ∈ (runs l).head?, attrs ≠ run.1) :
    runs (chars.map (attrs, ·) ++ l) = (attrs, chars) :: runs l := by
  induction chars with
  | nil => exact absurd rfl hchars
  | cons c chars ih =>
    rw [List.map_cons, List.cons_append]
    cases chars with
    | nil =>
      rcases runs_cons attrs c l with ⟨chars, more, hruns, -⟩ | ⟨-, hcons⟩
      · rw [hruns] at hl
        exact absurd rfl (hl _ rfl)
      · exact hcons
    | cons c' chars =>
      rw [runs, ih (List.cons_ne_nil c' chars)]
      exact if_pos rfl

/-! ## A run at a time -/

/-- The writing of a line under way: what is written of it, and the run that is still open. -/
structure Pen where
  written : List Sequence := []
  run : Option (Attrs × List Char) := none

namespace Pen

/-- What has been written once the open run is, too. -/
def lift (p : Pen) : List Sequence :=
  match p.run with
  | none => p.written
  | some (attrs, chars) => p.written ++ attrs.sequences ++ [.text chars]

/-- Takes in a character. The open run is written only when one with other attributes begins. -/
def add (p : Pen) : Attrs × Char → Pen
  | (attrs, c) =>
    match p.run with
    | none => { p with run := some (attrs, [c]) }
    | some (attrs', chars) =>
      if attrs' = attrs then { p with run := some (attrs', chars ++ [c]) }
      else { written := p.lift, run := some (attrs, [c]) }

/-- The open run and what follows are written as if they had been seen together. -/
theorem lift_foldl_add_of_run (l : List (Attrs × Char)) (written : List Sequence) (attrs : Attrs)
    {chars : List Char} (hchars : chars ≠ []) :
    (l.foldl add ⟨written, some (attrs, chars)⟩).lift =
      written ++ runSequences (runs (chars.map (attrs, ·) ++ l)) := by
  induction l generalizing written attrs chars with
  | nil =>
    have hnone : ∀ run ∈ (runs []).head?, attrs ≠ run.1 := by simp [runs]
    rw [runs_append hchars hnone]
    simp [lift, runSequences, runs]
  | cons first l ih =>
    obtain ⟨attrs', c⟩ := first
    rw [List.foldl_cons]
    by_cases heq : attrs = attrs'
    · subst heq
      have hadd : add ⟨written, some (attrs, chars)⟩ (attrs, c) =
          ⟨written, some (attrs, chars ++ [c])⟩ := if_pos rfl
      rw [hadd, ih written attrs (by simp), List.map_append, List.append_assoc]
      rfl
    · have hadd : add ⟨written, some (attrs, chars)⟩ (attrs', c) =
          ⟨lift ⟨written, some (attrs, chars)⟩, some (attrs', [c])⟩ := if_neg heq
      have hother : ∀ run ∈ (runs ((attrs', c) :: l)).head?, attrs ≠ run.1 := by
        intro run hrun
        rwa [fst_of_mem_head?_runs hrun]
      rw [hadd, ih _ attrs' (List.cons_ne_nil c []), runs_append hchars hother]
      simp [lift, runSequences]

/-- Runs that are found on the way are written as those known beforehand. -/
theorem lift_foldl_add (l : List (Attrs × Char)) :
    (l.foldl add {}).lift = runSequences (runs l) := by
  cases l with
  | nil => rfl
  | cons first l => exact lift_foldl_add_of_run l [] first.1 (List.cons_ne_nil first.2 [])

end Pen

/-! ## Reading attributes -/

/-- A rendition is spelled by numbers, which change attributes as it does itself. -/
theorem Sequence.IsRendition.exists_numbers {s : Sequence} (h : s.IsRendition) :
    ∃ ns, ns ≠ [] ∧ s.encode = rendition (spell ns) ∧
      ∀ g : Grid, (g.interpret s).attrs = g.attrs.render ns := by
  cases s with
  | reset => exact ⟨[0], List.cons_ne_nil _ _, rfl, fun _ => rfl⟩
  | bold => exact ⟨[1], List.cons_ne_nil _ _, rfl, fun _ => rfl⟩
  | dim => exact ⟨[2], List.cons_ne_nil _ _, rfl, fun _ => rfl⟩
  | italic => exact ⟨[3], List.cons_ne_nil _ _, rfl, fun _ => rfl⟩
  | underline => exact ⟨[4], List.cons_ne_nil _ _, rfl, fun _ => rfl⟩
  | blink => exact ⟨[5], List.cons_ne_nil _ _, rfl, fun _ => rfl⟩
  | inverse => exact ⟨[7], List.cons_ne_nil _ _, rfl, fun _ => rfl⟩
  | hidden => exact ⟨[8], List.cons_ne_nil _ _, rfl, fun _ => rfl⟩
  | strikethrough => exact ⟨[9], List.cons_ne_nil _ _, rfl, fun _ => rfl⟩
  | foreground color =>
    exact ⟨color.numbers 38, Color.numbers_ne_nil h 38,
      congrArg rendition (Color.colorParameters_eq 38 color),
      fun g => (Color.render_numbers h g.attrs).1.symm⟩
  | background color =>
    exact ⟨color.numbers 48, Color.numbers_ne_nil h 48,
      congrArg rendition (Color.colorParameters_eq 48 color),
      fun g => (Color.render_numbers h g.attrs).2.symm⟩
  | _ => cases h

namespace Transcript

variable (t : Transcript)

/-- A terminal that reads renditions draws with what they come to on a grid. -/
theorem read_renditions {l : List Sequence} (h : ∀ s ∈ l, s.IsRendition) (g : Grid)
    (strokes : List Stroke) :
    read ⟨g.attrs, strokes⟩ (encodeAll l) = (⟨(g.feed l).attrs, strokes⟩, .printing) := by
  induction l generalizing g with
  | nil => rfl
  | cons s l ih =>
    obtain ⟨hs, hl⟩ := List.forall_mem_cons.mp h
    obtain ⟨ns, hns, hspelled, hrender⟩ := hs.exists_numbers
    have hfirst : read ⟨g.attrs, strokes⟩ s.encode =
        (⟨(g.interpret s).attrs, strokes⟩, .printing) := by
      rw [hspelled, read_rendition _ hns, hrender]
    rw [encodeAll_cons, read_append hfirst]
    exact ih hl (g.interpret s)

/-- Whatever attributes are in force, those that are told are in force afterwards. -/
theorem read_attrs (a : Attrs) :
    t.read (encodeAll a.sequences) = ({ t with attrs := a }, .printing) := by
  obtain ⟨attrs, strokes⟩ := t
  have hrenditions : ∀ s ∈ a.sequences, s.IsRendition := fun _ => isRendition_of_mem_sequences
  have hread := read_renditions hrenditions ⟨0, 0, fun _ _ => {}, 0, 0, true, attrs⟩ strokes
  rw [Grid.feed_attrs] at hread
  exact hread

/-- Runs are read as their characters, each with the attributes of its run. -/
theorem read_runs {rs : List (Attrs × List Char)}
    (h : ∀ run ∈ rs, ∀ c ∈ run.2, isControl c = false) :
    ∃ attrs, t.read (encodeAll (runSequences rs)) =
      (⟨attrs, t.strokes ++ rs.flatMap fun (attrs, chars) => chars.map (.char attrs)⟩,
        .printing) := by
  induction rs generalizing t with
  | nil => exact ⟨t.attrs, by rw [List.flatMap_nil, List.append_nil]; rfl⟩
  | cons run rs ih =>
    obtain ⟨hrun, hrest⟩ := List.forall_mem_cons.mp h
    obtain ⟨attrs, chars⟩ := run
    have hfirst : t.read (encodeAll (attrs.sequences ++ [.text chars])) =
        (⟨attrs, t.strokes ++ chars.map (.char attrs)⟩, .printing) := by
      have htext : encodeAll [.text chars] = chars := List.append_nil chars
      rw [encodeAll_append, read_append (t.read_attrs attrs), htext, read_text _ hrun]
    obtain ⟨last, hlast⟩ := ih _ hrest
    refine ⟨last, ?_⟩
    rw [runSequences, List.flatMap_cons, encodeAll_append, read_append hfirst, ← runSequences,
      hlast, List.flatMap_cons, List.append_assoc]

end Transcript

/-- No two attributes are told alike. -/
theorem Attrs.encodeAll_sequences_injective :
    Function.Injective fun a : Attrs => encodeAll a.sequences := by
  intro a b h
  have ha := Transcript.read_attrs {} a
  have hb := Transcript.read_attrs {} b
  rw [show encodeAll a.sequences = encodeAll b.sequences from h, hb] at ha
  exact congrArg (fun read => read.1.attrs) ha.symm

/-! ## Reading lines -/

/-- The character that a cell is shown as. -/
def Cell.display (cell : Cell) : Char :=
  match cell.glyph with
  | .char c => c
  | .blank | .tail => ' '

namespace Line

variable {line : Line}

/-- What a line shows: its cells but for the tails, each with its own attributes. -/
def strokes (line : Line) : List Stroke :=
  (line.toList.filter fun cell => !cell.isTail).map fun cell => .char cell.attrs cell.display

/-- No cell of a line holds a control character. -/
def Plain (line : Line) : Prop := ∀ cell ∈ line, ∀ c, cell.glyph = .char c → isControl c = false

theorem strokes_eq (line : Line) :
    line.strokes = (shown line).map fun (attrs, c) => .char attrs c := by
  rw [strokes, shown, List.map_filterMap, ← List.filterMap_eq_map, List.filterMap_filter]
  refine List.filterMap_congr fun cell _ => ?_
  rcases cell with ⟨glyph, attrs⟩
  cases glyph <;> rfl

theorem Plain.of_mem_shown (h : line.Plain) {p : Attrs × Char} (hp : p ∈ shown line) :
    isControl p.2 = false := by
  obtain ⟨⟨glyph, attrs⟩, hcell, hshown⟩ := List.mem_filterMap.mp hp
  cases glyph with
  | blank =>
    cases hshown
    rfl
  | char c =>
    cases hshown
    exact h _ (Array.mem_toList_iff.mp hcell) c rfl
  | tail => cases hshown

end Line

namespace Transcript

variable (t : Transcript)

/-- A line is read as its cells. -/
theorem read_line {line : Line} (h : line.Plain) :
    ∃ attrs, t.read (encodeAll (lineSequences line)) =
      (⟨attrs, t.strokes ++ line.strokes⟩, .printing) := by
  have hgrouped := grouped_runs (shown line)
  have hplain : ∀ run ∈ runs (shown line), ∀ c ∈ run.2, isControl c = false := by
    intro run hrun c hc
    have hshown : (run.1, c) ∈ shown line := by
      rw [← hgrouped.whole]
      exact List.mem_flatMap.mpr ⟨run, hrun, List.mem_map_of_mem hc⟩
    exact h.of_mem_shown hshown
  have hstrokes : line.strokes =
      (runs (shown line)).flatMap fun (attrs, chars) => chars.map (.char attrs) := by
    rw [line.strokes_eq]
    conv_lhs => rw [← hgrouped.whole]
    rw [List.map_flatMap]
    refine List.flatMap_congr fun run _ => ?_
    rw [List.map_map]
    rfl
  rw [hstrokes]
  exact t.read_runs hplain

/-- Lines are read as their cells, each after a move to its row. -/
theorem read_writing {col : Nat} {lines : List (Nat × Line)} (h : ∀ p ∈ lines, p.2.Plain) :
    ∃ attrs, t.read (encodeAll (writing col lines)) =
      (⟨attrs, t.strokes ++ lines.flatMap fun (row, line) => .move row col :: line.strokes⟩,
        .printing) := by
  induction lines generalizing t with
  | nil => exact ⟨t.attrs, by rw [List.flatMap_nil, List.append_nil]; rfl⟩
  | cons p lines ih =>
    obtain ⟨hp, hlines⟩ := List.forall_mem_cons.mp h
    obtain ⟨row, line⟩ := p
    obtain ⟨attrs, hline⟩ := read_line { t with strokes := t.strokes ++ [.move row col] } hp
    obtain ⟨last, hlast⟩ := ih ⟨attrs, _⟩ hlines
    have hmove := t.read_moveTo row col
    refine ⟨last, ?_⟩
    rw [writing, List.flatMap_cons, List.cons_append, encodeAll_cons, read_append hmove,
      encodeAll_append, read_append hline, ← writing, hlast, List.flatMap_cons]
    simp only [List.append_assoc, List.nil_append, List.cons_append]

end Transcript

/-- **Lines are written without loss.** The runs that a line is written in are its characters, none
lost, doubled or moved, in groups of equal attributes that could not be larger; to write each of them
once the next one begins comes to the same. What is written for the line is read, whatever attributes
were in force before, as a move to its row and then as its cells but for the tails, in order, each
with its own attributes and no others. Different attributes are never told alike. -/
theorem line_read_back {line : Line} (h : line.Plain) (row col : Nat) (t : Transcript) :
    ((shown line).foldl Pen.add {}).lift = lineSequences line ∧
    Grouped (shown line) (runs (shown line)) ∧
    (∃ text attrs, Utf8.decode? (spelled (.moveTo row col :: lineSequences line)) = some text ∧
      t.read text = (⟨attrs, t.strokes ++ .move row col :: line.strokes⟩, .printing)) ∧
    Function.Injective Attrs.sequences ∧
    Function.Injective fun a : Attrs => encodeAll a.sequences := by
  have hinjective := Attrs.encodeAll_sequences_injective
  refine ⟨Pen.lift_foldl_add (shown line), grouped_runs (shown line), ?_,
    fun a b hab => hinjective (congrArg encodeAll hab), hinjective⟩
  have hlines : ∀ p ∈ [(row, line)], p.2.Plain := by
    intro p hp
    rwa [List.mem_singleton.mp hp]
  obtain ⟨attrs, hread⟩ := t.read_writing hlines
  have hone : writing col [(row, line)] = .moveTo row col :: lineSequences line :=
    List.flatMap_singleton ..
  rw [hone, List.flatMap_singleton] at hread
  exact ⟨_, attrs, Utf8.decode?_encode _, hread⟩

/-- A line with a wide character, whose attributes change between its cells. -/
def motley : Line :=
  let red : Attrs := { fg := .indexed 9, styles := { bold := true, blink := true } }
  let teal : Attrs := { bg := .rgb 0 128 128, styles := { inverse := true } }
  #[{ glyph := .char 'a', attrs := red }, { glyph := .char '日', attrs := red },
    { glyph := .tail, attrs := teal }, { glyph := .char 'm', attrs := teal }, {}]

/-- Nothing is left on the line of attributes that were in force before it. -/
theorem line_read_back_motley : motley.Plain ∧
    ∃ text attrs, Utf8.decode? (spelled (.moveTo 3 7 :: lineSequences motley)) = some text ∧
      Transcript.read { attrs := .sentinel } text = (⟨attrs, [.move 3 7,
        .char { fg := .indexed 9, styles := { bold := true, blink := true } } 'a',
        .char { fg := .indexed 9, styles := { bold := true, blink := true } } '日',
        .char { bg := .rgb 0 128 128, styles := { inverse := true } } 'm',
        .char {} ' ']⟩, .printing) := by
  have hplain : motley.Plain := by
    intro cell hcell c hc
    simp only [motley, List.mem_toArray, List.mem_cons, List.not_mem_nil, or_false] at hcell
    rcases hcell with rfl | rfl | rfl | rfl | rfl <;> cases hc <;> decide +kernel
  exact ⟨hplain, (line_read_back hplain 3 7 { attrs := .sentinel }).2.2.1⟩

end TerminalSession
