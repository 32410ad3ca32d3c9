import Mathlib.Data.List.Basic
import TerminalSession.Proofs.Layout.Areas
import TerminalSession.Proofs.Paint.Room

/-!
# The lines that a paint writes

What a paint says is an opening, whole lines, each after a move to its row, and a closing
(`said_paint`). A line itself moves the cursor nowhere, so the moves tell which rows are written
(`targets_writing`).
-/

namespace TerminalSession

open TerminalSession.Action

/-- Where a sequence moves the cursor to. -/
def Sequence.target? : Sequence → Option (Nat × Nat)
  | .moveTo row col => some (row, col)
  | _ => none

/-- The places that the cursor is moved to. -/
def targets (l : List Sequence) : List (Nat × Nat) := l.filterMap Sequence.target?

/-- The writing of lines, each with its row, from one column on. -/
def writing (col : Nat) (lines : List (Nat × Line)) : List Sequence :=
  lines.flatMap fun (row, line) => .moveTo row col :: lineSequences line

theorem targets_append (l l' : List Sequence) : targets (l ++ l') = targets l ++ targets l' :=
  List.filterMap_append

/-- Whether a sequence changes how text is drawn. No colour is set to that of the terminal, since a
reset leaves it. -/
def Sequence.IsRendition : Sequence → Prop
  | .reset | .bold | .dim | .italic | .underline | .blink | .inverse | .hidden | .strikethrough =>
    True
  | .foreground color | .background color => color ≠ .default
  | _ => False

theorem isRendition_of_mem_sequences {a : Attrs} {s : Sequence} (h : s ∈ a.sequences) :
    s.IsRendition := by
  have hstyles : ∀ s ∈ Attrs.styleSequences a.styles, s.IsRendition := by
    intro s hs
    simp only [Attrs.styleSequences, List.mem_filterMap, List.mem_cons, List.not_mem_nil,
      or_false] at hs
    obtain ⟨p, hp, hs⟩ := hs
    split at hs <;> cases hs
    rcases hp with rfl | rfl | rfl | rfl | rfl | rfl | rfl | rfl <;> trivial
  simp only [Attrs.sequences, List.mem_append, List.mem_cons] at h
  rcases h with ((rfl | h) | h) | h
  · trivial
  · exact hstyles s h
  all_goals
    split at h <;> simp only [List.not_mem_nil, List.mem_cons, or_false] at h
    subst h
    assumption

/-- The runs put together are the characters with their attributes. -/
theorem flatMap_runs (l : List (Attrs × Char)) :
    (runs l).flatMap (fun (attrs, chars) => chars.map (attrs, ·)) = l := by
  induction l with
  | nil => rfl
  | cons first l ih =>
    rw [runs]
    cases hruns : runs l with
    | nil =>
      rw [hruns] at ih
      rw [← ih]
      rfl
    | cons run more =>
      obtain ⟨attrs, c⟩ := first
      rw [hruns] at ih
      dsimp only
      split
      · rename_i hattrs
        subst hattrs
        rw [← ih]
        rfl
      · rw [← ih]
        rfl

/-- A line is written with what its cells show, and with what says how to draw it. -/
theorem of_mem_lineSequences {line : Line} {s : Sequence} (h : s ∈ lineSequences line) :
    s.IsRendition ∨ ∃ chars, s = .text chars ∧
      ∀ c ∈ chars, ∃ cell ∈ line, cell.shown? = some c := by
  obtain ⟨⟨attrs, chars⟩, hrun, hs⟩ := List.mem_flatMap.mp h
  rcases List.mem_append.mp hs with hs | hs
  · exact .inl (isRendition_of_mem_sequences hs)
  · refine .inr ⟨chars, List.mem_singleton.mp hs, fun c hc => ?_⟩
    have hmem : (attrs, c) ∈ shown line := by
      rw [← flatMap_runs (shown line)]
      exact List.mem_flatMap.mpr ⟨_, hrun, List.mem_map_of_mem hc⟩
    obtain ⟨cell, hcell, hshown⟩ := List.mem_filterMap.mp hmem
    obtain ⟨c', hc', heq⟩ := Option.map_eq_some_iff.mp hshown
    cases heq
    exact ⟨cell, Array.mem_toList_iff.mp hcell, hc'⟩

/-- A line moves the cursor nowhere by itself, and wipes nothing. -/
theorem stays_of_mem_lineSequences {line : Line} {s : Sequence} (h : s ∈ lineSequences line) :
    s.target? = none ∧ s ≠ .clearAll := by
  rcases of_mem_lineSequences h with h | ⟨chars, rfl, -⟩
  · cases s with
    | moveTo | clearAll => cases h
    | _ => exact ⟨rfl, nofun⟩
  · exact ⟨rfl, nofun⟩

theorem targets_lineSequences (line : Line) : targets (lineSequences line) = [] :=
  List.filterMap_eq_nil_iff.mpr fun _ hs => (stays_of_mem_lineSequences hs).1

theorem clearAll_not_mem_writing (col : Nat) (lines : List (Nat × Line)) :
    .clearAll ∉ writing col lines := by
  intro h
  obtain ⟨p, -, h⟩ := List.mem_flatMap.mp h
  rcases List.mem_cons.mp h with h | h
  · cases h
  · exact (stays_of_mem_lineSequences h).2 rfl

/-- The cursor is moved to the start of each line once. -/
theorem targets_writing (col : Nat) (lines : List (Nat × Line)) :
    targets (writing col lines) = lines.map fun p => (p.1, col) := by
  induction lines with
  | nil => rfl
  | cons p lines ih =>
    have hline : targets (.moveTo p.1 col :: lineSequences p.2) = [(p.1, col)] :=
      congrArg ((p.1, col) :: ·) (targets_lineSequences p.2)
    rw [writing, List.flatMap_cons, targets_append, hline, List.map_cons]
    exact congrArg ((p.1, col) :: ·) ih

namespace Window

variable {w : Window}

/-- The lines of a window with their rows on the terminal. -/
def placed (w : Window) : List (Nat × Line) :=
  w.lines.toList.zipIdx.map fun (line, row) => (w.top + row, line)

theorem map_fst_placed (w : Window) : w.placed.map Prod.fst = w.area.span := by
  have hrows : w.lines.toList.zipIdx.map Prod.snd = List.range' 0 w.lines.size := by
    rw [List.zipIdx_map_snd, Array.length_toList]
  have hmap : w.placed.map Prod.fst = (w.lines.toList.zipIdx.map Prod.snd).map (w.top + ·) := by
    rw [placed, List.map_map, List.map_map]
    rfl
  rw [hmap, hrows, List.map_add_range', Nat.add_zero]
  rfl

/-- Where every line is dirty, all are written. -/
theorem sequences_of_dirty (h : ∀ row, w.isDirty row = true) :
    w.sequences = writing w.left w.placed := by
  simp [sequences, writing, placed, h, List.flatMap_map]

theorem sequences_of_clean (h : ∀ row, w.isDirty row = false) : w.sequences = [] := by
  simp [sequences, h]

end Window

namespace Painting

variable {p p' : Painting} {b : Buffers} {ids : List WindowId} {whole : Bool}

theorem clearAll_not_mem_closing (display : Option Window) : .clearAll ∉ closing display := by
  cases display <;> simp [closing, homing]

/-- The lines of windows, in order, with their rows on the terminal. -/
def linesOf (b : Buffers) (ids : List WindowId) : List (Nat × Line) :=
  ids.flatMap fun id => (b.window? id).toList.flatMap Window.placed

theorem map_fst_linesOf {areas : List Rect} (h : ids.map b.geometry? = areas.map some) :
    (linesOf b ids).map Prod.fst = areas.flatMap Rect.span := by
  induction ids generalizing areas with
  | nil =>
    obtain rfl : areas = [] := by simpa using h.symm
    rfl
  | cons id ids ih =>
    cases areas with
    | nil => cases h
    | cons area areas =>
      rw [List.map_cons, List.map_cons, List.cons.injEq] at h
      obtain ⟨w, hw, rfl⟩ := Option.map_eq_some_iff.mp h.1
      have hfirst : linesOf b (id :: ids) = w.placed ++ linesOf b ids := by
        simp [linesOf, hw]
      rw [hfirst, List.map_append, ih h.2, w.map_fst_placed, List.flatMap_cons]

theorem left_of_mem {areas : List Rect} (h : ids.map b.geometry? = areas.map some)
    (hleft : ∀ area ∈ areas, area.left = 0) {id : WindowId} (hid : id ∈ ids) {w : Window}
    (hw : b.window? id = some w) : w.left = 0 := by
  have harea : b.geometry? id ∈ areas.map some := h ▸ List.mem_map_of_mem hid
  rw [Buffers.geometry?, hw] at harea
  obtain ⟨area, harea, heq⟩ := List.mem_map.mp harea
  cases heq
  exact hleft _ harea

/-- Windows at the left edge of which every line is written. -/
theorem flatMap_emission (h : ∀ id ∈ ids, ∀ w, b.window? id = some w →
    w.left = 0 ∧ (whole = false → ∀ row, w.isDirty row = true)) :
    ids.flatMap (emission whole b) = writing 0 (linesOf b ids) := by
  rw [writing, linesOf, List.flatMap_assoc]
  refine List.flatMap_congr fun id hid => ?_
  rw [emission]
  cases hw : b.window? id with
  | none => rfl
  | some w =>
    obtain ⟨hleft, hdirty⟩ := h id hid w hw
    rw [Option.toList_some, List.flatMap_singleton, ← hleft]
    cases whole with
    | true => exact Window.sequences_of_dirty (w := w.markAll) fun _ => rfl
    | false => exact Window.sequences_of_dirty (hdirty rfl)

theorem emission_of_clean {id : WindowId} (h : ∀ w, b.window? id = some w →
    ∀ row, w.isDirty row = false) : emission false b id = [] := by
  rw [emission]
  split
  · exact Window.sequences_of_clean (h _ ‹_›)
  · rfl

/-- All that a paint says. -/
theorem said_paint {ws : WindowSet} (h : exec (paint ws) p = (.ok (), p'))
    (hnodup : ws.visible.Nodup) (hwhole : asksForClear p.buffers ws.physical = whole) :
    p'.said = p.said ++ (opening whole ++ ws.visible.flatMap (emission whole p.buffers) ++
      closing (p'.buffers.window? ws.display)) := by
  have hexact : exec (Arithmetic.exact.paint ws) p = (.ok (), p') := by
    rw [Arithmetic.renames_paint, h]
    rfl
  obtain ⟨hsaid, hbuffers⟩ := said_of_ok (hnodup.filter _) hexact
  rw [Arithmetic.exact_utterance, ← List.map_append, List.map_inj_right fun _ _ => Option.some.inj,
    hwhole] at hsaid
  rw [hbuffers, apply_window?_painted (f := closing) fun _ _ _ _ => rfl]
  exact hsaid

/-! ## What a paint leaves alone -/

section

variable {γ : Type} {view : Window → γ}

theorem change_keeps (id : WindowId) {f : Window → Window} (hf : ∀ w, view (f w) = view w) :
    Keeps (fun (p : Painting) id => (p.buffers.window? id).map view)
      (change id f : Action Painting SinkError Unit) := by
  intro p
  funext id'
  change ((p.buffers.modifyWindow id f).window? id').map view = _
  rw [Buffers.window?_modifyWindow]
  split
  · rw [Option.map_map]
    exact Option.map_congr fun w _ => hf w
  · rfl

theorem say_keeps (l : List Sequence) :
    Keeps (fun (p : Painting) id => (p.buffers.window? id).map view) (say l) := fun _ => rfl

variable (hview : ∀ w damage full clear, view { w with damage, full, clear } = view w)

include hview

theorem paintWindow_keeps (whole : Bool) (id : WindowId) :
    Keeps (fun (p : Painting) id => (p.buffers.window? id).map view) (paintWindow whole id) := by
  have hwrite (w : Window) : Keeps (fun (p : Painting) id => (p.buffers.window? id).map view) (do
      say w.sequences
      change id Window.markClean) :=
    .bind (say_keeps _) fun _ => change_keeps id fun w => hview w {} false w.clear
  have hpaint : Keeps (fun (p : Painting) id => (p.buffers.window? id).map view)
      (paintWindow false id) := by
    intro p
    rw [exec_paintWindow_false, exec_bind_ok (exec_get p)]
    cases p.buffers.window? id with
    | none => rfl
    | some w => exact hwrite w p
  cases whole with
  | false => exact hpaint
  | true =>
    exact .bind (change_keeps id fun w => hview w w.damage true w.clear) fun _ => hpaint

theorem paintOpened_keeps (ws : WindowSet) (whole : Bool) :
    Keeps (fun (p : Painting) id => (p.buffers.window? id).map view) (paintOpened ws whole) := by
  refine .bind (.forM (paintWindow_keeps hview whole) _) fun _ => ?_
  refine .bind (change_keeps _ fun w => hview w {} false false) fun _ => ?_
  refine .bind (say_keeps _) fun _ => .get_bind fun p => ?_
  split
  · exact say_keeps _ p
  · rfl

variable (view) in
/-- A paint, even one that fails, leaves of each window all but what it asks of a paint. -/
theorem paint_keeps (ws : WindowSet) :
    Keeps (fun (p : Painting) id => (p.buffers.window? id).map view) (paint ws) := by
  refine .bind (say_keeps _) fun _ => .get_bind fun p => ?_
  dsimp only
  cases asksForClear p.buffers ws.physical with
  | false => exact paintOpened_keeps hview ws false p
  | true => exact Keeps.bind (say_keeps _) (fun _ => paintOpened_keeps hview ws true) p

end

end Painting

end TerminalSession
