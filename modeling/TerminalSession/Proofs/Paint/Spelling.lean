import TerminalSession.Proofs.Engine.Printable
import TerminalSession.Proofs.Terminal.Encoding

/-!
# How a paint is spelled

Where all cells can be printed, a paint consists of sequences of its own (`Sequence.Paints`) and of
text that can be printed. Spelled one after another, these cannot run into each other: the escape
that begins a sequence is the only control character in it, and text has none
(`begins_of_isControl`).
-/

namespace TerminalSession

open TerminalSession.Action

namespace Sequence

/-- Whether a window is written with a sequence: it moves the cursor, says how to draw, or is text
that can be printed. -/
def Draws : Sequence → Prop
  | .text chars => ∀ c ∈ chars, isPrintable c = true
  | .moveTo .. => True
  | s => s.IsRendition

/-- Whether a sequence occurs in a paint. -/
def Paints : Sequence → Prop
  | .hideCursor | .showCursor | .clearAll => True
  | s => s.Draws

theorem IsRendition.draws {s : Sequence} (h : s.IsRendition) : s.Draws := by
  cases s with
  | text | moveTo => cases h
  | _ => exact h

theorem Draws.paints {s : Sequence} (h : s.Draws) : s.Paints := by
  cases s with
  | hideCursor | showCursor | clearAll => trivial
  | _ => exact h

/-! ## Spelling -/

theorem isControl_of_between {c : Char} (h : 0x20 ≤ c.toNat ∧ c.toNat ≤ 0x7E) :
    isControl c = false := by
  simp only [isControl, inRanges, controlRanges, List.any_cons, List.any_nil, Bool.or_false,
    Bool.or_eq_false_iff, Bool.and_eq_false_iff, decide_eq_false_iff_not]
  omega

/-- After the escape that begins it a sequence has no control characters. -/
theorem not_isControl_of_escape {parameters : List Char} {final c : Char}
    (hparameters : parameters.all isParameter = true) (hfinal : isFinal final = true)
    (hc : c ∈ '[' :: (parameters ++ [final])) : isControl c = false := by
  refine isControl_of_between ?_
  rcases List.mem_cons.mp hc with rfl | hc
  · decide
  · rcases List.mem_append.mp hc with hc | hc
    · have hparameter := List.all_eq_true.mp hparameters c hc
      simp only [isParameter, Bool.and_eq_true, decide_eq_true_eq] at hparameter
      omega
    · obtain rfl := List.mem_singleton.mp hc
      simp only [isFinal, Bool.and_eq_true, decide_eq_true_eq] at hfinal
      omega

/-- A control character in a sequence of a paint is the escape that begins it. -/
theorem Paints.begins {s : Sequence} (hs : s.Paints) {before after : List Char} {c : Char}
    (h : s.encode = before ++ c :: after) (hc : isControl c = true) :
    before = [] ∧ c = '\x1b' ∧ s.isText = false := by
  cases htext : s.isText with
  | true =>
    cases s with
    | text chars =>
      have hmem : c ∈ chars := by
        rw [show chars = _ from h]
        simp
      have hprintable := hs c hmem
      rw [isPrintable, hc] at hprintable
      cases hprintable
    | _ => cases htext
  | false =>
    obtain ⟨parameters, final, hspelled, hparameters, hfinal⟩ := exists_escape htext
    rw [hspelled] at h
    cases before with
    | nil =>
      obtain ⟨rfl, -⟩ := List.cons.inj h
      exact ⟨rfl, rfl, rfl⟩
    | cons first before =>
      obtain ⟨-, hrest⟩ := List.cons.inj h
      have hmem : c ∈ '[' :: (parameters ++ [final]) := by
        rw [hrest]
        simp
      rw [not_isControl_of_escape hparameters hfinal hmem] at hc
      cases hc

/-- Every control character in the text of a paint is the escape that begins one of its
sequences. -/
theorem begins_of_isControl {l : List Sequence} (hl : ∀ s ∈ l, s.Paints) {before after : List Char}
    {c : Char} (h : encodeAll l = before ++ c :: after) (hc : isControl c = true) :
    ∃ done s rest, l = done ++ s :: rest ∧ before = encodeAll done ∧ c = '\x1b' ∧
      s.isText = false := by
  induction l generalizing before with
  | nil => simp [encodeAll] at h
  | cons s l ih =>
    obtain ⟨hs, hl⟩ := List.forall_mem_cons.mp hl
    rw [encodeAll, List.flatMap_cons] at h
    rcases List.append_eq_append_iff.mp h with ⟨more, rfl, hrest⟩ | ⟨more, hspelled, hrest⟩
    · obtain ⟨done, s', rest, rfl, rfl, hescape, htext⟩ := ih hl hrest
      exact ⟨s :: done, s', rest, rfl, rfl, hescape, htext⟩
    · cases more with
      | nil =>
        rw [List.append_nil] at hspelled
        have hnext : encodeAll l = [] ++ c :: after := hrest.symm
        obtain ⟨done, s', rest, rfl, hdone, hescape, htext⟩ := ih hl hnext
        refine ⟨s :: done, s', rest, rfl, ?_, hescape, htext⟩
        rw [encodeAll, List.flatMap_cons, ← encodeAll, ← hdone, List.append_nil, hspelled]
      | cons first more =>
        obtain ⟨rfl, -⟩ := List.cons.inj hrest
        obtain ⟨rfl, hescape, htext⟩ := hs.begins hspelled hc
        exact ⟨[], s, l, rfl, rfl, hescape, htext⟩

end Sequence

/-! ## What a paint says -/

theorem Cell.Printable.isPrintable_shown {cell : Cell} (h : cell.Printable) {c : Char}
    (hc : cell.shown? = some c) : isPrintable c = true := by
  unfold shown? at hc
  split at hc
  · cases hc
    decide
  · cases hc
    exact h c ‹_›
  · cases hc

theorem Window.Printable.draws {w : Window} (h : w.Printable) {s : Sequence}
    (hs : s ∈ w.sequences) : s.Draws := by
  obtain ⟨⟨line, row⟩, hline, hs⟩ := List.mem_flatMap.mp hs
  dsimp only at hs
  split at hs
  · rcases List.mem_cons.mp hs with rfl | hs
    · trivial
    · rcases of_mem_lineSequences hs with hs | ⟨chars, rfl, hchars⟩
      · exact hs.draws
      · intro c hc
        obtain ⟨cell, hcell, hshown⟩ := hchars c hc
        have hmem : line ∈ w.lines := Array.mem_toList_iff.mp (List.fst_mem_of_mem_zipIdx hline)
        exact (h line hmem cell hcell).isPrintable_shown hshown
  · cases hs

namespace Painting

variable {p p' : Painting} {b : Buffers} {ids : List WindowId} {whole : Bool}

theorem draws_of_mem_emission (hb : b.AllPrintable) {id : WindowId} {s : Sequence}
    (hs : s ∈ emission whole b id) : s.Draws := by
  unfold emission at hs
  split at hs
  · rename_i w hw
    have hw : (if whole then w.markAll else w).Printable := by
      cases whole <;> exact hb id w hw
    exact hw.draws hs
  · cases hs

/-- Windows are written with what draws, also if one is written more than once. -/
theorem says_paintWindows (h : exec (ids.forM (paintWindow whole)) p = (.ok (), p'))
    (hb : p.buffers.AllPrintable) : ∃ l, Says l p p' ∧ ∀ s ∈ l, s.Draws := by
  induction ids generalizing p with
  | nil =>
    cases h
    exact ⟨[], .refl _, List.forall_mem_nil _⟩
  | cons id ids ih =>
    obtain ⟨_, q, hfirst, hrest⟩ := of_exec_bind_ok h
    obtain ⟨hwindows, hsays⟩ := of_paintWindow_ok hfirst
    have hq : q.buffers.AllPrintable := by
      intro id' w' hw'
      rw [hwindows] at hw'
      obtain ⟨w, hw, rfl⟩ := Option.map_eq_some_iff.mp hw'
      split <;> exact hb id' w hw
    obtain ⟨l, hsays', hl⟩ := ih hrest hq
    exact ⟨_, hsays.trans hsays', List.forall_mem_append.mpr
      ⟨fun s hs => draws_of_mem_emission hb hs, hl⟩⟩

/-- A paint wipes the screen first, if it does so at all, and then draws. -/
theorem says_paint {ws : WindowSet} (h : exec (paint ws) p = (.ok (), p'))
    (hb : p.buffers.AllPrintable) :
    ∃ l, Says (opening (asksForClear p.buffers ws.physical) ++ l ++
      closing (p'.buffers.window? ws.display)) p p' ∧ ∀ s ∈ l, s.Draws := by
  obtain ⟨q, q', hbq, hopening, hvisible, -, hclosing⟩ := said_of_paint_ok h rfl
  obtain ⟨l, hsays, hl⟩ := says_paintWindows hvisible (hbq ▸ hb)
  exact ⟨l, (hopening.trans hsays).trans hclosing, hl⟩

end Painting

end TerminalSession
