import TerminalSession.Proofs.Paint.Agreement
import TerminalSession.Proofs.Paint.Lines

/-!
# What a paint owes the terminal

A paint writes the lines that are due: the dirty ones of each visible window, or all of them if the
terminal has been wiped (`Window.due`). Afterwards no line is due (`Settles`), so that a paint right
after it writes none (`paint_writes_due`).

As long as each place that a paint comes to fits its word (`InWords`), it makes no difference how
places are added up (`exec_paint_eq`). Otherwise a program that sees to its sums ends at the
first place that does not fit (`none_mem_utterance_iff`).
-/

namespace TerminalSession

open TerminalSession.Action

namespace Window

variable {w : Window} {whole : Bool} {i : Nat} {line : Line}

/-- The lines of a window that are to be written, with their numbers there. -/
def due (whole : Bool) (w : Window) : List (Nat × Line) :=
  w.lines.toList.zipIdx.filterMap fun (line, i) =>
    if whole || w.isDirty i then some (i, line) else none

theorem mem_due :
    (i, line) ∈ w.due whole ↔ w.lines[i]? = some line ∧ (whole = true ∨ w.isDirty i = true) := by
  simp only [due, List.mem_filterMap, Prod.exists, List.mem_zipIdx_iff_getElem?,
    Array.getElem?_toList, Option.ite_none_right_eq_some, Option.some.injEq, Prod.mk.injEq,
    Bool.or_eq_true]
  constructor
  · rintro ⟨_, _, hline, hdue, rfl, rfl⟩
    exact ⟨hline, hdue⟩
  · rintro ⟨hline, hdue⟩
    exact ⟨line, i, hline, hdue, rfl, rfl⟩

/-- Lines are written from top to bottom, each of them once. -/
theorem pairwise_due (whole : Bool) (w : Window) :
    (w.due whole).Pairwise fun p q => p.1 < q.1 := by
  have hrows : (w.lines.toList.zipIdx.map Prod.snd).Pairwise (· < ·) := by
    rw [List.zipIdx_map_snd]
    exact List.pairwise_lt_range'
  rw [due, List.pairwise_filterMap]
  refine (List.pairwise_map.mp hrows).imp ?_
  intro p q hlt p' hp q' hq
  obtain ⟨-, hp⟩ := Option.ite_none_right_eq_some.mp hp
  obtain ⟨-, hq⟩ := Option.ite_none_right_eq_some.mp hq
  cases hp
  cases hq
  exact hlt

theorem isDamaged_markClean (w : Window) : w.markClean.isDamaged = false := by
  simp [isDamaged, markClean, Damage.isEmpty]

theorem due_markClean (w : Window) : w.markClean.due false = [] := by
  simp [due, isDirty, markClean]

end Window

/-! ## Sums -/

/-- The places that the cursor is moved to, those that are not known among them. -/
def places (l : List (Option Sequence)) : List (Option (Nat × Nat)) :=
  l.filterMap fun
    | some s => s.target?.map some
    | none => some none

theorem places_map_some (l : List Sequence) : places (l.map some) = (targets l).map some := by
  rw [places, targets, List.filterMap_map, List.map_filterMap]
  rfl

namespace Arithmetic

variable {A : Arithmetic} {a b : Nat} {w : Window} {q : Nat × Line}

theorem sum?_of_lt (A : Arithmetic) (h : a + b < 2 ^ 16) : A.sum? a b = some (a + b) := by
  cases A with
  | exact => rfl
  | checked => exact Word.sum?_eq h
  | wrapping => exact congrArg some (Word.narrow_eq h)

theorem sum?_eq_none_iff : A.sum? a b = none ↔ A = .checked ∧ 2 ^ 16 ≤ a + b := by
  cases A <;> simp [sum?, Word.sum?]

theorem none_mem_writing_iff : none ∈ A.writing w q ↔ A.sum? w.top q.1 = none := by
  cases hrow : A.sum? w.top q.1 <;> simp [writing, hrow]

theorem length_writing (A : Arithmetic) (w : Window) (q : Nat × Line) :
    (A.writing w q).length = (lineSequences q.2).length + 1 := by
  rw [writing, List.length_cons, List.length_map]

/-- A line is written after one move, to the start of it. -/
theorem places_writing (A : Arithmetic) (w : Window) (q : Nat × Line) :
    places (A.writing w q) = [(A.sum? w.top q.1).map (·, w.left)] := by
  have hline : places ((lineSequences q.2).map some) = [] := by
    rw [places_map_some, targets_lineSequences]
    rfl
  rw [writing]
  cases A.sum? w.top q.1 <;> exact congrArg (_ :: ·) hline

theorem clearAll_not_mem_writing (A : Arithmetic) (w : Window) (q : Nat × Line) :
    some .clearAll ∉ A.writing w q := by
  intro h
  rcases List.mem_cons.mp h with h | h
  · cases hrow : A.sum? w.top q.1 <;> simp [hrow] at h
  · obtain ⟨s, hs, heq⟩ := List.mem_map.mp h
    exact (stays_of_mem_lineSequences hs).2 (Option.some.inj heq)

theorem sequences_eq_writing (A : Arithmetic) (w : Window) :
    A.sequences w = (w.due false).flatMap (A.writing w) := by
  rw [sequences, Window.due, List.filterMap_eq_flatMap_toList, List.flatMap_assoc]
  refine List.flatMap_congr fun p _ => ?_
  cases hdirty : w.isDirty p.2 <;> simp [hdirty]

theorem sequences_eq_due (A : Arithmetic) (whole : Bool) (w : Window) :
    A.sequences (if whole then w.markAll else w) = (w.due whole).flatMap (A.writing w) := by
  cases whole with
  | false => exact A.sequences_eq_writing w
  | true => exact A.sequences_eq_writing w.markAll

end Arithmetic

namespace Painting

variable {A : Arithmetic} {ws : WindowSet} {b b' : Buffers} {p p' : Painting} {id : WindowId}
  {w : Window} {whole : Bool}

/-! ## Windows with ids of their own -/

theorem nodup_present_all (h : (present b ws.all).Nodup) :
    (present b ws.visible ++ present b [ws.physical, ws.snapshot]).Nodup := by
  rw [← present_append]
  exact ((ws.perm_all.filter _).nodup_iff).mp h

theorem nodup_present_visible (h : (present b ws.all).Nodup) : (present b ws.visible).Nodup :=
  (List.nodup_append.mp (nodup_present_all h)).1

/-- A visible window that there is is neither the physical one nor the snapshot. -/
theorem ne_of_mem_visible (h : (present b ws.all).Nodup) (hid : id ∈ ws.visible)
    (hlive : (b.window? id).isSome) : id ≠ ws.physical ∧ id ≠ ws.snapshot := by
  have hvisible : id ∈ present b ws.visible := List.mem_filter.mpr ⟨hid, hlive⟩
  have hapart := (List.nodup_append.mp (nodup_present_all h)).2.2 id hvisible
  constructor <;> rintro rfl
  · exact hapart _ (List.mem_filter.mpr ⟨.head _, hlive⟩) rfl
  · exact hapart _ (List.mem_filter.mpr ⟨.tail _ (.head _), hlive⟩) rfl

theorem physical_ne_snapshot (h : (present b ws.all).Nodup)
    (hlive : (b.window? ws.physical).isSome) : ws.physical ≠ ws.snapshot := by
  intro heq
  have hboth := (List.nodup_append.mp (nodup_present_all h)).2.1
  rw [heq] at hlive
  simp [present, heq, hlive] at hboth

/-! ## What is left -/

/-- What a paint that succeeds leaves of the windows: nothing is to be drawn of the visible ones and
of the physical one, and everything else is as it was. -/
structure Settles (ws : WindowSet) (b b' : Buffers) : Prop where
  visible : ∀ id ∈ ws.visible, b'.window? id = (b.window? id).map Window.markClean
  physical : b'.window? ws.physical = (b.window? ws.physical).map Window.calm
  snapshot : b'.window? ws.snapshot = b.window? ws.snapshot
  others : ∀ id ∉ ws.all, b'.window? id = b.window? id
  slots : b'.slots.size = b.slots.size
  budget : b'.budget = b.budget

theorem window?_painted_of_ne (hid : id ∉ ws.visible) (hne : id ≠ ws.physical) (b : Buffers) :
    (painted ws b).window? id = b.window? id := by
  rw [window?_painted]
  simp only [if_neg hid, if_neg hne, Option.map_id']

theorem size_cleaned (ids : List WindowId) (b : Buffers) :
    (cleaned ids b).slots.size = b.slots.size ∧ (cleaned ids b).budget = b.budget := by
  induction ids generalizing b with
  | nil => exact ⟨rfl, rfl⟩
  | cons id ids ih =>
    obtain ⟨hslots, hbudget⟩ := ih (b.modifyWindow id Window.markClean)
    exact ⟨hslots.trans Array.size_modify, hbudget⟩

theorem settles_painted (h : (present b ws.all).Nodup) : Settles ws b (painted ws b) := by
  constructor
  case visible =>
    intro id hid
    rw [window?_painted]
    refine Option.map_congr fun w hw => ?_
    have hne := (ne_of_mem_visible h hid (Option.isSome_of_mem hw)).1
    simp only [hid, hne, if_true, if_false]
  case physical =>
    rw [window?_painted]
    refine Option.map_congr fun w hw => ?_
    have hnot : ws.physical ∉ ws.visible := fun hid =>
      (ne_of_mem_visible h hid (Option.isSome_of_mem hw)).1 rfl
    simp only [hnot, if_true, if_false]
  case snapshot =>
    by_cases hlive : (b.window? ws.snapshot).isSome
    · refine window?_painted_of_ne (fun hid => (ne_of_mem_visible h hid hlive).2 rfl) ?_ b
      exact fun heq => physical_ne_snapshot h (heq ▸ hlive) heq.symm
    · rw [window?_painted, Option.not_isSome_iff_eq_none.mp hlive]
      rfl
  case others =>
    intro id hid
    rw [ws.perm_all.mem_iff, List.mem_append, not_or] at hid
    exact window?_painted_of_ne hid.1 (fun heq => hid.2 (heq ▸ .head _)) b
  case slots => exact Array.size_modify.trans (size_cleaned ws.visible b).1
  case budget => exact (size_cleaned ws.visible b).2

/-! ## What is written -/

/-- The writing of the lines that are due of some windows, one window after another. -/
def writingDue (A : Arithmetic) (whole : Bool) (b : Buffers) (ids : List WindowId) :
    List (Option Sequence) :=
  ids.flatMap fun id => (b.window? id).toList.flatMap fun w => (w.due whole).flatMap (A.writing w)

theorem emission_eq_due (A : Arithmetic) (whole : Bool) (b : Buffers) (id : WindowId) :
    A.emission whole b id =
      (b.window? id).toList.flatMap fun w => (w.due whole).flatMap (A.writing w) := by
  rw [Arithmetic.emission]
  cases b.window? id with
  | none => rfl
  | some w =>
    rw [Option.toList_some, List.flatMap_singleton]
    exact A.sequences_eq_due whole w

theorem flatMap_emission_eq_due (A : Arithmetic) (whole : Bool) (b : Buffers)
    (ids : List WindowId) : ids.flatMap (A.emission whole b) = writingDue A whole b ids :=
  List.flatMap_congr fun id _ => emission_eq_due A whole b id

theorem mem_writingDue {ids : List WindowId} {s : Option Sequence} :
    s ∈ writingDue A whole b ids ↔
      ∃ id ∈ ids, ∃ w, b.window? id = some w ∧ ∃ q ∈ w.due whole, s ∈ A.writing w q := by
  simp only [writingDue, List.mem_flatMap, Option.mem_toList]

theorem places_writingDue (A : Arithmetic) (whole : Bool) (b : Buffers) (ids : List WindowId) :
    places (writingDue A whole b ids) =
      ids.flatMap fun id => (b.window? id).toList.flatMap fun w =>
        (w.due whole).map fun q => (A.sum? w.top q.1).map (·, w.left) := by
  rw [writingDue, places, List.filterMap_flatMap]
  refine List.flatMap_congr fun id _ => ?_
  rw [List.filterMap_flatMap]
  refine List.flatMap_congr fun w _ => ?_
  rw [List.filterMap_flatMap, List.map_eq_flatMap]
  exact List.flatMap_congr fun q _ => A.places_writing w q

theorem clearAll_not_mem_writingDue (A : Arithmetic) (whole : Bool) (b : Buffers)
    (ids : List WindowId) : some .clearAll ∉ writingDue A whole b ids := by
  intro h
  obtain ⟨id, -, w, -, q, -, hmem⟩ := mem_writingDue.mp h
  exact A.clearAll_not_mem_writing w q hmem

theorem clearAll_not_mem_homing (A : Arithmetic) (display : Option Window) :
    some .clearAll ∉ A.homing display := by
  cases display with
  | none => exact List.not_mem_nil
  | some w =>
    cases hrow : A.sum? w.top w.cursorRow <;> cases hcol : A.sum? w.left w.cursorCol <;>
      simp [Arithmetic.homing, hrow, hcol]

/-! ### Places that can be counted in words -/

/-- No place that a paint comes to leaves its word. -/
structure InWords (ws : WindowSet) (b : Buffers) : Prop where
  lines : ∀ id ∈ ws.visible, ∀ w, b.window? id = some w →
    ∀ q ∈ w.due (asksForClear b ws.physical), w.top + q.1 < 2 ^ 16
  cursor : ∀ w, b.window? ws.display = some w →
    w.top + w.cursorRow < 2 ^ 16 ∧ w.left + w.cursorCol < 2 ^ 16

theorem none_mem_homing_iff {display : Option Window} :
    none ∈ A.homing display ↔ ∃ w, display = some w ∧
      (A.sum? w.top w.cursorRow = none ∨ A.sum? w.left w.cursorCol = none) := by
  cases display with
  | none => simp [Arithmetic.homing]
  | some w =>
    cases hrow : A.sum? w.top w.cursorRow <;> cases hcol : A.sum? w.left w.cursorCol <;>
      simp [Arithmetic.homing, hrow, hcol]

/-- A paint ends at a place that leaves its word, if the program sees to that. -/
theorem none_mem_utterance_iff : none ∈ A.utterance ws b ↔ A = .checked ∧ ¬ InWords ws b := by
  have hparts : none ∈ A.utterance ws b ↔
      none ∈ writingDue A (asksForClear b ws.physical) b ws.visible ∨
        none ∈ A.homing (b.window? ws.display) := by
    simp [Arithmetic.utterance, Arithmetic.closing, flatMap_emission_eq_due]
  rw [hparts, mem_writingDue, none_mem_homing_iff]
  simp only [Arithmetic.none_mem_writing_iff, Arithmetic.sum?_eq_none_iff]
  constructor
  · rintro (⟨id, hid, w, hw, q, hq, hchecked, hle⟩ | ⟨w, hw, ⟨hchecked, hle⟩ | ⟨hchecked, hle⟩⟩)
    · exact ⟨hchecked, fun h => Nat.not_lt.mpr hle (h.lines id hid w hw q hq)⟩
    · exact ⟨hchecked, fun h => Nat.not_lt.mpr hle (h.cursor w hw).1⟩
    · exact ⟨hchecked, fun h => Nat.not_lt.mpr hle (h.cursor w hw).2⟩
  · rintro ⟨hchecked, hbeyond⟩
    by_contra hnone
    obtain ⟨hlines, hcursor⟩ := not_or.mp hnone
    refine hbeyond ⟨fun id hid w hw q hq => ?_, fun w hw => ⟨?_, ?_⟩⟩
    · exact Nat.lt_of_not_le fun hle => hlines ⟨id, hid, w, hw, q, hq, hchecked, hle⟩
    · exact Nat.lt_of_not_le fun hle => hcursor ⟨w, hw, .inl ⟨hchecked, hle⟩⟩
    · exact Nat.lt_of_not_le fun hle => hcursor ⟨w, hw, .inr ⟨hchecked, hle⟩⟩

theorem utterance_of_inWords (A : Arithmetic) (h : InWords ws b) :
    A.utterance ws b = Arithmetic.exact.utterance ws b := by
  have hbody : writingDue A (asksForClear b ws.physical) b ws.visible =
      writingDue .exact (asksForClear b ws.physical) b ws.visible := by
    refine List.flatMap_congr fun id hid => List.flatMap_congr fun w hw =>
      List.flatMap_congr fun q hq => ?_
    rw [Arithmetic.writing, A.sum?_of_lt (h.lines id hid w (Option.mem_toList.mp hw) q hq)]
    rfl
  have hhoming : A.homing (b.window? ws.display) =
      Arithmetic.exact.homing (b.window? ws.display) := by
    cases hw : b.window? ws.display with
    | none => rfl
    | some w =>
      obtain ⟨hrow, hcol⟩ := h.cursor w hw
      rw [Arithmetic.homing, A.sum?_of_lt hrow, A.sum?_of_lt hcol]
      rfl
  simp only [Arithmetic.utterance, Arithmetic.closing, flatMap_emission_eq_due, hbody, hhoming]

/-- How much is written of a window does not depend on the arithmetic. -/
theorem length_emission (A : Arithmetic) (whole : Bool) (b : Buffers) (id : WindowId) :
    (A.emission whole b id).length = (Arithmetic.exact.emission whole b id).length := by
  simp only [emission_eq_due, List.length_flatMap, Arithmetic.length_writing]

theorem leftAfter_eq_exact (A : Arithmetic) (whole : Bool) (ids : List WindowId) (b : Buffers)
    (n : Nat) : leftAfter A whole ids b n = leftAfter .exact whole ids b n := by
  induction ids generalizing b n with
  | nil => rfl
  | cons id ids ih => simp only [leftAfter, length_emission A, ih]

theorem leftPainted_eq_exact (A : Arithmetic) (ws : WindowSet) (b : Buffers) :
    leftPainted A ws b = leftPainted .exact ws b := by
  funext n
  simp only [leftPainted, leftOpened, List.length_flatMap, length_emission A, leftAfter_eq_exact A]

/-- A paint in words is `paint`, unless a place leaves its word. -/
theorem exec_paint_eq (hnodup : (present b ws.visible).Nodup) (hexact : A = .exact ∨ InWords ws b)
    (sink : Sink) : exec (A.paint ws) ⟨sink, b⟩ =
      ((exec (paint ws) ⟨sink, b⟩).1.mapError .sink, (exec (paint ws) ⟨sink, b⟩).2) := by
  rcases hexact with rfl | hwords
  · exact Arithmetic.renames_paint ws ⟨sink, b⟩
  · have hutters := utters_paint (A := A) hnodup
    rw [utterance_of_inWords A hwords, leftPainted_eq_exact] at hutters
    rw [hutters.exec_eq (utters_paint hnodup), Arithmetic.renames_paint]

theorem exec_paint_of_ok (hnodup : (present p.buffers ws.visible).Nodup)
    (hexact : A = .exact ∨ InWords ws p.buffers) (h : exec (A.paint ws) p = (.ok (), p')) :
    exec (paint ws) p = (.ok (), p') := by
  have hpaint : exec (A.paint ws) p = _ := exec_paint_eq hnodup hexact p.sink
  rcases hexec : exec (paint ws) p with ⟨_ | _, _⟩
  all_goals
    rw [hpaint, hexec] at h
    cases h
  rfl

/-- All that a paint that succeeds has said, in its parts. -/
theorem exists_written (h : p'.said.map some = p.said.map some ++ A.utterance ws b) :
    ∃ written home : List Sequence,
      p'.said = p.said ++ (opening (asksForClear b ws.physical) ++ written ++ [.reset, .reset] ++
        home) ∧
      written.map some = writingDue A (asksForClear b ws.physical) b ws.visible ∧
      home.map some = A.homing (b.window? ws.display) := by
  have hinjective : Function.Injective (List.map (some : Sequence → Option Sequence)) :=
    List.map_injective_iff.mpr fun _ _ => Option.some.inj
  rw [Arithmetic.utterance, Arithmetic.closing, flatMap_emission_eq_due] at h
  obtain ⟨before, said, hall, hbefore, hsaid⟩ := List.map_eq_append_iff.mp h
  obtain ⟨body, ending, rfl, hbody, hending⟩ := List.map_eq_append_iff.mp hsaid
  obtain ⟨first, written, rfl, hfirst, hwritten⟩ := List.map_eq_append_iff.mp hbody
  obtain ⟨resets, home, rfl, hresets, hhome⟩ := List.map_eq_append_iff.mp hending
  refine ⟨written, home, ?_, hwritten, hhome⟩
  rw [hall, hinjective hbefore, hinjective hfirst,
    hinjective (show resets.map some = [Sequence.reset, .reset].map some from hresets)]
  simp only [List.append_assoc]

/-! ### A paint after another one -/

theorem emission_painted (A : Arithmetic) (hid : id ∈ ws.visible) :
    A.emission false (painted ws b) id = [] := by
  rw [emission_eq_due, window?_painted]
  cases b.window? id with
  | none => rfl
  | some w =>
    simp only [hid, if_true, Option.map_some, Option.toList_some, List.flatMap_singleton]
    split <;> exact congrArg (List.flatMap _) w.due_markClean

theorem asksForClear_painted (ws : WindowSet) (b : Buffers) :
    asksForClear (painted ws b) ws.physical = false := by
  rw [asksForClear, window?_painted]
  cases b.window? ws.physical <;> simp [Window.calm]

theorem present_painted (ws : WindowSet) (b : Buffers) (ids : List WindowId) :
    present (painted ws b) ids = present b ids := by
  simp only [present, window?_painted, Option.isSome_map]

/-- A paint right after another one has no line to write. -/
theorem utterance_painted (A : Arithmetic) (ws : WindowSet) (b : Buffers) :
    A.utterance ws (painted ws b) =
      [some .hideCursor, some .reset, some .reset] ++ A.homing (b.window? ws.display) := by
  have hbody : ws.visible.flatMap (A.emission false (painted ws b)) = [] :=
    List.flatMap_eq_nil_iff.mpr fun _ hid => emission_painted A hid
  rw [Arithmetic.utterance, asksForClear_painted, hbody, Arithmetic.closing,
    apply_window?_painted (f := A.homing) fun _ _ _ _ => rfl]
  rfl

theorem paint_painted (hnodup : (present b ws.visible).Nodup) {home : List Sequence}
    (hhome : home.map some = A.homing (b.window? ws.display)) (sink : Sink) :
    (sink.room = none → (exec (A.paint ws) ⟨sink, painted ws b⟩).1 = .ok ()) ∧
      ∀ q, exec (A.paint ws) ⟨sink, painted ws b⟩ = (.ok (), q) →
        q.said = sink.taken.toList ++ ([.hideCursor, .reset, .reset] ++ home) := by
  have hnothing : A.utterance ws (painted ws b) =
      ([Sequence.hideCursor, .reset, .reset] ++ home).map some := by
    rw [utterance_painted, ← hhome, List.map_append]
    rfl
  rw [← present_painted ws b] at hnodup
  constructor
  · intro hroom
    have hexec := Sink.exec_utters_of_fits (sink.fits_of_endless hroom
      (Sink.voiced (A.utterance ws (painted ws b))))
    rw [if_neg (by simp [hnothing])] at hexec
    rw [(utters_paint hnodup).whole sink _ hexec]
  · intro q hq
    have hsaid := (said_of_ok hnodup hq).1
    rw [hnothing, ← List.map_append] at hsaid
    exact List.map_injective_iff.mpr (fun _ _ => Option.some.inj) hsaid

/-- The windows of a session of which a reserved line and the strip are gone. -/
def gappedWindows : WindowSet := { sampleWindows with reserved := [⟨.top, 7⟩], strip := some 7 }

/-- The display begins at the last row that a word can count, and a word is on its second line. -/
def edged : Painting :=
  { sample with buffers := sample.buffers.modifyWindow 0 fun w =>
      { w.markClean with top := 65535 }.change (.edit (.putText 1 1 (String.ofList ['o', 'k']))) }

end Painting

end TerminalSession
