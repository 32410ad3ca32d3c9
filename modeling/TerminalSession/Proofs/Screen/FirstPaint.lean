import TerminalSession.Proofs.Paint.Lines
import TerminalSession.Proofs.Screen.Fitting
import TerminalSession.Proofs.Screen.Redraw

/-!
# What the first paint draws

The first paint after a session has begun, has been given the terminal back or has followed it to
another size leaves nothing on the terminal that was there before: it wipes the terminal and writes
each row once. If the terminal is to be preserved, the first paint writes the rows of the reserved
lines and of the strip and no others.
-/

namespace TerminalSession.Life

open TerminalSession.Action TerminalSession.Painting

variable {T : Type} [Terminal T] {r : Life T Buffers} {m : Move T Buffers} {windows : WindowSet}
  {b : Buffers}

section

variable {sink : Sink} {p : Painting} {l : Layout} {rows cols : Nat} {sides : List Side}
  {strip : StripPlacement}

/-- A terminal that is to be wiped gets all rows. -/
theorem Wiped.said (h : Wiped windows b) (hnodup : windows.all.Nodup)
    (hlaidOut : windows.LaidOut l b) (hl : Layout.Allocated rows cols sides strip l)
    (hpaint : exec (paint windows) ⟨sink, b⟩ = (.ok (), p)) :
    p.said = sink.taken.toList ++ ([.hideCursor, .clearAll] ++
        writing 0 (linesOf b windows.visible) ++ closing (p.buffers.window? windows.display)) ∧
      targets (writing 0 (linesOf b windows.visible)) = l.rowsInOrder.map (·, 0) := by
  have hlines : windows.visible.flatMap (emission true b) =
      writing 0 (linesOf b windows.visible) :=
    flatMap_emission fun id hid w hw => ⟨left_of_mem hlaidOut.map_visible
      (fun area harea => (hl.left_visibleAreas area harea).1) hid hw, nofun⟩
  have hrows := map_fst_linesOf hlaidOut.map_visible
  rw [l.flatMap_span_visibleAreas] at hrows
  refine ⟨?_, ?_⟩
  · rw [said_paint hpaint (WindowSet.nodup_visible hnodup) h, hlines]
    rfl
  · rw [targets_writing, ← hrows, List.map_map]
    rfl

/-- A terminal that is preserved gets the reserved lines and the strip. -/
theorem Pristine.said (h : Pristine windows b) (hnodup : windows.all.Nodup)
    (hlaidOut : windows.LaidOut l b) (hl : Layout.Allocated rows cols sides strip l)
    (hpaint : exec (paint windows) ⟨sink, b⟩ = (.ok (), p)) :
    p.said = sink.taken.toList ++ ([.hideCursor] ++ writing 0 (linesOf b windows.attached) ++
        closing (p.buffers.window? windows.display)) ∧
      targets (writing 0 (linesOf b windows.attached)) =
        (l.reserved.map ReservedLine.row ++ l.stripRows).map (·, 0) := by
  have hdisplay : emission false b windows.display = [] := by
    refine emission_of_clean fun w hw row => ?_
    have hclean := h.display row
    rwa [Buffers.isDirty, hw] at hclean
  have hleft : ∀ area ∈ l.reserved.map l.lineArea ++ l.stripArea?.toList, area.left = 0 := by
    intro area harea
    refine (hl.left_visibleAreas area ?_).1
    rcases List.mem_append.mp harea with harea | harea <;> simp [Layout.visibleAreas, harea]
  -- Every line of these windows is to be drawn, so nothing is left out of the writing.
  have hattached : windows.attached.flatMap (emission false b) =
      writing 0 (linesOf b windows.attached) := by
    refine flatMap_emission fun id hid w hw =>
      ⟨left_of_mem hlaidOut.map_attached hleft hid hw, fun _ row => ?_⟩
    have hdirty := h.attached id hid row
    rwa [Buffers.isDirty, hw] at hdirty
  have hlines : windows.visible.flatMap (emission false b) =
      writing 0 (linesOf b windows.attached) := by
    rw [← hattached]
    simp only [WindowSet.visible, WindowSet.attached, List.flatMap_append, List.flatMap_singleton,
      hdisplay, List.append_nil]
  have hrows := map_fst_linesOf hlaidOut.map_attached
  rw [List.flatMap_append, l.flatMap_span_lines, l.flatMap_span_strip] at hrows
  refine ⟨?_, ?_⟩
  · rw [said_paint hpaint (WindowSet.nodup_visible hnodup) h.physical, hlines]
    rfl
  · rw [targets_writing, ← hrows, List.map_map]
    rfl

end

theorem not_begins_of_refreshes (h : Refreshes r m) : ¬ Begins r m := by
  cases m with
  | call c => cases c <;> first | exact id | cases h
  | _ => cases h

/-- After a move that refreshes a session, or begins one that preserves nothing, the terminal is to
be wiped. -/
theorem holds_wiped (hc : Coherent r.screen.interior) (hr : Kept r)
    (hm : Refreshes r m ∨ Begins r m ∧ r.screen.config.preserveScreen = false)
    (hpermits : Permits sparesPhysical r m) : Holds Wiped (r.move m) := by
  intro session' hs' hconsistent
  rcases hm with hm | ⟨hm, hpreserve⟩
  · obtain ⟨session, hs, hwindows, hbefore, htouched⟩ :=
      lasts_move hc hpermits (not_begins_of_refreshes hm) hs'
    have hphysical := (hr.fitted session hs (hbefore hconsistent)).laidOut.physical
    have hlive : (r.screen.engine.window? session.windows.physical).isSome := by
      obtain ⟨w, hw, -⟩ := Option.map_eq_some_iff.mp hphysical
      rw [show r.screen.engine.window? _ = some w from hw]
      rfl
    rw [hwindows]
    exact htouched.wiped (.inr ⟨hm, hlive⟩)
  · obtain ⟨session, hs, hwindows, hspares⟩ := of_begins hm hpermits
    cases hs'.symm.trans hs
    refine hspares.trans ?_
    rw [hwindows, asksForClear_built, Interior.config_cleared]
    exact congrArg (!·) hpreserve

/-- A new session that preserves the terminal is pristine. -/
theorem holds_pristine (hm : Begins r m) (hpreserve : r.screen.config.preserveScreen = true)
    (hpermits : Permits SparesDisplay r m) : Holds Pristine (r.move m) := by
  intro session' hs' _
  obtain ⟨session, hs, hwindows, hspares⟩ := of_begins hm hpermits
  cases hs'.symm.trans hs
  have hbuilt : Pristine session'.windows
      (r.screen.interior.cleared.built session'.layout).engine := by
    rw [hwindows]
    refine pristine_built ?_
    rw [Interior.config_cleared]
    exact hpreserve
  exact hbuilt.spared hspares

/-- **Nothing stale is left.** While the application leaves the windows of the session in their
places, take a paint of a consistent session, the first since some move.

If the move gave the session the terminal back or another size, or began it without preserving the
terminal, and the application has left the flag of the physical window alone since, the paint wipes
the terminal and writes the whole lines of all windows that are seen: each row of the terminal once,
from the first column on.

If the move began the session and preserved the terminal, and the display has not been written to and
the session not been refreshed since, the paint wipes nothing, and writes the reserved lines and the
strip, but no row of the display.

A paint would change the flag of the physical window or forget that lines are to be drawn, so there
is none among the moves since. -/
theorem first_paint {terminal : T} {engine : Buffers} {config : Config} {s : Screen T Buffers}
    (h : Screen.new terminal engine config = .ok s) {before since : List (Move T Buffers)}
    {m : Move T Buffers} (hobeys : Obeys keepsPlaces ⟨s, []⟩ (before ++ m :: since))
    {session : Session}
    (hs : (moves ⟨s, []⟩ (before ++ m :: since)).screen.session = some session)
    (hconsistent : session.consistent = true) {sink : Sink} {p : Painting}
    (hpaint : exec (paint session.windows)
      ⟨sink, (moves ⟨s, []⟩ (before ++ m :: since)).screen.engine⟩ = (.ok (), p)) :
    let r := moves ⟨s, []⟩ before
    let b := (moves ⟨s, []⟩ (before ++ m :: since)).screen.engine
    let l := session.layout
    let ending := closing (p.buffers.window? session.windows.display)
    ((Refreshes r m ∨ Begins r m ∧ r.screen.config.preserveScreen = false) →
      Permits sparesPhysical r m →
      Throughout (fun r m => Permits sparesPhysical r m ∧ ¬ Begins r m) (r.move m) since →
      let body := writing 0 (linesOf b session.windows.visible)
      p.said = sink.taken.toList ++ ([.hideCursor, .clearAll] ++ body ++ ending) ∧
        targets body = l.rowsInOrder.map (·, 0) ∧
        l.rowsInOrder.Perm (List.range l.terminalRows)) ∧
    (Begins r m → r.screen.config.preserveScreen = true → Permits SparesDisplay r m →
      Throughout (fun r m => Permits SparesDisplay r m ∧ ¬ Begins r m ∧ ¬ Refreshes r m) (r.move m)
        since →
      let body := writing 0 (linesOf b session.windows.attached)
      let rows := l.reserved.map ReservedLine.row ++ l.stripRows
      p.said = sink.taken.toList ++ ([.hideCursor] ++ body ++ ending) ∧
        targets body = rows.map (·, 0) ∧ .clearAll ∉ body ∧
        ∀ row ∈ rows, row ∉ List.range' l.displayTop l.usableRows) := by
  have hkept := kept_moves h hobeys
  have hfitted := hkept.fitted session hs hconsistent
  have hnodup := hkept.nodup session hs
  have hl := Layout.of_allocate hfitted.layout
  have hc := (coherent_moves h before).move m
  have hsplit : moves ⟨s, []⟩ (before ++ m :: since) =
      ((moves ⟨s, []⟩ before).move m).moves since := List.foldl_append
  rw [hsplit] at hs hpaint hfitted ⊢
  refine ⟨fun hm hpermits hsince => ?_, fun hm hpreserve hpermits hsince => ?_⟩
  · have hrefreshed := holds_wiped (coherent_moves h before)
      (kept_moves h (obeys_append.mp hobeys).1) hm hpermits
    have hwiped := hsince.holds (fun _ _ h => h)
      (fun _ _ _ _ _ htouched hold => htouched.wiped (.inl hold)) hc hrefreshed
    obtain ⟨hsaid, htargets⟩ :=
      (hwiped session hs hconsistent).said hnodup hfitted.laidOut hl hpaint
    exact ⟨hsaid, htargets, hl.rowsInOrder_perm⟩
  · have hbegun := holds_pristine hm hpreserve hpermits
    have hpristine := hsince.holds (fun _ _ h => ⟨h.1, h.2.1⟩)
      (fun _ _ _ _ h htouched hold => htouched.pristine h.2.2 hold) hc hbegun
    obtain ⟨hsaid, htargets⟩ :=
      (hpristine session hs hconsistent).said hnodup hfitted.laidOut hl hpaint
    exact ⟨hsaid, htargets, clearAll_not_mem_writing _ _, fun row => hl.not_mem_display⟩

theorem keepsPlaces_changeAll {es : List (WindowId × Edit)} (ids : List WindowId)
    (h : ∀ p ∈ es, p.2.isWriting = true) (b : Buffers) : keepsPlaces ids b (b.changeAll es) :=
  fun id _ => Buffers.geometry?_changeAll_of_not_isPlacing
    (fun p hp => Edit.not_isPlacing_of_isWriting (h p hp)) id

theorem keepsPlaces_paint (ids : List WindowId) (ws : WindowSet) (p : Painting) :
    keepsPlaces ids p.buffers (exec (paint ws) p).2.buffers :=
  fun id _ => congrFun (paint_keeps Window.area (fun _ _ _ _ => rfl) ws p) id

/-- The windows of a session with one reserved line and no strip. -/
def lined (side : Side) : WindowSet where
  physical := 0
  snapshot := 1
  reserved := [⟨side, 2⟩]
  display := 3

/-- A session with a line at the top is painted, and its terminal gets another size. -/
def painting : List (Move Headless Buffers) :=
  [.call (.reserveLine .top fun b _ _ => b), .call (.create []),
    .engine fun b => (exec (paint (lined .top)) ⟨{}, b⟩).2.buffers,
    .terminal ({ · with rows := 4, cols := 5 })]

/-- A window is written to. -/
def lettering (id : WindowId) : List (Move Headless Buffers) :=
  [.engine fun b => b.changeAll [(id, .putText 0 0 "text")]]

/-- A screen on a terminal of four rows that is to be preserved. -/
def preserved : Screen Headless Buffers where
  terminal := { rows := 4, cols := 5 }
  engine := {}
  config := { preserveScreen := true }

theorem new_preserved :
    Screen.new { rows := 4, cols := 5 } {} { preserveScreen := true } = .ok preserved := rfl

/-- A line is reserved at the bottom. -/
def lining : List (Move Headless Buffers) := [.call (.reserveLine .bottom fun b _ _ => b)]

theorem confines_lettering (id : WindowId) : ∀ m ∈ lettering id, Confines keepsPlaces m := by
  intro m hm
  obtain rfl := List.mem_singleton.mp hm
  exact fun ids => keepsPlaces_changeAll ids (by simp [Edit.isWriting])

theorem obeys_following :
    Obeys keepsPlaces ⟨seven, []⟩ (painting ++ .call (.resize 0 0) :: lettering 3) := by
  refine obeys_of_confines closed_keepsPlaces (List.forall_mem_nil _) fun m hm => ?_
  simp only [painting, List.mem_append, List.mem_cons, List.not_mem_nil, or_false] at hm
  rcases hm with (rfl | rfl | rfl | rfl) | rfl | hm
  · exact fun ids b _ _ => closed_keepsPlaces.refl ids b
  · trivial
  · exact fun ids b => keepsPlaces_paint ids _ ⟨{}, b⟩
  · trivial
  · trivial
  · exact confines_lettering 3 m hm

theorem obeys_preserving :
    Obeys keepsPlaces ⟨preserved, []⟩ (lining ++ .call (.create []) :: lettering 2) := by
  refine obeys_of_confines closed_keepsPlaces (List.forall_mem_nil _) fun m hm => ?_
  simp only [lining, List.mem_append, List.mem_cons, List.not_mem_nil, or_false] at hm
  rcases hm with rfl | rfl | hm
  · exact fun ids b _ _ => closed_keepsPlaces.refl ids b
  · trivial
  · exact confines_lettering 2 m hm

/-- The line's initializer does nothing, and only the line is written to. -/
theorem permits_preserving :
    Permits SparesDisplay (moves ⟨preserved, []⟩ lining) (.call (.create [])) ∧
    Throughout (fun r m => Permits SparesDisplay r m ∧ ¬ Begins r m ∧ ¬ Refreshes r m)
      ((moves ⟨preserved, []⟩ lining).move (.call (.create []))) (lettering 2) := by
  have hstill : Closed fun _ b b' => b' = b := ⟨fun _ _ => rfl, fun h h' => h'.trans h⟩
  have hconducts : Conducts SparesDisplay ⟨preserved, []⟩ (lining ++ [.call (.create [])]) := by
    refine conducts_of_obeys (fun windows b b' h => ?_)
      (obeys_of_confines hstill (List.forall_mem_nil _) ?_)
    · rw [h]
      exact sparesDisplay_changeAll (List.forall_mem_nil _)
    · simp [lining, Confines, ConfinesInit]
  have hwindows : ((moves ⟨preserved, []⟩ lining).move (.call (.create []))).screen.session.map
      Session.windows = some (lined .bottom) := by
    decide +kernel
  refine ⟨(throughout_append.mp hconducts).2.1, ⟨fun session hs => ?_, id, id⟩, trivial⟩
  rw [hs] at hwindows
  rw [Option.some.inj hwindows]
  exact sparesDisplay_changeAll (by simp [lined, Edit.isWriting])

theorem first_paint_of_following :
    (∃ p : Painting, exec (paint (lined .top)) ⟨{}, (moves ⟨seven, []⟩
        (painting ++ .call (.resize 0 0) :: lettering 3)).screen.engine⟩ = (.ok (), p) ∧
      ∃ body, p.said = [.hideCursor, .clearAll] ++ body ++ closing (p.buffers.window? 3) ∧
        targets body = [(0, 0), (1, 0), (2, 0), (3, 0)]) ∧
    ∃ p : Painting, exec (paint (lined .bottom)) ⟨{}, (moves ⟨preserved, []⟩
        (lining ++ .call (.create []) :: lettering 2)).screen.engine⟩ = (.ok (), p) ∧
      ∃ body, p.said = [.hideCursor] ++ body ++ closing (p.buffers.window? 3) ∧
        targets body = [(3, 0)] := by
  refine ⟨?_, ?_⟩
  · have hsession : (moves ⟨seven, []⟩
        (painting ++ .call (.resize 0 0) :: lettering 3)).screen.session.map (fun session =>
          (session.consistent, session.windows, session.layout.rowsInOrder)) =
        some (true, lined .top, [0, 1, 2, 3]) := by
      decide +kernel
    have hok : (exec (paint (lined .top)) ⟨{}, (moves ⟨seven, []⟩
        (painting ++ .call (.resize 0 0) :: lettering 3)).screen.engine⟩).1 = .ok () := by
      decide +kernel
    have hrefreshes : Refreshes (moves ⟨seven, []⟩ painting) (.call (.resize 0 0)) := by
      unfold Refreshes
      decide +kernel
    obtain ⟨session, hs, hsession⟩ := Option.map_eq_some_iff.mp hsession
    simp only [Prod.mk.injEq] at hsession
    obtain ⟨hconsistent, hwindows, hrows⟩ := hsession
    rw [← hwindows] at hok ⊢
    rcases hpaint : exec (paint session.windows) ⟨{}, (moves ⟨seven, []⟩
        (painting ++ .call (.resize 0 0) :: lettering 3)).screen.engine⟩ with ⟨result, p⟩
    rw [hpaint] at hok
    obtain rfl : result = .ok () := hok
    obtain ⟨hfirst, -⟩ := first_paint new_seven obeys_following hs hconsistent hpaint
    obtain ⟨hsaid, htargets, -⟩ := hfirst (.inl hrefreshes) trivial
      ⟨⟨fun _ _ => sparesPhysical_changeAll (by simp [Edit.isWriting]), id⟩, trivial⟩
    rw [hwindows] at hsaid htargets
    rw [hrows] at htargets
    exact ⟨p, rfl, _, hsaid.trans (List.nil_append _), htargets⟩
  · have hsession : (moves ⟨preserved, []⟩
        (lining ++ .call (.create []) :: lettering 2)).screen.session.map (fun session =>
          (session.consistent, session.windows,
            session.layout.reserved.map ReservedLine.row ++ session.layout.stripRows)) =
        some (true, lined .bottom, [3]) := by
      decide +kernel
    have hok : (exec (paint (lined .bottom)) ⟨{}, (moves ⟨preserved, []⟩
        (lining ++ .call (.create []) :: lettering 2)).screen.engine⟩).1 = .ok () := by
      decide +kernel
    have hbegins : Begins (moves ⟨preserved, []⟩ lining) (.call (.create [])) := by
      unfold Begins
      decide +kernel
    obtain ⟨session, hs, hsession⟩ := Option.map_eq_some_iff.mp hsession
    simp only [Prod.mk.injEq] at hsession
    obtain ⟨hconsistent, hwindows, hrows⟩ := hsession
    rw [← hwindows] at hok ⊢
    rcases hpaint : exec (paint session.windows) ⟨{}, (moves ⟨preserved, []⟩
        (lining ++ .call (.create []) :: lettering 2)).screen.engine⟩ with ⟨result, p⟩
    rw [hpaint] at hok
    obtain rfl : result = .ok () := hok
    obtain ⟨-, hfirst⟩ := first_paint new_preserved obeys_preserving hs hconsistent hpaint
    obtain ⟨hpermits, hsince⟩ := permits_preserving
    obtain ⟨hsaid, htargets, -⟩ := hfirst hbegins rfl hpermits hsince
    rw [hwindows] at hsaid htargets
    rw [hrows] at htargets
    exact ⟨p, rfl, _, hsaid.trans (List.nil_append _), htargets⟩

/-- A screen on a terminal of four rows, without room for the windows of a fifth row. -/
def cramped : Screen Headless Buffers where
  terminal := { rows := 4, cols := 6 }
  engine := { budget := some 84 }

/-- A resize that fails half way leaves the display over the line at the bottom. -/
theorem broken_painted_twice :
    let r := moves ⟨cramped, []⟩ [.call (.reserveLine .bottom fun b _ _ => b), .call (.create []),
      .terminal ({ · with rows := 5 }), .call (.resize 0 0)]
    r.log.map (·.2.isOk) = [true, true, false] ∧
    r.screen.session.map (fun session =>
      let painted := exec (paint session.windows) ⟨{}, r.screen.engine⟩
      (painted.1, targets painted.2.said)) =
        some (.ok (), [(3, 0), (0, 0), (1, 0), (2, 0), (3, 0), (0, 0)]) := by
  decide +kernel

end TerminalSession.Life
