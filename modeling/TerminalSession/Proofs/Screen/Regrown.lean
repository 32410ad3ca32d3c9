import TerminalSession.Proofs.Screen.Fitting
import TerminalSession.Proofs.Screen.Redraw
import TerminalSession.Proofs.Window.Regrown

/-!
# What a resize leaves of the windows

A resize that succeeds gives each window of the session the size that it has in the new layout. What
the old and the new size have in common stays, and the rest comes up blank (`Window.Regrown`). All
that is seen is to be drawn again, and the last frame is forgotten, so that nothing is taken for
drawn (`Redrawn`).
-/

namespace TerminalSession

open TerminalSession.Action TerminalSession.Painting

/-! ## Windows of another size -/

/-- Whatever is drawn after a resize, all lines are to be drawn. -/
theorem Window.isDirty_resize {w : Window} {es : List Edit} (hes : ∀ e ∈ es, e ≠ .markClean)
    (rows cols row : Nat) : (w.edits (.resize rows cols :: es)).isDirty row = true := by
  rw [edits_cons]
  exact isDirty_edits hes rfl

namespace Buffers

variable {b b' : Buffers} {es : List (WindowId × Edit)} {id : WindowId} {rows cols : Nat}

/-- Edits that have all been made were made to windows that exist. -/
theorem live_of_performing (h : exec (performing es) b = (.ok (), b')) :
    ∀ p ∈ es, (b.window? p.1).isSome := by
  induction es generalizing b with
  | nil => exact List.forall_mem_nil _
  | cons p es ih =>
    obtain ⟨_, b₁, hfirst, hrest⟩ := of_exec_bind_ok h
    rw [exec_edit] at hfirst
    cases hedit : b.edit p.1 p.2 with
    | error cause => simp [hedit] at hfirst
    | ok r =>
      rw [hedit] at hfirst
      cases hfirst
      obtain ⟨w, hw, hb₁⟩ := of_edit_ok hedit
      refine List.forall_mem_cons.mpr ⟨by rw [hw]; rfl, fun q hq => ?_⟩
      have hlive := ih hrest q hq
      rw [hb₁, window?_modifyWindow] at hlive
      split at hlive
      · rwa [Option.isSome_map] at hlive
      · exact hlive

/-- The window under an id has got another size. -/
def Regrown (b b' : Buffers) (id : WindowId) (rows cols : Nat) : Prop :=
  ∃ w w', b.window? id = some w ∧ b'.window? id = some w' ∧ w.Regrown rows cols w'

/-- The window under an id has blank cells only. -/
def Blanked (b : Buffers) (id : WindowId) (rows cols : Nat) (attrs : Attrs) : Prop :=
  ∃ w, b.window? id = some w ∧ w.Blanked rows cols attrs

/-- A window that is resized and then treated otherwise, but not written to. -/
theorem regrown_changeAll (hlive : (b.window? id).isSome) {es' : List Edit}
    (haddressed : addressed id es = .resize rows cols :: es')
    (hlines : ∀ w : Window, (w.edits es').lines = w.lines) :
    Regrown b (b.changeAll es) id rows cols := by
  obtain ⟨w, hw⟩ := Option.isSome_iff_exists.mp hlive
  refine ⟨w, _, hw, by rw [window?_changeAll, hw, haddressed]; rfl, ?_⟩
  exact (w.regrown_resize rows cols).congr (hlines _)

theorem isDirty_changeAll_of_resize (hlive : (b.window? id).isSome) {es' : List Edit}
    (haddressed : addressed id es = .resize rows cols :: es') (hes : ∀ e ∈ es', e ≠ .markClean)
    (row : Nat) : (b.changeAll es).isDirty id row = true := by
  obtain ⟨w, hw⟩ := Option.isSome_iff_exists.mp hlive
  rw [isDirty, window?_changeAll, hw, haddressed]
  exact Window.isDirty_resize hes rows cols row

end Buffers

/-! ## Windows that are arranged -/

/-- How the windows of a session go with its layout, whatever becomes of them in the engine. -/
structure Session.Arranged (session : Session) : Prop where
  layout : ∃ rows cols sides strip, Layout.allocate rows cols sides strip = .ok session.layout
  nodup : session.windows.all.Nodup
  count : session.windows.reserved.length = session.layout.reserved.length
  strip : session.windows.strip.isSome = session.layout.stripTop.isSome

namespace Session.Arranged

variable {session : Session} {l : Layout}

/-- A layout for the same sides and the same strip has lines and a strip for the same windows. -/
theorem suits (h : session.Arranged)
    (hl : ∃ rows cols, Layout.allocate rows cols session.layout.sides session.layout.strip = .ok l) :
    session.windows.reserved.length = l.reserved.length ∧
      session.windows.strip.isSome = l.stripTop.isSome := by
  obtain ⟨rows, cols, hl⟩ := hl
  obtain ⟨_, _, _, _, hold⟩ := h.layout
  have hallocated := Layout.of_allocate hl
  have hbefore := Layout.of_allocate hold
  constructor
  · rw [hallocated.length_reserved, Layout.sides, List.length_map, h.count]
  · rw [hallocated.isSome_stripTop, hbefore.placement, ← hbefore.isSome_stripTop, h.strip]

theorem resized (h : session.Arranged)
    (hl : ∃ rows cols, Layout.allocate rows cols session.layout.sides session.layout.strip = .ok l) :
    Session.Arranged { session with layout := l, resized := false } := by
  obtain ⟨hcount, hstrip⟩ := h.suits hl
  obtain ⟨rows, cols, hl⟩ := hl
  exact ⟨⟨rows, cols, _, _, hl⟩, h.nodup, hcount, hstrip⟩

theorem created {i : Interior Buffers} {first : WindowId}
    (hl : ∃ rows cols, i.allocate rows cols = .ok session.layout)
    (hwindows : session.windows = session.layout.numbered first) : session.Arranged := by
  obtain ⟨rows, cols, hl⟩ := hl
  refine ⟨⟨rows, cols, _, _, hl⟩, ?_, ?_, ?_⟩ <;> rw [hwindows]
  · exact session.layout.nodup_all_numbered first
  · exact length_numberLines ..
  · simp [Layout.numbered, Layout.stripArea?]

end Session.Arranged

namespace Life

/-- The windows of the session, if there is one, are arranged. -/
def Orderly {T : Type} (r : Life T Buffers) : Prop :=
  ∀ session, r.screen.session = some session → session.Arranged

theorem Moved.orderly {T : Type} {R : Rule} {r r' : Life T Buffers} (h : Moved R r r')
    (hc : Coherent r.screen.interior) (hr : Orderly r) : Orderly r' := by
  intro session' hs'
  cases h with
  | quiet hsession =>
    rcases of_map_arrangement hsession with ⟨hnone, -⟩ |
      ⟨_, session, hs'', hs, -, hlayout, hwindows⟩
    · cases hnone.symm.trans hs'
    · cases hs''.symm.trans hs'
      obtain ⟨hl, hnodup, hcount, hstrip⟩ := hr session hs
      rw [← hlayout] at hl hcount hstrip
      rw [← hwindows] at hnodup hcount hstrip
      exact ⟨hl, hnodup, hcount, hstrip⟩
  | @broken session l done labels cause hphase hs hperformed hlabels hr' =>
    cases (congrArg Interior.session hr').symm.trans hs'
    obtain ⟨hl, hnodup, hcount, hstrip⟩ := hr session hs
    exact ⟨hl, hnodup, hcount, hstrip⟩
  | @resized session l hphase hs hl hperformed hserved hr' =>
    cases (congrArg Interior.session hr').symm.trans hs'
    exact (hr session hs).resized hl
  | ended hr' =>
    have hended : r.screen.interior.ended.session = none := by
      rw [Interior.ended]
      split
      · assumption
      · rfl
    cases hended.symm.trans ((congrArg Interior.session hr').symm.trans hs')
  | unbuilt hphase hr' =>
    cases (hc.session_cleared hphase).symm.trans ((congrArg Interior.session hr').symm.trans hs')
  | @created session hphase hl hreserve hwindows hconsistent hserved hinit hr' =>
    cases (congrArg Interior.session hr').symm.trans hs'
    exact .created hl hwindows

variable {T : Type} [Terminal T]

/-- In any life the windows of a session are arranged. -/
theorem orderly_moves {terminal : T} {engine : Buffers} {config : Config} {s : Screen T Buffers}
    (h : Screen.new terminal engine config = .ok s) (ms : List (Move T Buffers)) :
    Orderly (moves ⟨s, []⟩ ms) := by
  have hsession : s.session = none := congrArg Interior.session (Screen.interior_new h)
  have hnew : Orderly ⟨s, []⟩ := fun session hs => by cases hsession.symm.trans hs
  refine ((obeys_anything ⟨s, []⟩ ms).preserves
    (P := fun r => Coherent r.screen.interior ∧ Orderly r)
    (fun _ _ hallows hr => ?_) ⟨coherent_new h, hnew⟩).2
  have hmoved := moved_of_allows hallows
  exact ⟨hmoved.coherent hr.1, hmoved.orderly hr.1 hr.2⟩

end Life

/-! ## Windows of a session that are rearranged -/

/-- The windows of a session in another layout, with all that is seen to be drawn again. -/
structure Redrawn (windows : WindowSet) (l : Layout) (b b' : Buffers) : Prop where
  display : b.Regrown b' windows.display l.usableRows l.usableCols
  line : ∀ w ∈ windows.reserved, b.Regrown b' w.window 1 l.terminalCols
  wiped : asksForClear b' windows.physical = true
  dirty : ∀ id ∈ windows.visible, ∀ row, b'.isDirty id row = true

namespace WindowSet

variable {windows : WindowSet} {l : Layout} {labels : SoftLabels} {b b' : Buffers}

theorem exists_line (hcount : windows.reserved.length = l.reserved.length) {w : ReservedWindow}
    (hw : w ∈ windows.reserved) : ∃ line, (w, line) ∈ windows.reserved.zip l.reserved := by
  obtain ⟨i, hi, rfl⟩ := List.mem_iff_getElem.mp hw
  have hzip : i < (windows.reserved.zip l.reserved).length := by
    rw [List.length_zip]
    omega
  refine ⟨l.reserved[i], List.mem_iff_getElem.mpr ⟨i, hzip, List.getElem_zip⟩⟩

theorem exists_stripPlace? (hstrip : windows.strip.isSome = l.stripTop.isSome) {id : WindowId}
    (hid : windows.strip = some id) : ∃ area, windows.stripPlace? l = some (id, area) := by
  rw [hid, Option.isSome_some, eq_comm, Option.isSome_iff_exists] at hstrip
  obtain ⟨top, htop⟩ := hstrip
  exact ⟨_, by rw [stripPlace?, hid, Layout.stripArea?, htop]; rfl⟩

/-- Windows that are told something exist, if all of it has been done. -/
theorem live_of_addressed {es : List (WindowId × Edit)} {id : WindowId} {e : Edit} {es' : List Edit}
    (h : exec (Buffers.performing es) b = (.ok (), b'))
    (haddressed : Buffers.addressed id es = e :: es') : (b.window? id).isSome := by
  have hmem : e ∈ Buffers.addressed id es := haddressed ▸ .head _
  obtain ⟨p, hp, he⟩ := List.mem_filterMap.mp hmem
  split at he
  · rename_i hid
    exact hid ▸ Buffers.live_of_performing h p hp
  · cases he

theorem redrawn_of_performing (hdistinct : windows.Distinct) (hlabels : labels.window = windows.strip)
    (hcount : windows.reserved.length = l.reserved.length)
    (hstrip : windows.strip.isSome = l.stripTop.isSome)
    (h : exec (Buffers.performing (windows.rearrangement l labels)) b = (.ok (), b')) :
    Redrawn windows l b b' := by
  have hb' := Buffers.of_performing_ok h
  have hdisplay := addressed_display (l := l) hdistinct hlabels
  have hline {w : ReservedWindow} (hw : w ∈ windows.reserved) :
      ∃ top, Buffers.addressed w.window (windows.rearrangement l labels) =
        [.resize 1 l.terminalCols, .move top 0] := by
    obtain ⟨line, hmem⟩ := exists_line hcount hw
    exact ⟨_, addressed_line hdistinct hlabels hmem⟩
  subst hb'
  constructor
  case display =>
    exact Buffers.regrown_changeAll (live_of_addressed h hdisplay) hdisplay
      fun w => w.lines_move l.displayTop 0
  case line =>
    intro w hw
    obtain ⟨top, haddressed⟩ := hline hw
    exact Buffers.regrown_changeAll (live_of_addressed h haddressed) haddressed
      fun w => w.lines_move top 0
  case wiped =>
    have hmem := windows.setClear_mem_rearrangement l labels
    exact Buffers.asksForClear_changeAll_of_clear (fun p => ne_setClear_of_mem_rearrangement)
      (.inr ⟨hmem, Buffers.live_of_performing h _ hmem⟩)
  case dirty =>
    intro id hid row
    have hdirty {rows cols : Nat} {es' : List Edit}
        (haddressed : Buffers.addressed id (windows.rearrangement l labels) =
          .resize rows cols :: es') (hes : ∀ e ∈ es', e ≠ .markClean) :=
      Buffers.isDirty_changeAll_of_resize (live_of_addressed h haddressed) haddressed hes row
    simp only [visible, List.mem_append, List.mem_map, List.mem_singleton, Option.mem_toList] at hid
    rcases hid with (⟨w, hw, rfl⟩ | rfl) | hid
    · obtain ⟨top, haddressed⟩ := hline hw
      exact hdirty haddressed (by simp)
    · exact hdirty hdisplay (by simp)
    · obtain ⟨area, hplace⟩ := exists_stripPlace? hstrip hid
      refine hdirty (addressed_strip hdistinct hlabels hplace) fun e he => ?_
      rcases List.mem_cons.mp he with rfl | he
      · simp
      · exact Life.ne_markClean_of_isWriting (SoftLabels.isWriting_of_mem_drawn he)

/-- The last frame is forgotten with the attributes that its window erases with. -/
theorem blanked_of_performing (hdistinct : windows.Distinct)
    (hlabels : labels.window = windows.strip) {attrs : Attrs}
    (hattrs : ∀ w, b.window? windows.snapshot = some w → w.attrs = attrs)
    (h : exec (Buffers.performing (windows.rearrangement l labels)) b = (.ok (), b')) :
    b'.Blanked windows.snapshot l.terminalRows l.terminalCols attrs := by
  have hsnapshot := addressed_snapshot (l := l) hdistinct hlabels
  obtain ⟨w, hw⟩ := Option.isSome_iff_exists.mp (live_of_addressed h hsnapshot)
  refine ⟨w.edits [.resize l.terminalRows l.terminalCols, .erase], ?_, ?_⟩
  · rw [Buffers.of_performing_ok h, Buffers.window?_changeAll, hw, hsnapshot]
    rfl
  · rw [← hattrs w hw]
    exact w.blanked_resize_erase _ _

end WindowSet

namespace Life

variable {T : Type} [Terminal T] {r : Life T Buffers} {m : Move T Buffers} {windows : WindowSet}
  {b : Buffers}

/-! ## The last frame -/

/-- The application leaves the last frame alone. -/
def sparesSnapshot : Conduct := fun windows b b' =>
  b'.window? windows.snapshot = b.window? windows.snapshot

/-- The window of the last frame erases with attributes that no application draws with. -/
structure Marked (windows : WindowSet) (b : Buffers) : Prop where
  distinct : windows.Distinct
  attrs : ∀ w, b.window? windows.snapshot = some w → w.attrs = .sentinel

theorem Marked.congr {b' : Buffers} (h : Marked windows b)
    (hwindow : b'.window? windows.snapshot = b.window? windows.snapshot) : Marked windows b' :=
  ⟨h.distinct, fun w hw => h.attrs w (hwindow ▸ hw)⟩

theorem marked_built (i : Interior Buffers) (l : Layout) :
    Marked (l.numbered i.engine.slots.size) (i.built l).engine where
  distinct := WindowSet.distinct_of_nodup (l.nodup_all_numbered _)
  attrs w hw := by
    have hsnapshot : (l.numbered i.engine.slots.size).snapshot = i.engine.slots.size + 1 := rfl
    rw [hsnapshot, window?_built] at hw
    cases hw
    rfl

/-- Windows that are not told anything stay. -/
theorem Marked.changeAll (h : Marked windows b) {es : List (WindowId × Edit)}
    (hes : ∀ p ∈ es, p.1 ≠ windows.snapshot) : Marked windows (b.changeAll es) := by
  refine h.congr ?_
  rw [Buffers.window?_changeAll, Buffers.addressed_eq_nil hes]
  exact Option.map_id'

theorem Touched.marked (h : Touched sparesSnapshot r m windows true b)
    (hlabels : r.screen.labels.window = windows.strip) (hold : Marked windows r.screen.engine) :
    Marked windows b := by
  cases h with
  | acted _ h => exact hold.congr h
  | drawn _ h =>
    refine hold.changeAll fun p hp => ?_
    exact (hold.distinct.strip p.1 (h p hp).1).2.2.2
  | resumed =>
    refine hold.changeAll fun p hp => ?_
    cases List.mem_singleton.mp hp
    exact hold.distinct.physical
  | @rearranged l =>
    refine ⟨hold.distinct, fun w' hw' => ?_⟩
    rw [Buffers.window?_changeAll, WindowSet.addressed_snapshot hold.distinct hlabels] at hw'
    obtain ⟨w, hw, rfl⟩ := Option.map_eq_some_iff.mp hw'
    exact hold.attrs w hw
  | broken _ h => cases h

theorem marked_move (hc : Coherent r.screen.interior) (hpermits : Permits sparesSnapshot r m)
    (hr : Holds Marked r) : Holds Marked (r.move m) := by
  intro session' hs' hconsistent
  by_cases hnew : Begins r m
  · obtain ⟨session, hs, hwindows, hspares⟩ := of_begins hnew hpermits
    cases hs.symm.trans hs'
    rw [hwindows] at hspares ⊢
    exact (marked_built ..).congr hspares
  · obtain ⟨session, hs, hwindows, hbefore, htouched⟩ := lasts_move hc hpermits hnew hs'
    rw [hconsistent] at htouched
    rw [hwindows]
    exact htouched.marked (hc.window hs) (hr session hs (hbefore hconsistent))

theorem marked_moves {terminal : T} {engine : Buffers} {config : Config} {s : Screen T Buffers}
    (h : Screen.new terminal engine config = .ok s) {ms : List (Move T Buffers)}
    (hconducts : Conducts sparesSnapshot ⟨s, []⟩ ms) : Holds Marked (moves ⟨s, []⟩ ms) := by
  have hsession : s.session = none := congrArg Interior.session (Screen.interior_new h)
  have hnew : Holds Marked ⟨s, []⟩ := fun session hs => by cases hsession.symm.trans hs
  exact (hconducts.preserves (I := fun r => Coherent r.screen.interior ∧ Holds Marked r)
    (fun r m hm hr => ⟨hr.1.move m, marked_move hr.1 hm hr.2⟩) ⟨coherent_new h, hnew⟩).2

/-! ## A resize -/

/-- What a resize that succeeds does to the session, and that it goes through all its edits. -/
theorem of_resize_ok {s s' : Screen T Buffers} {rows cols : Nat}
    (h : exec (Call.resize rows cols).action s = (.ok (), s')) :
    ∃ session l, s.phase = .alive ∧ s.session = some session ∧
      (∃ rows cols,
        Layout.allocate rows cols session.layout.sides session.layout.strip = .ok l) ∧
      exec (Buffers.performing (session.windows.rearrangement l s.labels)) s.engine =
        (.ok (), s'.engine) ∧
      s'.session = some { session with layout := l, resized := false } := by
  have hturned := (Call.resize rows cols).turned h
  generalize hi : s'.interior = i at hturned
  cases hturned with
  | @resized _ _ session l hphase hs hl hperformed =>
    have hengine := congrArg Interior.engine hi
    dsimp only [Screen.interior] at hengine
    rw [← hengine] at hperformed
    exact ⟨session, l, hphase, hs, hl, hperformed, congrArg Interior.session hi⟩

/-- **A resize keeps the contents and has all drawn again.** In any life, a resize that succeeds
changes nothing of the session but its layout, which has the same lines in the same order and the
same strip, and that it may be out of date. Display and lines keep the cells that both sizes have,
the others are blank; all that is seen is to be drawn, on a terminal that is wiped. If the
application has left the last frame alone, nothing of it remains. -/
theorem resize_redraws {terminal : T} {engine : Buffers} {config : Config} {s s' : Screen T Buffers}
    (h : Screen.new terminal engine config = .ok s) {ms : List (Move T Buffers)} {rows cols : Nat}
    (hresize : exec (Call.resize rows cols).action (moves ⟨s, []⟩ ms).screen = (.ok (), s')) :
    let before := (moves ⟨s, []⟩ ms).screen
    ∃ session l, before.session = some session ∧
      s'.session = some { session with layout := l, resized := false } ∧
      l.sides = session.layout.sides ∧ l.strip = session.layout.strip ∧ s'.isResized = false ∧
      Redrawn session.windows l before.engine s'.engine ∧
      (Conducts sparesSnapshot ⟨s, []⟩ ms → s'.engine.Blanked session.windows.snapshot
        l.terminalRows l.terminalCols .sentinel) := by
  obtain ⟨session, l, hphase, hs, hl, hperformed, hs'⟩ := of_resize_ok hresize
  have hc := coherent_moves h ms
  have harranged := orderly_moves h ms session hs
  obtain ⟨hcount, hstrip⟩ := harranged.suits hl
  have hdistinct := WindowSet.distinct_of_nodup harranged.nodup
  have hlabels : (moves ⟨s, []⟩ ms).screen.labels.window = session.windows.strip := hc.window hs
  have hredrawn := WindowSet.redrawn_of_performing hdistinct hlabels hcount hstrip hperformed
  obtain ⟨_, _, hl⟩ := hl
  refine ⟨session, l, hs, hs', Layout.sides_of_allocate hl, (Layout.of_allocate hl).placement,
    by rw [Screen.isResized, hs']; rfl, hredrawn, fun hconducts => ?_⟩
  have hmarked := marked_moves h hconducts session hs (hc.alive hphase session hs)
  exact WindowSet.blanked_of_performing hdistinct hlabels hmarked.attrs hperformed

/-- A session with a line at the top. -/
def heading : List (Move Headless Buffers) :=
  [.call (.reserveLine .top fun b _ _ => b), .call (.create [])]

/-- Text is written into the line and into the display, window 3, before the terminal changes. -/
def wording : List (Move Headless Buffers) :=
  heading ++
  [.engine fun b => b.changeAll [(2, .putText 0 1 "title"), (3, .putText 1 2 "text")],
    .terminal ({ · with rows := 5, cols := 5 })]

theorem conducts_wording : Conducts sparesSnapshot ⟨seven, []⟩ wording := by
  have hstill : Closed fun _ b b' => b' = b := ⟨fun _ _ => rfl, fun h h' => h'.trans h⟩
  have hheading : Conducts sparesSnapshot ⟨seven, []⟩ heading := by
    refine conducts_of_obeys (fun windows b b' h => ?_)
      (obeys_of_confines hstill (List.forall_mem_nil _) ?_)
    · rw [h]
      rfl
    · simp [heading, Confines, ConfinesInit]
  have hsnapshot : (moves ⟨seven, []⟩ heading).screen.session.map (·.windows.snapshot) =
      some 1 := by
    decide +kernel
  refine throughout_append.mpr ⟨hheading, fun session hs => ?_, trivial, trivial⟩
  rw [hs, Option.map_some, Option.some.injEq] at hsnapshot
  rw [sparesSnapshot, hsnapshot, Buffers.window?_changeAll, Buffers.addressed_eq_nil (by simp)]
  exact Option.map_id'

/-- The display loses columns and rows, and with them the end of the text. -/
theorem wording_redrawn :
    ∃ s', exec (Call.resize 0 0).action (moves ⟨seven, []⟩ wording).screen = (.ok (), s') ∧
      s'.isResized = false ∧ s'.engine.Blanked 1 5 5 .sentinel ∧
      (moves ⟨seven, []⟩ wording).screen.engine.Regrown s'.engine 3 4 5 := by
  have hok : (exec (Call.resize 0 0 : Call Buffers).action
      (moves ⟨seven, []⟩ wording).screen).1 = .ok () := by
    decide +kernel
  have hlayout : (exec (Call.resize 0 0 : Call Buffers).action
      (moves ⟨seven, []⟩ wording).screen).2.session.map (fun session =>
        (session.windows.display, session.windows.snapshot, session.layout.terminalRows,
          session.layout.terminalCols, session.layout.usableRows, session.layout.usableCols)) =
        some (3, 1, 5, 5, 4, 5) := by
    decide +kernel
  rcases hrun : exec (Call.resize 0 0 : Call Buffers).action
    (moves ⟨seven, []⟩ wording).screen with ⟨result, s'⟩
  rw [hrun] at hok hlayout
  obtain rfl : result = .ok () := hok
  obtain ⟨session, l, -, hs', -, -, hresized, hredrawn, hblanked⟩ := resize_redraws new_seven hrun
  dsimp only at hlayout
  rw [hs', Option.map_some, Option.some.injEq] at hlayout
  simp only [Prod.mk.injEq] at hlayout
  obtain ⟨hdisplay, hsnapshot, hrows, hcols, husableRows, husableCols⟩ := hlayout
  have hlast := hblanked conducts_wording
  have hkept := hredrawn.display
  rw [hsnapshot, hrows, hcols] at hlast
  rw [hdisplay, husableRows, husableCols] at hkept
  exact ⟨s', rfl, hresized, hlast, hkept⟩

end Life

end TerminalSession
