import TerminalSession.Proofs.Screen.LaidOut
import TerminalSession.Proofs.Screen.Life

/-!
# Windows that fit their layout

As long as the application leaves the windows of a session in their places, a consistent session has
exactly the windows that its layout says, and its layout is the one for the reserved lines and the
strip that were asked for. Creating a session and resizing it come to the same here.
-/

namespace TerminalSession.Life

open TerminalSession.Action

/-- The application gives no window of the session another size or another place. -/
def keepsPlaces : Rule := fun ids b b' => ∀ id ∈ ids, b'.geometry? id = b.geometry? id

/-- The layout of a session is that of the lines registered for it, and its windows are laid out. -/
structure Fitted (i : Interior Buffers) (sides : List Side) (session : Session) : Prop where
  layout : Layout.allocate session.layout.terminalRows session.layout.terminalCols sides
    (i.config.stripPlacement i.labels.lineCount) = .ok session.layout
  laidOut : session.windows.LaidOut session.layout i.engine

/-- A layout is what its own size allocates. -/
theorem allocate_of_allocate {rows cols : Nat} {sides : List Side} {strip : StripPlacement}
    {l : Layout} (h : Layout.allocate rows cols sides strip = .ok l) :
    Layout.allocate l.terminalRows l.terminalCols sides strip = .ok l := by
  have hallocated := Layout.of_allocate h
  rw [hallocated.terminalRows, hallocated.terminalCols, h]

theorem Fitted.congr {i i' : Interior Buffers} {sides : List Side} {session session' : Session}
    (h : Fitted i sides session) (hconfig : i'.config = i.config)
    (hformat : i'.labels.format = i.labels.format) (hlayout : session'.layout = session.layout)
    (hwindows : session'.windows = session.windows)
    (hplaces : keepsPlaces session.windows.all i.engine i'.engine) : Fitted i' sides session' := by
  refine ⟨?_, ?_⟩
  · rw [hlayout, hconfig, SoftLabels.lineCount_congr hformat]
    exact h.layout
  · rw [hlayout, hwindows]
    exact h.laidOut.congr hplaces

/-- What a rearrangement makes of windows that fit. -/
theorem Fitted.resized {i : Interior Buffers} {sides : List Side} {session : Session} {l : Layout}
    (h : Fitted i sides session) (hnodup : session.windows.all.Nodup)
    (hl : ∃ rows cols, Layout.allocate rows cols session.layout.sides session.layout.strip = .ok l) :
    Fitted { i with
      engine := i.engine.changeAll (session.windows.rearrangement l i.labels)
      labels := session.windows.relabel l i.labels } sides
      { session with layout := l, resized := false } := by
  obtain ⟨rows, cols, hl⟩ := hl
  have hsides := Layout.sides_of_allocate h.layout
  have hold := Layout.of_allocate h.layout
  rw [hsides, hold.placement] at hl
  have hstrip : l.stripTop.isSome = session.layout.stripTop.isSome := by
    rw [(Layout.of_allocate hl).isSome_stripTop, hold.isSome_stripTop]
  have hlaidOut := h.laidOut.rearranged hnodup i.labels
    ((Layout.sides_of_allocate hl).trans hsides.symm) hstrip
  have hlineCount := SoftLabels.lineCount_congr (session.windows.format_relabel l i.labels)
  constructor <;> dsimp only
  · rw [hlineCount]
    exact allocate_of_allocate hl
  · exact hlaidOut

/-- New windows fit, and so they do after the initializers. -/
theorem fitted_built {i : Interior Buffers} {session : Session}
    (hl : ∃ rows cols, i.allocate rows cols = .ok session.layout)
    (hwindows : session.windows = session.layout.numbered i.engine.slots.size)
    {engine : Buffers}
    (hinit : keepsPlaces session.windows.all (i.built session.layout).engine engine) :
    Fitted { i.built session.layout with engine } (i.pending.map Registration.side) session := by
  obtain ⟨rows, cols, hl⟩ := hl
  have hnew := WindowSet.laidOut_addAll (b := i.engine)
    (map_area_newWindows i.config i.labels session.layout)
  rw [← hwindows] at hnew
  refine ⟨?_, hnew.congr hinit⟩
  have hformat := i.labels.format_placed session.layout.terminalCols
    (session.layout.numbered i.engine.slots.size).strip
  dsimp only [Interior.built]
  rw [SoftLabels.lineCount_congr hformat]
  exact allocate_of_allocate hl

/-- What holds of all sessions: their windows are distinct, and fit if the session is consistent. -/
structure Kept {T : Type} (r : Life T Buffers) : Prop where
  waiting : (registered r.log).1 = r.screen.pending.map Registration.side
  nodup : ∀ session, r.screen.session = some session → session.windows.all.Nodup
  fitted : ∀ session, r.screen.session = some session → session.consistent = true →
    Fitted r.screen.interior (registered r.log).2 session

section

variable {T : Type} {r r' : Life T Buffers}

theorem Moved.kept (h : Moved keepsPlaces r r') (hc : Coherent r.screen.interior) (hr : Kept r)
    (hwaiting : (registered r'.log).1 = r'.screen.pending.map Registration.side) : Kept r' := by
  have hof_none (hs : r'.screen.session = none) : Kept r' :=
    ⟨hwaiting, fun session h => by simp [hs] at h, fun session h => by simp [hs] at h⟩
  cases h with
  | quiet hsession hphase hconfig hwindow hformat hserved hengine =>
    rcases of_map_arrangement hsession with ⟨hs', -⟩ |
      ⟨session', session, hs', hs, hconsistent, hlayout, hwindows⟩
    · exact hof_none hs'
    have hplaces : keepsPlaces session.windows.all r.screen.engine r'.screen.engine := by
      have hids := windowIds_of_some (i := r.screen.interior) hs
      rcases hengine with h | ⟨es, hes, h⟩
      · rwa [hids] at h
      · intro id _
        rw [h, Buffers.geometry?_changeAll_of_not_isPlacing hes]
    refine ⟨hwaiting, fun session₁ h => ?_, fun session₁ h hconsistent₁ => ?_⟩
    · cases hs'.symm.trans h
      rw [hwindows]
      exact hr.nodup session hs
    · cases hs'.symm.trans h
      rw [hserved]
      exact (hr.fitted session hs (hconsistent ▸ hconsistent₁)).congr hconfig
        (hformat (by simp [hs])) hlayout hwindows hplaces
  | @broken session l done labels cause hphase hs hperformed hlabels hr' =>
    have hs' := congrArg Interior.session hr'
    refine ⟨hwaiting, fun session₁ h => ?_, fun session₁ h hconsistent₁ => ?_⟩
    · cases hs'.symm.trans h
      exact hr.nodup session hs
    · cases hs'.symm.trans h
      cases hconsistent₁
  | @resized session l hphase hs hl hperformed hserved hr' =>
    have hs' := congrArg Interior.session hr'
    have hnodup := hr.nodup session hs
    refine ⟨hwaiting, fun session₁ h => ?_, fun session₁ h hconsistent₁ => ?_⟩
    · cases hs'.symm.trans h
      exact hnodup
    · cases hs'.symm.trans h
      have hresized := (hr.fitted session hs (hc.alive hphase session hs)).resized hnodup hl
      rw [hserved, hr']
      exact hresized.congr rfl rfl rfl rfl fun _ _ => rfl
  | ended hr' =>
    refine hof_none ((congrArg Interior.session hr').trans ?_)
    rw [Interior.ended]
    split
    · assumption
    · rfl
  | unbuilt hphase hr' =>
    exact hof_none ((congrArg Interior.session hr').trans (hc.session_cleared hphase))
  | @created session hphase hl hreserve hwindows hconsistent hserved hinit hr' =>
    have hs' := congrArg Interior.session hr'
    have hengine := congrArg Interior.engine hr'
    refine ⟨hwaiting, fun session₁ h => ?_, fun session₁ h _ => ?_⟩
    · cases hs'.symm.trans h
      rw [hwindows]
      exact session.layout.nodup_all_numbered _
    · cases hs'.symm.trans h
      have hfitted := fitted_built hl hwindows hinit
      rw [Interior.pending_cleared] at hfitted
      rw [hserved, hr.waiting, hr']
      exact hfitted.congr rfl rfl rfl rfl fun id _ => congrArg (fun b => b.geometry? id) hengine.symm

variable [Terminal T]

theorem kept_moves {terminal : T} {engine : Buffers} {config : Config} {s : Screen T Buffers}
    (h : Screen.new terminal engine config = .ok s) {ms : List (Move T Buffers)}
    (hobeys : Obeys keepsPlaces ⟨s, []⟩ ms) : Kept (moves ⟨s, []⟩ ms) := by
  have hnew : Coherent s.interior ∧ Kept ⟨s, []⟩ := by
    have hs := Screen.interior_new h
    have hsession : s.session = none := congrArg Interior.session hs
    have hpending : s.pending = [] := congrArg Interior.pending hs
    refine ⟨coherent_new h, ?_, ?_, ?_⟩ <;> simp [registered, hsession, hpending]
  refine (hobeys.preserves (P := fun r => Coherent r.screen.interior ∧ Kept r)
    (fun r m hallows hr => ?_) hnew).2
  have hmoved := moved_of_allows hallows
  exact ⟨hmoved.coherent hr.1, hmoved.kept hr.1 hr.2 (waiting_move m hr.2.waiting)⟩

/-- **Windows match the layout.** The layout of a consistent session is what its lines, its strip and
the size of the terminal come to, its windows have the places and sizes of the layout, and those
that are seen tile the terminal. -/
theorem windows_fit {terminal : T} {engine : Buffers} {config : Config} {s : Screen T Buffers}
    (h : Screen.new terminal engine config = .ok s) {ms : List (Move T Buffers)}
    (hobeys : Obeys keepsPlaces ⟨s, []⟩ ms) {session : Session}
    (hs : (moves ⟨s, []⟩ ms).screen.session = some session)
    (hconsistent : session.consistent = true) :
    let r := moves ⟨s, []⟩ ms
    let l := session.layout
    Layout.allocate l.terminalRows l.terminalCols (registered r.log).2
      (r.screen.config.stripPlacement r.screen.labels.lineCount) = .ok l ∧
    session.windows.LaidOut l r.screen.engine ∧
    ∀ row col, session.windows.visible.countP (fun id =>
      (r.screen.engine.geometry? id).any fun area => area.Covers row col) =
        if row < l.terminalRows ∧ col < l.terminalCols then 1 else 0 := by
  have hfitted := (kept_moves h hobeys).fitted session hs hconsistent
  exact ⟨hfitted.layout, hfitted.laidOut, hfitted.laidOut.countP_visible hfitted.layout⟩

theorem closed_keepsPlaces : Closed keepsPlaces :=
  ⟨fun _ _ _ _ => rfl, fun h h' id hid => (h' id hid).trans (h id hid)⟩

/-- A screen on a terminal of seven rows and eight columns. -/
def seven : Screen Headless Buffers where
  terminal := { rows := 7, cols := 8 }
  engine := {}

theorem new_seven : Screen.new { rows := 7, cols := 8 } {} {} = .ok seven := rfl

/-- A session with a line at the top, one at the bottom and a strip, resized and suspended. -/
def reshaping : List (Move Headless Buffers) :=
  [.call (.initLabels 1), .call (.reserveLine .top fun engine _ _ => engine),
    .call (.reserveLine .bottom fun engine _ _ => engine), .call (.create []),
    .terminal ({ · with rows := 9, cols := 5 }), .call (.resize 0 0), .call .suspend]

theorem seven_fit :
    let r := moves ⟨seven, []⟩ reshaping
    Obeys keepsPlaces ⟨seven, []⟩ reshaping ∧
      ∃ session, r.screen.session = some session ∧ session.consistent = true ∧
        session.layout.terminalRows = 9 ∧ session.layout.terminalCols = 5 ∧
        session.windows.LaidOut session.layout r.screen.engine ∧
        ∀ row col, session.windows.visible.countP (fun id =>
          (r.screen.engine.geometry? id).any fun area => area.Covers row col) =
            if row < 9 ∧ col < 5 then 1 else 0 := by
  have hobeys : Obeys keepsPlaces ⟨seven, []⟩ reshaping := by
    refine obeys_of_confines closed_keepsPlaces (List.forall_mem_nil _) ?_
    simp [reshaping, Confines, ConfinesInit, keepsPlaces]
  have hsize : (moves ⟨seven, []⟩ reshaping).screen.session.map (fun session =>
      (session.consistent, session.layout.terminalRows, session.layout.terminalCols)) =
      some (true, 9, 5) := by
    decide +kernel
  obtain ⟨session, hs, hsize⟩ := Option.map_eq_some_iff.mp hsize
  simp only [Prod.mk.injEq] at hsize
  obtain ⟨hconsistent, hrows, hcols⟩ := hsize
  obtain ⟨-, hlaidOut, htiles⟩ := windows_fit new_seven hobeys hs hconsistent
  rw [hrows, hcols] at htiles
  exact ⟨hobeys, session, hs, hconsistent, hrows, hcols, hlaidOut, htiles⟩

end

end TerminalSession.Life
