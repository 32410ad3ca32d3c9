import TerminalSession.Proofs.Screen.Call
import TerminalSession.Proofs.Screen.Rearranging

/-!
# What a call does inside a screen

`Turned` has a case for every way in which a call can turn out, with the interior that is left. The
conditions under which a call is refused are stated as far as they can be told from before the call.
-/

namespace TerminalSession

open TerminalSession.Action

/-! ## The interior of a session -/

/-- Runs initializers on an engine, each with its own window. -/
def initialized {E : Type} (pending : List (Registration E)) (windows : List ReservedWindow)
    (cols : Nat) (engine : E) : E :=
  (pending.zip windows).foldl
    (fun engine (registration, reserved) => registration.init engine reserved.window cols) engine

namespace Interior

/-- A layout of a terminal for the next session. -/
def allocate (i : Interior Buffers) (rows cols : Nat) : Except LayoutError Layout :=
  Layout.allocate rows cols (i.pending.map Registration.side)
    (i.config.stripPlacement i.labels.lineCount)

/-- The interior of a screen once the windows for a layout have been made. -/
def built (i : Interior Buffers) (l : Layout) : Interior Buffers :=
  { i with
    engine := i.engine.addAll (newWindows i.config i.labels l)
    labels := i.labels.placed l.terminalCols (l.numbered i.engine.slots.size).strip }

/-- The windows made for a layout are those with its ids. -/
theorem isSome_window?_built (i : Interior Buffers) (l : Layout) (id : WindowId) :
    ((i.built l).engine.window? id).isSome ↔
      (i.engine.window? id).isSome ∨ id ∈ (l.numbered i.engine.slots.size).all := by
  rw [Layout.mem_all_numbered, ← length_newWindows i.config i.labels]
  exact Buffers.isSome_window?_addAll ..

/-- The layout that comes of a terminal of so many rows and columns, if there is room for the
windows. -/
def plan (i : Interior Buffers) (size : Nat × Nat) : Except ScreenError Layout :=
  match i.allocate size.1 size.2 with
  | .error cause => .error (.ofLayout cause)
  | .ok l => match Buffers.reserveAll i.engine.budget i.engine.inUse l.areas with
    | .error cause => .error (.bufferAllocation cause)
    | .ok () => .ok l

theorem of_plan_ok {i : Interior Buffers} {size : Nat × Nat} {l : Layout} (h : i.plan size = .ok l) :
    i.allocate size.1 size.2 = .ok l ∧
      Buffers.reserveAll i.engine.budget i.engine.inUse l.areas = .ok () := by
  rw [plan] at h
  split at h
  · cases h
  · rename_i hl
    split at h <;> cases h
    exact ⟨hl, by assumption⟩

/-- The interior of a screen once a session has begun. -/
def begun (i : Interior Buffers) (session : Session) : Interior Buffers :=
  { i with
    engine := initialized i.pending session.windows.reserved session.layout.terminalCols i.engine
    pending := []
    session := some session
    phase := .alive }

end Interior

namespace Screen

variable {T : Type} [Terminal T] {s s' : Screen T Buffers}

/-- What comes of a request for a size, if there is any. -/
def Granted (rows cols : Nat) (t : T) : Prop :=
  (rows = 0 ∧ cols = 0) ∨
    (2 ≤ rows ∧ 2 ≤ cols ∧ (exec (Terminal.resize rows cols) t).1 = .ok ())

/-- A screen whose session, if it was suspended, has been destroyed. -/
def vacated (s : Screen T Buffers) : Screen T Buffers :=
  if s.phase = .suspended then (exec (destroy : Action _ ScreenError Unit) s).2 else s

theorem interior_vacated (s : Screen T Buffers) : s.vacated.interior = s.interior.cleared := by
  by_cases h : s.phase = .suspended
  · rw [vacated, if_pos h, Interior.cleared_of_suspended h, interior_destroy]
  · rw [vacated, if_neg h, Interior.cleared_of_ne h]

/-- The screen that a session is created on. -/
def atCreate (s : Screen T Buffers) : Screen T Buffers :=
  vacated { s with events := s.events.push .creating }

theorem interior_atCreate (s : Screen T Buffers) : s.atCreate.interior = s.interior.cleared :=
  interior_vacated _

/-- Takes the terminal over and finds out its size. -/
def enter (args : List String) : Action (Screen T Buffers) ScreenError (Nat × Nat) := do
  (onTerminal (Terminal.acquire args)).mapError .platformOpen
  measure

/-- The layout of the session that a create begins, or why it begins none. -/
def prospect (args : List String) (s : Screen T Buffers) : Except ScreenError Layout :=
  (exec (enter args) s.atCreate).1 >>= s.interior.cleared.plan

theorem of_prospect_ok {args : List String} {l : Layout} (h : s.prospect args = .ok l) :
    (∃ rows cols, s.interior.cleared.allocate rows cols = .ok l) ∧
      Buffers.reserveAll s.interior.cleared.engine.budget s.interior.cleared.engine.inUse l.areas =
        .ok () := by
  rw [prospect] at h
  rcases hsize : (exec (enter args) s.atCreate).1 with _ | size
  all_goals rw [hsize] at h
  · cases h
  · obtain ⟨hl, hreserve⟩ := Interior.of_plan_ok h
    exact ⟨⟨_, _, hl⟩, hreserve⟩

/-- The ways in which a call can turn out. -/
inductive Turned (s : Screen T Buffers) :
    Call Buffers → Except ScreenError Unit → Interior Buffers → Prop
  | lineRefused {side : Side} {init : Buffers → WindowId → Nat → Buffers}
    (h : maxReservedLines ≤ s.pending.length) :
    Turned s (.reserveLine side init) (.error .tooManyReservedLines) s.interior
  | lineReserved {side : Side} {init : Buffers → WindowId → Nat → Buffers} :
    Turned s (.reserveLine side init) (.ok ())
      { s.interior with pending := s.pending ++ [⟨side, init⟩] }
  | labelsRefused {code : UInt8} {cause : ScreenError} :
    Turned s (.initLabels code) (.error cause) s.interior
  | labelsChosen {code : UInt8} {labels : SoftLabels} (hs : s.session = none)
    (h : s.labels.init code = .ok labels) :
    Turned s (.initLabels code) (.ok ()) { s.interior with labels }
  | labelRefused {index : Nat} {text : String} {justify : Justify} {cause : LabelError} :
    Turned s (.setLabel index text justify) (.error (.softLabels cause)) s.interior
  | labelKept {index : Nat} {text : String} {justify : Justify} {labels : SoftLabels}
    (hs : s.session = none) (h : s.labels.setLabel index text justify = .ok labels) :
    Turned s (.setLabel index text justify) (.ok ()) { s.interior with labels }
  | labelDrawn {index : Nat} {text : String} {justify : Justify} {labels : SoftLabels}
    (hs : s.session ≠ none) (h : s.labels.setLabel index text justify = .ok labels) :
    Turned s (.setLabel index text justify) (.ok ())
      { s.interior with labels, engine := s.engine.changeAll labels.redrawn }
  | labelNotDrawn {index : Nat} {text : String} {justify : Justify} {labels : SoftLabels}
    {id : WindowId} (hs : s.session ≠ none) (h : s.labels.setLabel index text justify = .ok labels)
    (hwindow : labels.window = some id) (hgone : s.engine.window? id = none) :
    Turned s (.setLabel index text justify) (.error (.bufferAllocation (.unknownWindow id)))
      { s.interior with labels }
  | resizeReported :
    Turned s .reportResize (.ok ())
      { s.interior with session := s.session.map ({ · with resized := true }) }
  | suspendRefused (h : s.phase ≠ .alive) :
    Turned s .suspend (.error .noActiveSession) s.interior
  | suspended (h : s.phase = .alive) :
    Turned s .suspend (.ok ())
      { s.interior with
        session := s.session.map ({ · with alive := false }), phase := .suspended }
  | resumeRefused {cause : ScreenError} (h : s.phase ≠ .alive) :
    Turned s .resume (.error cause) s.interior
  | resumeNeedless (h : s.phase = .alive) : Turned s .resume (.ok ()) s.interior
  | resumed {session : Session} (h : s.phase = .suspended) (hs : s.session = some session)
    (hconsistent : session.consistent = true) :
    Turned s .resume (.ok ())
      { s.interior with
        engine := s.engine.modifyWindow session.windows.physical (·.edit (.setClear true))
        session := some { session with alive := true }
        phase := .alive }
  | resizeRefused {rows cols : Nat} {cause : ScreenError}
    (h : s.phase ≠ .alive ∨ s.session = none ∨ ¬ Granted rows cols s.terminal) :
    Turned s (.resize rows cols) (.error cause) s.interior
  | notLaidOut {rows cols : Nat} {cause : ScreenError} {session : Session}
    (h : s.phase = .alive) (hs : s.session = some session) (hgranted : Granted rows cols s.terminal)
    (hcause : SizeError cause) :
    Turned s (.resize rows cols) (.error cause)
      { s.interior with session := some { session with resized := true } }
  | broken {rows cols : Nat} {cause : WindowError} {session : Session} {l : Layout}
    {done : List (WindowId × Edit)} {labels : SoftLabels} (h : s.phase = .alive)
    (hs : s.session = some session) (hgranted : Granted rows cols s.terminal)
    (hl : ∃ rows cols,
      Layout.allocate rows cols session.layout.sides session.layout.strip = .ok l)
    (hdone : done <+: session.windows.rearrangement l s.labels)
    (hperformed : exec (Buffers.performing (session.windows.rearrangement l s.labels)) s.engine =
      (.error cause, s.engine.changeAll done))
    (hlabels : labels = s.labels ∨ labels = session.windows.relabel l s.labels) :
    Turned s (.resize rows cols) (.error (.bufferAllocation cause))
      { s.interior with
        engine := s.engine.changeAll done
        labels
        session := some { session with alive := false, consistent := false }
        phase := .suspended }
  | resized {rows cols : Nat} {session : Session} {l : Layout} (h : s.phase = .alive)
    (hs : s.session = some session)
    (hl : ∃ rows cols,
      Layout.allocate rows cols session.layout.sides session.layout.strip = .ok l)
    (hperformed : exec (Buffers.performing (session.windows.rearrangement l s.labels)) s.engine =
      (.ok (), s.engine.changeAll (session.windows.rearrangement l s.labels))) :
    Turned s (.resize rows cols) (.ok ())
      { s.interior with
        engine := s.engine.changeAll (session.windows.rearrangement l s.labels)
        labels := session.windows.relabel l s.labels
        session := some { session with layout := l, resized := false } }
  | destroyed : Turned s .destroy (.ok ()) s.interior.ended
  | createRefused {args : List String} (h : s.phase = .alive) :
    Turned s (.create args) (.error .alreadyActive) s.interior
  | notOpened {args : List String} {cause : TerminalError} (h : s.phase ≠ .alive)
    (hopening : (exec (Terminal.acquire args) s.atCreate.terminal).1 = .error cause)
    (hprospect : s.prospect args = .error (.platformOpen cause)) :
    Turned s (.create args) (.error (.platformOpen cause)) s.interior.cleared
  | notBuilt {args : List String} {cause : ScreenError} {count : Nat} (h : s.phase ≠ .alive)
    (hopening : (exec (Terminal.acquire args) s.atCreate.terminal).1 = .ok ())
    (hprospect : s.prospect args = .error cause) (hcause : BuildError cause) :
    Turned s (.create args) (.error cause)
      { s.interior.cleared with
        engine := s.interior.cleared.engine.bury count, phase := .uncreated }
  | created {args : List String} {session : Session} (h : s.phase ≠ .alive)
    (hprospect : s.prospect args = .ok session.layout)
    (hwindows : session.windows = session.layout.numbered s.interior.cleared.engine.slots.size)
    (halive : session.alive = true) (hconsistent : session.consistent = true)
    (hresized : session.resized = false) :
    Turned s (.create args) (.ok ())
      ((s.interior.cleared.built session.layout).begun session)

variable {r : Except ScreenError Unit}

/-! ## Lines and labels -/

omit [Terminal T] in
theorem of_drawLabels {r : Except WindowError Unit} (h : exec drawLabels s = (r, s')) :
    (r = .ok () ∧ s' = { s with engine := s.engine.changeAll s.labels.redrawn }) ∨
      ∃ id, s.labels.window = some id ∧ s.engine.window? id = none ∧
        r = .error (.unknownWindow id) ∧ s' = s := by
  rw [drawLabels, exec_bind_ok (exec_get _), exec_onEngine, SoftLabels.draw_eq] at h
  cases hredrawn : s.labels.redrawn with
  | nil =>
    rw [hredrawn] at h
    cases h
    exact .inl ⟨rfl, rfl⟩
  | cons p es =>
    obtain ⟨id, hwindow, hid⟩ : ∃ id, s.labels.window = some id ∧ ∀ q ∈ p :: es, q.1 = id := by
      rw [← hredrawn]
      exact SoftLabels.of_redrawn_ne_nil (by simp [hredrawn])
    have hnoResize {q : WindowId × Edit} (hq : q ∈ p :: es) : q.2.isResize = false :=
      SoftLabels.not_isResize_of_mem_redrawn (hredrawn ▸ hq)
    rw [hredrawn] at h
    cases hw : s.engine.window? id with
    | some w =>
      rw [Buffers.exec_performing (fun _ => hnoResize)
        (fun q hq => by rw [hid q hq, hw]; rfl)] at h
      cases h
      exact .inl ⟨rfl, rfl⟩
    | none =>
      have hp : p.1 = id := hid p (.head _)
      rw [Buffers.exec_performing_unknown es (hnoResize (.head _)) (by rw [hp, hw]), hp] at h
      cases h
      exact .inr ⟨id, hwindow, hw, rfl, rfl⟩

omit [Terminal T] in
theorem turned_reserveLine {side : Side} {init : Buffers → WindowId → Nat → Buffers}
    (h : exec (reserveLine side init) s = (r, s')) [Terminal T] :
    Turned s (.reserveLine side init) r s'.interior := by
  rw [reserveLine, exec_bind_ok (exec_get _), exec_ite] at h
  split at h
  · rename_i hfull
    cases h
    exact .lineRefused hfull
  · cases h
    exact .lineReserved

theorem turned_initLabels {code : UInt8} (h : exec (initLabels code) s = (r, s')) :
    Turned s (.initLabels code) r s'.interior := by
  rw [initLabels, exec_bind_ok (exec_get _), exec_ite] at h
  split at h
  · cases h
    exact .labelsRefused
  · rename_i hs
    dsimp only at h
    cases hinit : s.labels.init code with
    | error cause =>
      rw [hinit] at h
      cases h
      exact .labelsRefused
    | ok labels =>
      rw [hinit] at h
      cases h
      exact .labelsChosen (by simpa using hs) hinit

theorem turned_setLabel {index : Nat} {text : String} {justify : Justify}
    (h : exec (setLabel index text justify) s = (r, s')) :
    Turned s (.setLabel index text justify) r s'.interior := by
  rw [setLabel, exec_bind_ok (exec_get _)] at h
  dsimp only at h
  cases hset : s.labels.setLabel index text justify with
  | error cause =>
    rw [hset] at h
    cases h
    exact .labelRefused
  | ok labels =>
    rw [hset] at h
    dsimp only at h
    rw [exec_bind_ok (exec_set ..), exec_ite] at h
    split at h
    · rename_i hs
      have hs : s.session ≠ none := by simpa [Option.isSome_iff_ne_none] using hs
      rw [exec_mapError] at h
      rcases hdraw : exec drawLabels { s with labels } with ⟨r', t⟩
      rw [hdraw] at h
      rcases of_drawLabels hdraw with ⟨rfl, rfl⟩ | ⟨id, hwindow, hgone, rfl, rfl⟩
      · cases h
        exact .labelDrawn hs hset
      · cases h
        exact .labelNotDrawn hs hset hwindow hgone
    · rename_i hs
      cases h
      exact .labelKept (by simpa using hs) hset

/-! ## Leaving and returning -/

theorem turned_suspend (h : exec suspend s = (r, s')) : Turned s .suspend r s'.interior := by
  obtain ⟨_, s₀, hreport, h⟩ := (report_fails _).of_bind h
  have hs₀ : s₀.interior = s.interior := (interior_report _).of_exec hreport
  have hphase₀ : s₀.phase = s.phase := congrArg Interior.phase hs₀
  rw [exec_bind_ok (exec_get _), hphase₀] at h
  by_cases hphase : s.phase = .alive
  · simp only [hphase, bne_self_eq_false, Bool.false_eq_true, if_false] at h
    rw [exec_bind_ok (exec_modify ..)] at h
    obtain ⟨_, u, hrelease, h⟩ := releaseTerminal_fails.of_bind h
    have hu : u.interior = s.interior := (interior_releaseTerminal.of_exec hrelease).trans hs₀
    cases h
    change Turned s _ _ { u.interior with
      session := u.interior.session.map ({ · with alive := false }), phase := .suspended }
    rw [hu]
    exact .suspended hphase
  · simp only [bne_iff_ne, ne_eq, hphase, not_false_eq_true, if_true] at h
    cases h
    rw [hs₀]
    exact .suspendRefused hphase

theorem turned_returnTo {session : Session} {t : Screen T Buffers}
    (hphase : s.phase = .suspended) (hs : s.session = some session)
    (hconsistent : session.consistent = true) (ht : t.interior = s.interior)
    (h : exec (returnTo session) t = (r, s')) : Turned s .resume r s'.interior := by
  rw [returnTo, exec_bind] at h
  rcases hreacquire : exec (mapError ScreenError.platformOpen (onTerminal Terminal.reacquire)) t
    with ⟨cause | _, u⟩
  all_goals
    have hu : u.interior = s.interior :=
      ((interior_onTerminal _).mapError _ |>.of_exec hreacquire).trans ht
    rw [hreacquire] at h
  · cases h
    rw [hu]
    exact .resumeRefused (by simp [hphase])
  · obtain ⟨result, hedit⟩ := exec_edit_or session.windows.physical (s := u)
      (e := .setClear true) rfl
    have hdone : s'.interior = { u.interior with
        engine := u.interior.engine.modifyWindow session.windows.physical (·.edit (.setClear true))
        session := some { session with alive := true }
        phase := .alive } ∧ r = .ok () := by
      simp only at h
      rw [exec_bind, exec_attempt, hedit] at h
      cases result <;> cases h <;> exact ⟨rfl, rfl⟩
    rw [hdone.1, hdone.2, hu]
    exact .resumed hphase hs hconsistent

theorem turned_resume (h : exec resume s = (r, s')) : Turned s .resume r s'.interior := by
  rw [resume, exec_bind_ok (exec_report ..), exec_bind_ok (exec_get _)] at h
  dsimp only at h
  split at h
  · cases h
    exact .resumeNeedless ‹_›
  · rename_i session hphase hs
    split at h
    · exact turned_returnTo (t := { s with events := s.events.push .resuming }) hphase hs ‹_› rfl h
    · cases h
      exact .resumeRefused (by simp [hphase])
  · rename_i halive _
    cases h
    exact .resumeRefused halive

theorem turned_destroy (h : exec destroy s = (r, s')) : Turned s .destroy r s'.interior := by
  have hfails : Fails (fun _ => False) (destroy : Action (Screen T Buffers) ScreenError Unit) :=
    destroy_fails
  obtain ⟨_, t, hdone⟩ := hfails.exec_ok s
  have hended : t.interior = _ := (congrArg (·.2.interior) hdone).symm.trans (interior_destroy s)
  rw [hdone] at h
  cases h
  rw [hended]
  exact .destroyed

/-! ## Resizing -/

theorem turned_follow {rows cols : Nat} {session : Session} {t : Screen T Buffers}
    {r : Except ScreenError Session} (hphase : s.phase = .alive) (hs : s.session = some session)
    (hgranted : Granted rows cols s.terminal) (ht : t.interior = s.interior)
    (h : exec (follow session) t = (r, s')) :
    Turned s (.resize rows cols) (r.map fun _ => ()) s'.interior := by
  obtain ⟨a, u, hlayout, h⟩ := (Fails.attempt _).of_bind h
  have hu : u.interior = s.interior := ((interior_relayOut session).attempt.of_exec hlayout).trans ht
  have hlayout : exec (relayOut session) t = (a, u) := by
    simp only [exec_attempt, Prod.mk.injEq, Except.ok.injEq] at hlayout
    exact Prod.ext hlayout.1 hlayout.2
  cases a with
  | error cause =>
    cases h
    change Turned s _ _ { u.interior with
      session := u.interior.session.map ({ · with resized := true }) }
    have hsession : u.interior.session = some session := (congrArg Interior.session hu).trans hs
    rw [hsession, hu]
    exact .notLaidOut hphase hs hgranted (relayOut_fails session t u cause hlayout)
  | ok l =>
    have hl : ∃ rows cols,
        Layout.allocate rows cols session.layout.sides session.layout.strip = .ok l := by
      obtain ⟨⟨rows', cols'⟩, _, -, hlayout⟩ := of_exec_bind_ok hlayout
      refine ⟨rows', cols', ?_⟩
      dsimp only at hlayout
      split at hlayout <;> cases hlayout
      assumption
    obtain ⟨labels, hlabels, hrearrange, hdone⟩ := exec_rearrange session.windows l u
    rcases hperforming : exec (Buffers.performing
      (session.windows.rearrangement l u.labels)) u.engine with ⟨cause | _, b⟩
    all_goals
      have hlabels₀ : u.labels = s.labels := congrArg Interior.labels hu
      have hengine : u.engine = s.engine := congrArg Interior.engine hu
      rw [hperforming] at hrearrange hdone
      rw [hlabels₀] at hlabels hperforming hdone
      rw [hengine] at hperforming
    · obtain ⟨done, hprefix, hb⟩ := Buffers.of_performing_error hperforming
      dsimp only at h
      rw [exec_bind, exec_attempt, hrearrange] at h
      cases h
      change Turned s _ _ { u.interior with
        engine := b, labels, phase := .suspended
        session := some { session with alive := false, consistent := false } }
      rw [hu, hb]
      exact .broken hphase hs hgranted hl hprefix (hb ▸ hperforming) hlabels
    · have hb := Buffers.of_performing_ok hperforming
      dsimp only at h
      rw [exec_bind, exec_attempt, hrearrange] at h
      cases h
      change Turned s _ _ { u.interior with
        engine := b, labels, session := some { session with layout := l, resized := false } }
      rw [hu, hb, hdone rfl]
      exact .resized hphase hs hl (hperforming.trans (congrArg _ hb))

/-- What comes after the request for a size does not depend on whether there was one. -/
theorem turned_follow_session {rows cols : Nat} {t : Screen T Buffers}
    {r : Except ScreenError Session} (hphase : s.phase = .alive)
    (hgranted : Granted rows cols s.terminal) (ht : t.interior = s.interior)
    (h : exec (do
      let some session := (← get).session | throw .noActiveSession
      follow session) t = (r, s')) :
    Turned s (.resize rows cols) (r.map fun _ => ()) s'.interior := by
  have hsession : t.session = s.session := congrArg Interior.session ht
  rw [exec_bind_ok (exec_get t)] at h
  cases hs : t.session with
  | none =>
    simp only [hs] at h
    cases h
    rw [ht]
    exact .resizeRefused (.inr (.inl (hsession.symm.trans hs)))
  | some session =>
    simp only [hs] at h
    exact turned_follow hphase (hsession.symm.trans hs) hgranted ht h

theorem granted_of_requestSize {rows cols : Nat} {t t' : Screen T Buffers}
    (h : exec (requestSize rows cols) t = (.ok (), t')) : Granted rows cols t.terminal := by
  rw [requestSize, exec_ite] at h
  split at h
  · cases h
  · rename_i hsize
    rcases hresize : (exec (Terminal.resize rows cols) t.terminal).1 with cause | _
    all_goals
      have hresult := congrArg Prod.fst h
      change (exec (Terminal.resize rows cols) t.terminal).1.mapError _ = _ at hresult
      rw [hresize] at hresult
    · cases hresult
    · exact .inr ⟨by omega, by omega, hresize⟩

theorem not_granted_of_requestSize {rows cols : Nat} {t t' : Screen T Buffers} {cause : ScreenError}
    (hrequest : rows ≠ 0 ∨ cols ≠ 0) (h : exec (requestSize rows cols) t = (.error cause, t')) :
    ¬ Granted rows cols t.terminal := by
  rintro (⟨hrows, hcols⟩ | ⟨hrows, hcols, hresize⟩)
  · exact hrequest.elim (absurd hrows) (absurd hcols)
  · rw [requestSize, exec_ite, if_neg (by omega)] at h
    have hresult := congrArg Prod.fst h
    change (exec (Terminal.resize rows cols) t.terminal).1.mapError _ = _ at hresult
    rw [hresize] at hresult
    cases hresult

theorem turned_resize {rows cols : Nat} {r : Except ScreenError Session}
    (h : exec (resize rows cols) s = (r, s')) :
    Turned s (.resize rows cols) (r.map fun _ => ()) s'.interior := by
  obtain ⟨_, s₀, hreport, h⟩ := (report_fails _).of_bind h
  have hs₀ : s₀.interior = s.interior := (interior_report _).of_exec hreport
  have hterminal : s₀.terminal = s.terminal := by
    cases hreport
    rfl
  have hphase₀ : s₀.phase = s.phase := congrArg Interior.phase hs₀
  rw [exec_bind_ok (exec_get _), hphase₀] at h
  by_cases hphase : s.phase = .alive
  · simp only [hphase, bne_self_eq_false, Bool.false_eq_true, if_false] at h
    rw [exec_ite] at h
    split at h
    · rename_i hrequest
      rw [exec_bind] at h
      rcases hr : exec (requestSize rows cols) s₀ with ⟨cause | _, t⟩
      all_goals
        rw [hr] at h
        have ht : t.interior = s.interior := ((interior_requestSize _ _).of_exec hr).trans hs₀
      · cases h
        rw [ht]
        exact .resizeRefused (.inr (.inr (hterminal ▸ not_granted_of_requestSize hrequest hr)))
      · exact turned_follow_session hphase (hterminal ▸ granted_of_requestSize hr) ht h
    · rename_i hnone
      exact turned_follow_session hphase (.inl (by omega)) hs₀ h
  · simp only [bne_iff_ne, ne_eq, hphase, not_false_eq_true, if_true] at h
    cases h
    rw [hs₀]
    exact .resizeRefused (.inl hphase)

/-! ## Creating -/

theorem of_begin_interior {layout : Layout} {windows : WindowSet}
    {r : Except ScreenError Session} (h : exec (begin layout windows) s = (r, s')) :
    ∃ session : Session, r = .ok session ∧ session.layout = layout ∧ session.windows = windows ∧
      session.alive = true ∧ session.consistent = true ∧ session.resized = false ∧
      s'.interior = s.interior.begun session := by
  rw [begin, exec_bind_ok (exec_modify ..), exec_bind_ok (exec_get _)] at h
  obtain ⟨_, t, hcursor, h⟩ := shapeCursor_fails.of_bind h
  have ht := interior_shapeCursor.of_exec hcursor
  have hbegun (session : Session) (hlayout : session.layout = layout)
      (hwindows : session.windows = windows) :
      { t.interior with session := some session, phase := .alive } = s.interior.begun session := by
    subst hlayout hwindows
    rw [ht]
    rfl
  cases h
  exact ⟨_, rfl, rfl, rfl, rfl, rfl, rfl, hbegun _ rfl rfl⟩

theorem of_build {t : Screen T Buffers} {r : Except ScreenError (Layout × WindowSet)}
    (h : exec build s = (r, t)) :
    (∃ cause count, (exec measure s).1 >>= s.interior.plan = .error cause ∧ r = .error cause ∧
      BuildError cause ∧ t.interior = { s.interior with engine := s.engine.bury count }) ∨
    ∃ l, (exec measure s).1 >>= s.interior.plan = .ok l ∧
      r = .ok (l, l.numbered s.engine.slots.size) ∧ t.interior = s.interior.built l := by
  have hfails := build_fails s t
  rw [h] at hfails
  rw [build, exec_bind] at h
  rcases hmeasure : exec measure s with ⟨cause | ⟨rows, cols⟩, u⟩
  all_goals
    have hu : u.interior = s.interior := interior_measure.of_exec hmeasure
    rw [hmeasure] at h
  · cases h
    refine .inl ⟨cause, 0, rfl, rfl, hfails _ rfl, ?_⟩
    rw [Buffers.bury_zero]
    exact hu
  simp only at h
  rw [exec_bind_ok (exec_get u)] at h
  have hallocate : Layout.allocate rows cols (u.pending.map Registration.side)
      (u.config.stripPlacement u.labels.lineCount) = s.interior.allocate rows cols := by
    rw [← hu]
    rfl
  rw [hallocate] at h
  have hplan : (Except.ok (rows, cols) >>= s.interior.plan) = s.interior.plan (rows, cols) := rfl
  rw [hplan, Interior.plan]
  cases hl : s.interior.allocate rows cols with
  | error cause =>
    rw [hl] at h
    cases h
    refine .inl ⟨_, 0, rfl, rfl, hfails _ rfl, ?_⟩
    rw [Buffers.bury_zero]
    exact hu
  | ok l =>
    rw [hl] at h
    simp only at h
    have hengine : u.engine = s.engine := congrArg Interior.engine hu
    rcases exec_buildWindows u l with ⟨hreserve, hexec⟩ | ⟨cause, count, hreserve, hexec⟩
    all_goals
      rw [hengine] at hreserve
      rw [exec_bind, exec_mapError, hexec] at h
      cases h
    · refine .inr ⟨l, ?_, ?_, ?_⟩
      · simp only [interior, hreserve]
      · rw [hengine]
      · change u.interior.built l = _
        rw [hu]
    · refine .inl ⟨_, count, ?_, rfl, hfails _ rfl, ?_⟩
      · simp only [interior, hreserve]
      · rw [← hengine]
        exact congrArg (fun i : Interior Buffers => { i with engine := u.engine.bury count }) hu

/-- What comes after the old session is out of the way. -/
theorem turned_create_cleared {args : List String} {r : Except ScreenError Session}
    (hphase : s.phase ≠ .alive)
    (h : exec (do
      (onTerminal (Terminal.acquire args)).mapError .platformOpen
      match ← build.attempt with
      | .error cause =>
        releaseTerminal
        modify ({ · with phase := .uncreated })
        report (.createFailed cause)
        throw cause
      | .ok (layout, windows) => begin layout windows) s.atCreate = (r, s')) :
    Turned s (.create args) (r.map fun _ => ()) s'.interior := by
  have hcleared := s.interior_atCreate
  rw [exec_bind] at h
  rcases hacquire : exec (mapError ScreenError.platformOpen (onTerminal (Terminal.acquire args)))
    s.atCreate with ⟨cause | _, u⟩
  all_goals
    have hu : u.interior = s.interior.cleared :=
      (((interior_onTerminal _).mapError _).of_exec hacquire).trans hcleared
    have hresult := congrArg Prod.fst hacquire
    change (exec (Terminal.acquire args) s.atCreate.terminal).1.mapError _ = _ at hresult
    rw [hacquire] at h
  · cases h
    rcases hopening : (exec (Terminal.acquire args) s.atCreate.terminal).1 with cause' | _
    all_goals
      rw [hopening] at hresult
      cases hresult
    have hprospect : s.prospect args = .error (.platformOpen cause') := by
      rw [prospect, enter, exec_bind_error hacquire]
      rfl
    rw [hu]
    exact .notOpened hphase hopening hprospect
  have hopening : (exec (Terminal.acquire args) s.atCreate.terminal).1 = .ok () := by
    rcases hopening : (exec (Terminal.acquire args) s.atCreate.terminal).1 with cause' | _
    · rw [hopening] at hresult
      cases hresult
    · rfl
  have hprospect : s.prospect args = (exec measure u).1 >>= u.interior.plan := by
    rw [prospect, enter, exec_bind_ok hacquire, hu]
  simp only at h
  rw [exec_bind, exec_attempt] at h
  rcases hbuild : exec build u with ⟨result, v⟩
  rw [hbuild] at h
  have hengine : u.engine = s.interior.cleared.engine := congrArg Interior.engine hu
  rcases of_build hbuild with ⟨cause, count, hplan, rfl, hcause, hv⟩ | ⟨l, hplan, rfl, hv⟩
  · obtain ⟨_, w, hrelease, h⟩ := releaseTerminal_fails.of_bind h
    have hw : w.interior = v.interior := interior_releaseTerminal.of_exec hrelease
    cases h
    change Turned s _ _ { w.interior with phase := .uncreated }
    rw [hw, hv, hu, hengine]
    exact .notBuilt hphase hopening (hprospect.trans hplan) hcause
  · obtain ⟨session, rfl, hlayout, hwindows, halive, hconsistent, hresized, hs'⟩ :=
      of_begin_interior h
    rw [hs', hv, hu, ← hlayout]
    rw [hengine, ← hlayout] at hwindows
    rw [← hlayout] at hplan
    exact .created hphase (hprospect.trans hplan) hwindows halive hconsistent hresized

theorem turned_create {args : List String} {r : Except ScreenError Session}
    (h : exec (create args) s = (r, s')) :
    Turned s (.create args) (r.map fun _ => ()) s'.interior := by
  obtain ⟨_, s₀, hreport, h⟩ := (report_fails _).of_bind h
  have hs₀ : s₀.interior = s.interior := (interior_report _).of_exec hreport
  have hs₀' : s₀ = { s with events := s.events.push .creating } := by
    cases hreport
    rfl
  have hphase₀ : s₀.phase = s.phase := congrArg Interior.phase hs₀
  rw [exec_bind_ok (exec_get s₀), hphase₀] at h
  cases hphase : s.phase with
  | alive =>
    rw [hphase] at h
    cases h
    rw [hs₀]
    exact .createRefused hphase
  | suspended =>
    simp only [hphase] at h
    obtain ⟨_, t, hdestroy, h⟩ := destroy_fails.of_bind h
    have ht : t = s.atCreate := by
      rw [atCreate, ← hs₀', vacated, if_pos (hphase₀.trans hphase), hdestroy]
    rw [ht] at h
    exact turned_create_cleared (by simp [hphase]) h
  | uncreated | destroyed =>
    simp only [hphase] at h
    have hs₀ : s₀ = s.atCreate := by
      rw [atCreate, ← hs₀', vacated, if_neg (by simp [hphase₀, hphase])]
    rw [hs₀] at h
    exact turned_create_cleared (by simp [hphase]) h

end Screen

/-- Every call turns out in one of these ways. -/
theorem Call.turned {T : Type} [Terminal T] {s s' : Screen T Buffers} {c : Call Buffers}
    {r : Except ScreenError Unit} (h : exec c.action s = (r, s')) :
    Screen.Turned s c r s'.interior := by
  have hunit {α : Type} {x : Action (Screen T Buffers) ScreenError α}
      (hx : exec (do let _ ← x) s = (r, s')) :
      ∃ r', exec x s = (r', s') ∧ r = r'.map fun _ => () := by
    rw [exec_bind_unit] at hx
    obtain ⟨hr, hs'⟩ := Prod.mk.inj hx
    exact ⟨(exec x s).1, Prod.ext rfl hs', hr.symm⟩
  cases c with
  | create args =>
    obtain ⟨_, hcreate, rfl⟩ := hunit h
    exact Screen.turned_create hcreate
  | resize rows cols =>
    obtain ⟨_, hresize, rfl⟩ := hunit h
    exact Screen.turned_resize hresize
  | suspend => exact Screen.turned_suspend h
  | resume => exact Screen.turned_resume h
  | destroy => exact Screen.turned_destroy h
  | reserveLine side init => exact Screen.turned_reserveLine h
  | initLabels code => exact Screen.turned_initLabels h
  | setLabel index text justify => exact Screen.turned_setLabel h
  | reportResize =>
    cases h
    exact .resizeReported

end TerminalSession
