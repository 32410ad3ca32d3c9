import TerminalSession.Proofs.Screen.Turn
import TerminalSession.Proofs.Screen.Watching

/-!
# Creating a session that is watched

All that a record shows of a create is the calls of the initializers of the lines that wait, and it
shows those only if the create succeeds (`exec_create_watched`). So a create is taken apart here:
`prepare` is all of it that comes before the initializers, and `announce` all that comes after.
-/

namespace TerminalSession

open TerminalSession.Action

/-- The calls that the initializers of numbered lines get with the windows made for them. -/
def servings {E : Type} (cols : Nat) :
    List Nat → List (Registration E) → List ReservedWindow → E → List (Serving E)
  | numbers, line :: lines, w :: windows, engine =>
    ⟨numbers.headD 0, w.window, cols, engine⟩ ::
      servings cols numbers.tail lines windows (line.init engine w.window cols)
  | _, _, _, _ => []

namespace Screen

section

variable {T E : Type} {served : List (Serving E)} {numbers : List Nat}

/-! ## Beginning a session that is watched -/

/-- The record of a watched engine is that of the calls made. -/
theorem initialized_watchAll (served : List (Serving E)) (numbers : List Nat)
    (lines : List (Registration E)) (windows : List ReservedWindow) (cols : Nat) (engine : E) :
    initialized (watchAll numbers lines) windows cols ⟨engine, served⟩ =
      ⟨initialized lines windows cols engine,
        served ++ servings cols numbers lines windows engine⟩ := by
  induction lines generalizing numbers windows engine served with
  | nil => simp [initialized, watchAll, servings]
  | cons line lines ih =>
    cases windows with
    | nil => simp [initialized, watchAll, servings]
    | cons w windows =>
      refine (ih _ _ windows (line.init engine w.window cols)).trans ?_
      rw [servings, List.append_assoc]
      rfl

variable [Terminal T] [WindowEngine E]

/-- What beginning a session does once the initializers have run. -/
def announce (layout : Layout) (windows : WindowSet) :
    Action (Screen T E) ScreenError Session := do
  let cursorBefore := Terminal.cursorShape (← get).terminal
  shapeCursor
  modify fun s => { s with terminal := Terminal.saveShellMode s.terminal }
  let s ← get
  let session : Session := {
    layout, windows, cursorBefore
    preserve := s.config.preserveScreen
    description :=
      programName ++ "|" ++ programName ++ " for " ++ Terminal.systemName s.terminal }
  set { s with session := some session, phase := .alive }
  report (.created layout.terminalRows layout.terminalCols layout.usableRows
    windows.reserved.length layout.strip.rows)
  return session

omit [WindowEngine E] in
theorem begin_eq (layout : Layout) (windows : WindowSet) :
    (begin layout windows : Action (Screen T E) ScreenError Session) = (do
      modify (runInitializers windows layout.terminalCols)
      announce layout windows) := rfl

omit [WindowEngine E] in
theorem announce_follows (layout : Layout) (windows : WindowSet) :
    Follows (watched served numbers)
      (announce layout windows : Action (Screen T _) ScreenError Session)
      (announce layout windows) := by
  intro s
  rcases hcursor : exec (shapeCursor : Action (Screen T E) ScreenError Unit) s with ⟨_ | _, t⟩
  all_goals
    have hcursor' := Follows.of_exec (w := watched served numbers) shapeCursor_follows hcursor
    rw [announce, announce, exec_bind_ok (exec_get _), exec_bind_ok (exec_get s)]
  · rw [exec_bind_error hcursor', exec_bind_error hcursor]
  · rw [exec_bind_ok hcursor', exec_bind_ok hcursor]
    rfl

omit [WindowEngine E] in
/-- The calls of the initializers are all that a record shows of beginning a session. -/
theorem exec_begin_watched (layout : Layout) (windows : WindowSet) (s : Screen T E) :
    exec (begin layout windows) (s.watched served numbers) =
      ((exec (begin layout windows) s).1, (exec (begin layout windows) s).2.watched
        (served ++ servings layout.terminalCols numbers s.pending windows.reserved s.engine) []) := by
  have hengine := initialized_watchAll served numbers s.pending windows.reserved
    layout.terminalCols s.engine
  have hinit : runInitializers windows layout.terminalCols (s.watched served numbers) =
      (runInitializers windows layout.terminalCols s).watched
        (served ++ servings layout.terminalCols numbers s.pending windows.reserved s.engine) [] := by
    simp only [initialized] at hengine
    simp only [runInitializers, watched, hengine]
    rfl
  rw [begin_eq, begin_eq, exec_bind_ok (exec_modify ..), exec_bind_ok (exec_modify ..), hinit]
  exact announce_follows layout windows _

/-! ## Creating a session that is watched -/

/-- Takes the terminal over and makes the windows. -/
def openAndBuild (args : List String) : Action (Screen T E) ScreenError (Layout × WindowSet) := do
  (onTerminal (Terminal.acquire args)).mapError .platformOpen
  match ← build.attempt with
  | .error cause =>
    releaseTerminal
    modify ({ · with phase := .uncreated })
    report (.createFailed cause)
    throw cause
  | .ok made => return made

/-- All of a create that comes before a session is begun. -/
def prepare (args : List String) : Action (Screen T E) ScreenError (Layout × WindowSet) := do
  report .creating
  match (← get).phase with
  | .alive => throw .alreadyActive
  | .suspended => destroy
  | .uncreated | .destroyed => pure ()
  openAndBuild args

theorem openAndBuild_eq (args : List String) :
    (do
      (onTerminal (Terminal.acquire args)).mapError .platformOpen
      match ← build.attempt with
      | .error cause =>
        releaseTerminal
        modify ({ · with phase := .uncreated })
        report (.createFailed cause)
        throw cause
      | .ok (layout, windows) => begin layout windows :
        Action (Screen T E) ScreenError Session) = (do
      let (layout, windows) ← openAndBuild args
      begin layout windows) := by
  simp only [openAndBuild, bind_assoc]
  refine congrArg _ (funext fun _ => congrArg _ (funext fun r => ?_))
  cases r with
  | ok made => rfl
  | error cause =>
    simp only [bind_assoc]
    rfl

theorem create_eq (args : List String) :
    (create args : Action (Screen T E) ScreenError Session) = (do
      let (layout, windows) ← prepare args
      begin layout windows) := by
  rw [create, prepare]
  simp only [bind_assoc]
  refine congrArg _ (funext fun _ => congrArg _ (funext fun s => ?_))
  cases s.phase with
  | alive => rfl
  | suspended =>
    simp only [bind_assoc]
    exact congrArg _ (funext fun _ => openAndBuild_eq args)
  | uncreated | destroyed => exact openAndBuild_eq args

theorem openAndBuild_follows (args : List String) :
    Follows (watched served numbers)
      (openAndBuild args : Action (Screen T _) ScreenError (Layout × WindowSet))
      (openAndBuild args) := by
  refine .bind (.mapError (onTerminal_follows _) _) fun _ => ?_
  refine .attempt_bind build_follows (fun made => .pure made) fun cause => ?_
  exact .bind releaseTerminal_follows fun _ => .bind (.modify fun _ => rfl) fun _ =>
    .bind (report_follows _) fun _ => .throw _

theorem prepare_follows (args : List String) :
    Follows (watched served numbers)
      (prepare args : Action (Screen T _) ScreenError (Layout × WindowSet)) (prepare args) := by
  refine .bind (report_follows _) fun _ => .get_bind fun s => ?_
  simp only [phase_watched]
  cases s.phase with
  | alive => rfl
  | suspended => exact Follows.bind destroy_follows (fun _ => openAndBuild_follows args) s
  | uncreated | destroyed => exact openAndBuild_follows args s

end

section

variable {T : Type} [Terminal T] {s u v : Screen T Buffers} {served : List (Serving Buffers)}
  {numbers : List Nat}

theorem of_openAndBuild {args : List String} {l : Layout} {windows : WindowSet}
    (h : exec (openAndBuild args) u = (.ok (l, windows), v)) :
    windows = l.numbered u.engine.slots.size ∧ v.interior = u.interior.built l := by
  obtain ⟨_, t, hacquire, h⟩ := of_exec_bind_ok h
  have ht : t.interior = u.interior := ((interior_onTerminal _).mapError _).of_exec hacquire
  obtain ⟨made, w, hbuild, h⟩ := of_exec_bind_ok h
  rw [exec_attempt] at hbuild
  cases made with
  | error cause =>
    obtain ⟨_, _, -, h⟩ := of_exec_bind_ok h
    obtain ⟨_, _, -, h⟩ := of_exec_bind_ok h
    obtain ⟨_, _, -, h⟩ := of_exec_bind_ok h
    cases h
  | ok made =>
    cases h
    obtain ⟨hmade, hv⟩ := Prod.mk.inj hbuild
    have hbuild : exec build t = (.ok (l, windows), v) := Prod.ext (Except.ok.inj hmade) hv
    have hengine : t.engine = u.engine := congrArg Interior.engine ht
    rcases of_build hbuild with ⟨_, _, -, h, -⟩ | ⟨l', -, h, hv⟩
    · cases h
    · cases h
      exact ⟨by rw [hengine], ht ▸ hv⟩

/-- Where a session is begun, its windows have just been made. -/
theorem of_prepare {args : List String} {l : Layout} {windows : WindowSet}
    (h : exec (prepare args) s = (.ok (l, windows), v)) :
    windows = l.numbered s.interior.cleared.engine.slots.size ∧
      v.interior = s.interior.cleared.built l := by
  obtain ⟨_, u, hreport, h⟩ := of_exec_bind_ok h
  have hu : u.interior = s.interior := (interior_report _).of_exec hreport
  have hphase : u.phase = s.phase := congrArg Interior.phase hu
  rw [exec_bind_ok (exec_get u), hphase] at h
  by_cases hsuspended : s.phase = .suspended
  · simp only [hsuspended] at h
    obtain ⟨_, t, hdestroy, h⟩ := of_exec_bind_ok h
    have ht : t.interior = s.interior.cleared := by
      rw [Interior.cleared_of_suspended hsuspended, ← hu, ← interior_destroy (ε := ScreenError) u,
        hdestroy]
    rw [← ht]
    exact of_openAndBuild h
  · have hcleared : s.interior.cleared = u.interior := by
      rw [hu]
      exact Interior.cleared_of_ne hsuspended
    rw [hcleared]
    suffices hbuild : exec (openAndBuild args) u = (.ok (l, windows), v) from of_openAndBuild hbuild
    cases hs : s.phase <;> simp only [hs] at h
    · exact h
    · cases h
    · exact absurd hs hsuspended
    · exact h

/-- A create that fails leaves the record as it was, with the same lines waiting, and one that
succeeds adds the calls of all waiting initializers. -/
theorem exec_create_watched {args : List String} {r : Except ScreenError Session}
    (h : exec (create args) s = (r, v)) (served : List (Serving Buffers)) (numbers : List Nat) :
    exec (create args) (s.watched served numbers) = (r, match r with
      | .error _ => v.watched served numbers
      | .ok session => v.watched (served ++ servings session.layout.terminalCols numbers s.pending
          session.windows.reserved (s.interior.cleared.built session.layout).engine) []) := by
  rw [create_eq] at h ⊢
  rcases hprepare : exec (prepare args) s with ⟨cause | ⟨l, windows⟩, t⟩
  all_goals
    have hfollows : Follows (watched served numbers)
        (prepare args : Action (Screen T _) ScreenError (Layout × WindowSet)) (prepare args) :=
      prepare_follows args
    have hwatched := hfollows.of_exec hprepare
  · rw [exec_bind_error hprepare] at h
    cases h
    exact exec_bind_error hwatched
  · rw [exec_bind_ok hprepare] at h
    obtain ⟨-, ht⟩ := of_prepare hprepare
    obtain ⟨session, rfl, hlayout, hwindows, -⟩ := of_begin_interior h
    have hpending : t.pending = s.pending := by
      rw [show t.pending = _ from congrArg Interior.pending ht]
      exact Interior.pending_cleared _
    have hengine : t.engine = (s.interior.cleared.built session.layout).engine := by
      rw [show t.engine = _ from congrArg Interior.engine ht, hlayout]
    rw [exec_bind_ok hwatched]
    dsimp only at h ⊢
    rw [exec_begin_watched, h, hpending, hengine, hlayout, hwindows]

theorem session_of_create {args : List String} {session : Session}
    (h : exec (create args) s = (.ok session, v)) : v.session = some session := by
  rw [create_eq] at h
  obtain ⟨_, t, -, h⟩ := of_exec_bind_ok h
  obtain ⟨session', hsame, -, -, -, -, -, hv⟩ := of_begin_interior h
  cases hsame
  exact congrArg Interior.session hv

end

end Screen

end TerminalSession
