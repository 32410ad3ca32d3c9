import TerminalSession.Proofs.Action.Coupled
import TerminalSession.Proofs.Screen.Retrying
import TerminalSession.Proofs.Screen.Serving

/-!
# Terminals that answer alike

A create asks its terminal a few things only. On two terminals that answer them alike
(`AnswersAlike`) it comes to the same layout and to the same session, up to the ids of the windows,
whatever else has been done with the terminals before.
-/

namespace TerminalSession

open TerminalSession.Action

/-- Terminals that answer alike all that a create asks, as long as they are related. -/
structure AnswersAlike {T T' : Type} [Terminal T] [Terminal T'] (R : T → T' → Prop) : Prop where
  acquire : ∀ args, Coupled R (Terminal.acquire args) (Terminal.acquire args)
  release : Coupled R Terminal.release Terminal.release
  setCursorShape : ∀ shape,
    Coupled R (Terminal.setCursorShape shape) (Terminal.setCursorShape shape)
  rows : ∀ t t', R t t' → (Terminal.rows (T := T') t').1 = (Terminal.rows (T := T) t).1 ∧
    R (Terminal.rows (T := T) t).2 (Terminal.rows (T := T') t').2
  columns : ∀ t t', R t t' → (Terminal.columns (T := T') t').1 = (Terminal.columns (T := T) t).1 ∧
    R (Terminal.columns (T := T) t).2 (Terminal.columns (T := T') t').2
  saveShellMode : ∀ t t', R t t' → R (Terminal.saveShellMode t) (Terminal.saveShellMode t')
  forgetEvents : ∀ t t', R t t' → R (Terminal.forgetEvents t) (Terminal.forgetEvents t')
  cursorShape : ∀ t t', R t t' → Terminal.cursorShape t' = Terminal.cursorShape t
  systemName : ∀ t t', R t t' → Terminal.systemName t' = Terminal.systemName t

/-- A session whose windows all have ids later by as much. -/
def Session.renumbered (session : Session) (n : Nat) : Session :=
  { session with windows := session.windows.renumbered n }

namespace Screen

variable {T T' ε α : Type}

/-- Screens with the same configuration on related terminals. -/
def Matched (R : T → T' → Prop) (s : Screen T Buffers) (s' : Screen T' Buffers) : Prop :=
  R s.terminal s'.terminal ∧ s'.config = s.config

theorem report_coupled {R : T → T' → Prop} (event : ScreenEvent) :
    Coupled (Matched R) (report event : Action (Screen T Buffers) ε Unit) (report event) :=
  .modify fun _ _ h => h

/-- Where the windows are made, the terminal is as it was when it had been measured. -/
theorem terminal_build [Terminal T] (s : Screen T Buffers) :
    (exec build s).2.terminal = (exec measure s).2.terminal := by
  rcases hmeasure : exec measure s with ⟨cause | size, t⟩
  · rw [build, exec_bind_error hmeasure]
  · rw [build, exec_bind_ok hmeasure]
    refine Keeps.bind .get (fun s => ?_) t
    dsimp only
    split
    · exact .throw _
    · rename_i l _
      refine .bind (.mapError (fun s => ?_) _) fun _ => .pure _
      have hkeeps : outline id (exec (buildWindows l) s).2 = outline id s := buildWindows_keeps l s
      exact (outline_eq_iff.mp hkeeps).2.2

section

variable [Terminal T] [Terminal T'] {R : T → T' → Prop} {n : Nat}
variable {s t : Screen T Buffers} {s' t' : Screen T' Buffers} {args : List String}

theorem onTerminal_coupled (hR : AnswersAlike R) {x : Action T ε α} {y : Action T' ε α}
    (h : Coupled R x y) :
    Coupled (Matched R) (onTerminal x : Action (Screen T Buffers) ε α) (onTerminal y) := by
  intro s s' hs
  obtain ⟨hresult, hrelated⟩ := h _ _ hs.1
  exact ⟨hresult, hR.forgetEvents _ _ hrelated, hs.2⟩

theorem measure_coupled (hR : AnswersAlike R) :
    Coupled (Matched R) (measure : Action (Screen T Buffers) ScreenError (Nat × Nat)) measure := by
  have hrows : Coupled R (monadLift (Terminal.rows (T := T)) : Action T ScreenError Int)
      (monadLift (Terminal.rows (T := T'))) := fun t t' h =>
    ⟨congrArg Except.ok (hR.rows t t' h).1, (hR.rows t t' h).2⟩
  have hcols : Coupled R (monadLift (Terminal.columns (T := T)) : Action T ScreenError Int)
      (monadLift (Terminal.columns (T := T'))) := fun t t' h =>
    ⟨congrArg Except.ok (hR.columns t t' h).1, (hR.columns t t' h).2⟩
  refine .bind (onTerminal_coupled hR hrows) fun rows => ?_
  refine .bind (onTerminal_coupled hR hcols) fun cols => ?_
  exact .ite _ (.throw_bind _ _ _) (.ite _ (.throw_bind _ _ _) (.pure _))

theorem releaseTerminal_coupled (hR : AnswersAlike R) :
    Coupled (Matched R) (releaseTerminal : Action (Screen T Buffers) ε Unit) releaseTerminal :=
  .attempt_bind (onTerminal_coupled hR hR.release) (fun _ => .pure ()) fun _ => report_coupled _

theorem shapeCursor_coupled (hR : AnswersAlike R) :
    Coupled (Matched R) (shapeCursor : Action (Screen T Buffers) ScreenError Unit) shapeCursor := by
  refine .get_bind fun s s' hs => ?_
  rw [hs.2]
  cases s.config.cursor with
  | none => exact .pure ()
  | some shape =>
    exact .attempt_bind (onTerminal_coupled hR (hR.setCursorShape shape)) (fun _ => .pure ())
      fun _ => report_coupled _

/-! ## Making the windows -/

/-- What making the windows comes to on screens that differ in windows that have come and gone:
on neither it succeeds, or on both for the same layout. -/
inductive BuiltAlike (s : Screen T Buffers) (s' : Screen T' Buffers) :
    Except ScreenError (Layout × WindowSet) × Interior Buffers →
    Except ScreenError (Layout × WindowSet) × Interior Buffers → Prop
  | failed {cause : ScreenError} {count count' : Nat} {phase phase' : Phase} :
    BuiltAlike s s'
      (.error cause, { s.interior with engine := s.engine.bury count, phase })
      (.error cause, { s'.interior with engine := s'.engine.bury count', phase := phase' })
  | built {l : Layout} (hl : ∃ rows cols, s.interior.allocate rows cols = .ok l) :
    BuiltAlike s s' (.ok (l, l.numbered s.engine.slots.size), s.interior.built l)
      (.ok (l, l.numbered s'.engine.slots.size), s'.interior.built l)

theorem build_alike (hR : AnswersAlike R) (hs : Matched R s s')
    (hburied : s.interior.Buried n s'.interior) {r r' : Except ScreenError (Layout × WindowSet)}
    (h : exec build s = (r, t)) (h' : exec build s' = (r', t')) :
    Matched R t t' ∧ BuiltAlike s s' (r, t.interior) (r', t'.interior) := by
  obtain ⟨hsize, hmeasured⟩ := measure_coupled hR s s' hs
  have hterminal : R t.terminal t'.terminal := by
    have hbuild := terminal_build s
    have hbuild' := terminal_build s'
    rw [h] at hbuild
    rw [h'] at hbuild'
    rw [hbuild, hbuild']
    exact hmeasured.1
  have hplan :
      (exec measure s').1 >>= s'.interior.plan = (exec measure s).1 >>= s.interior.plan := by
    rw [hsize, funext hburied.plan]
  have hconfig : s'.config = s.config := hs.2
  rcases of_build h with ⟨cause, count, hfailed, rfl, -, ht⟩ | ⟨l, hbuilt, rfl, ht⟩
  all_goals rcases of_build h' with ⟨cause', count', hfailed', rfl, -, ht'⟩ | ⟨l', hbuilt', rfl, ht'⟩
  · cases hfailed.symm.trans (hplan.symm.trans hfailed')
    refine ⟨⟨hterminal, ?_⟩, ht ▸ ht' ▸ .failed⟩
    rw [show t'.config = s'.config from congrArg Interior.config ht',
      show t.config = s.config from congrArg Interior.config ht, hconfig]
  · cases hfailed.symm.trans (hplan.symm.trans hbuilt')
  · cases hbuilt.symm.trans (hplan.symm.trans hfailed')
  · cases hbuilt.symm.trans (hplan.symm.trans hbuilt')
    have hl : ∃ rows cols, s.interior.allocate rows cols = .ok l := by
      rcases hmeasure : (exec measure s).1 with _ | size
      all_goals rw [hmeasure] at hbuilt
      · cases hbuilt
      · exact ⟨_, _, (Interior.of_plan_ok hbuilt).1⟩
    refine ⟨⟨hterminal, ?_⟩, ht ▸ ht' ▸ .built hl⟩
    rw [show t'.config = s'.config from congrArg Interior.config ht',
      show t.config = s.config from congrArg Interior.config ht, hconfig]

theorem openAndBuild_alike (hR : AnswersAlike R) (hs : Matched R s s')
    (hburied : s.interior.Buried n s'.interior) {r r' : Except ScreenError (Layout × WindowSet)}
    (h : exec (openAndBuild args) s = (r, t)) (h' : exec (openAndBuild args) s' = (r', t')) :
    Matched R t t' ∧ BuiltAlike s s' (r, t.interior) (r', t'.interior) := by
  rcases hacquire : exec (mapError ScreenError.platformOpen (onTerminal (Terminal.acquire args))) s
    with ⟨cause | _, u⟩
  all_goals
    obtain ⟨u', hacquire', hu⟩ :=
      ((onTerminal_coupled hR (hR.acquire args)).mapError _).of_exec hs hacquire
    have hsame : u.interior = s.interior := ((interior_onTerminal _).mapError _).of_exec hacquire
    have hsame' : u'.interior = s'.interior :=
      ((interior_onTerminal _).mapError _).of_exec hacquire'
  · rw [openAndBuild, exec_bind_error hacquire] at h
    rw [openAndBuild, exec_bind_error hacquire'] at h'
    cases h
    cases h'
    refine ⟨hu, ?_⟩
    have hfailed : BuiltAlike s s'
        (.error cause, { s.interior with engine := s.engine.bury 0, phase := s.phase })
        (.error cause, { s'.interior with engine := s'.engine.bury 0, phase := s'.phase }) := .failed
    rw [Buffers.bury_zero, Buffers.bury_zero] at hfailed
    rw [hsame, hsame']
    exact hfailed
  rw [openAndBuild, exec_bind_ok hacquire, exec_bind, exec_attempt] at h
  rw [openAndBuild, exec_bind_ok hacquire', exec_bind, exec_attempt] at h'
  rcases hbuild : exec build u with ⟨x, v⟩
  rcases hbuild' : exec build u' with ⟨x', v'⟩
  rw [hbuild] at h
  rw [hbuild'] at h'
  obtain ⟨hv, halike⟩ := build_alike hR hu (hsame ▸ hsame' ▸ hburied) hbuild hbuild'
  have hengine : u.engine = s.engine := congrArg Interior.engine hsame
  have hengine' : u'.engine = s'.engine := congrArg Interior.engine hsame'
  generalize hi : v.interior = i at halike
  generalize hi' : v'.interior = i' at halike
  cases halike with
  | @failed cause count count' =>
    obtain ⟨_, w, hrelease, h⟩ := releaseTerminal_fails.of_bind h
    obtain ⟨w', hrelease', hw⟩ := (releaseTerminal_coupled hR).of_exec hv hrelease
    dsimp only at h'
    rw [exec_bind_ok hrelease'] at h'
    have hleft := interior_releaseTerminal.of_exec hrelease
    have hleft' := interior_releaseTerminal.of_exec hrelease'
    cases h
    cases h'
    refine ⟨hw, ?_⟩
    change BuiltAlike s s' (_, { w.interior with phase := .uncreated })
      (_, { w'.interior with phase := .uncreated })
    rw [hleft, hleft', hi, hi', hsame, hsame', hengine, hengine']
    exact .failed
  | built hl =>
    cases h
    cases h'
    refine ⟨hv, ?_⟩
    rw [hi, hi', hsame, hsame', hengine, hengine']
    exact .built (hsame ▸ hl)

/-! ## Beginning the session -/

/-- The session that is begun on a screen whose cursor gets its shape meanwhile. -/
def beginning (l : Layout) (windows : WindowSet) (s t : Screen T Buffers) : Session where
  layout := l
  windows := windows
  cursorBefore := Terminal.cursorShape s.terminal
  preserve := t.config.preserveScreen
  description := programName ++ "|" ++ programName ++ " for " ++
    Terminal.systemName (Terminal.saveShellMode t.terminal)

theorem exec_announce (l : Layout) (windows : WindowSet)
    (hcursor : exec shapeCursor s = (.ok (), t)) :
    (exec (announce l windows) s).1 = .ok (beginning l windows s t) ∧
      (exec (announce l windows) s).2.terminal = Terminal.saveShellMode t.terminal := by
  rw [announce, exec_bind_ok (exec_get s), exec_bind_ok hcursor]
  exact ⟨rfl, rfl⟩

theorem begin_alike (hR : AnswersAlike R) (hs : Matched R s s') (l : Layout) (windows : WindowSet)
    (n : Nat) : ∃ session t t', exec (begin l windows) s = (.ok session, t) ∧
      exec (begin l (windows.renumbered n)) s' = (.ok (session.renumbered n), t') ∧
      R t.terminal t'.terminal := by
  have hinit : Matched R (runInitializers windows l.terminalCols s)
      (runInitializers (windows.renumbered n) l.terminalCols s') := hs
  have hfails : Fails (fun _ => False)
      (shapeCursor : Action (Screen T Buffers) ScreenError Unit) := shapeCursor_fails
  obtain ⟨_, t, ht⟩ := hfails.exec_ok (runInitializers windows l.terminalCols s)
  obtain ⟨t', ht', hshaped⟩ := (shapeCursor_coupled hR).of_exec hinit ht
  obtain ⟨hsession, hterminal⟩ := exec_announce l windows ht
  obtain ⟨hsession', hterminal'⟩ := exec_announce l (windows.renumbered n) ht'
  have hsaved := hR.saveShellMode _ _ hshaped.1
  have hrenumbered : beginning l (windows.renumbered n)
      (runInitializers (windows.renumbered n) l.terminalCols s') t' =
        (beginning l windows (runInitializers windows l.terminalCols s) t).renumbered n := by
    rw [beginning, hR.cursorShape _ _ hinit.1, hR.systemName _ _ hsaved, hshaped.2]
    rfl
  rw [begin_eq, begin_eq, exec_bind_ok (exec_modify ..), exec_bind_ok (exec_modify ..)]
  rw [hrenumbered] at hsession'
  refine ⟨_, _, _, Prod.ext hsession rfl, Prod.ext hsession' rfl, ?_⟩
  rw [hterminal, hterminal']
  exact hsaved

end

end Screen

end TerminalSession
