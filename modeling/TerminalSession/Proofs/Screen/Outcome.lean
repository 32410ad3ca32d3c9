import TerminalSession.Proofs.Screen.Failures
import TerminalSession.Proofs.Screen.Outline

/-!
# What the calls of a screen come to

Every way in which the calls that begin, leave and end sessions can turn out: `Created`,
`Suspended`, `Resumed`, `Resized` and `Destroyed` have a case for each, with the outline of the
screen that is left.
-/

namespace TerminalSession.Screen

open TerminalSession.Action

variable {T E γ ε α : Type} [Terminal T] {look : T → γ} {s s' : Screen T E}

theorem of_releaseTerminal {r : Except ε Unit} (hlook : Steady look)
    (h : exec releaseTerminal s = (r, s')) :
    s'.session = s.session ∧ s'.phase = s.phase ∧
      look s'.terminal = look (exec Terminal.release s.terminal).2 := by
  have hrelease := outline_onTerminal hlook Terminal.release s
  simp only [outline, Prod.mk.injEq] at hrelease
  rw [releaseTerminal, exec_bind, exec_attempt] at h
  dsimp only at h
  split at h <;> cases h <;> exact hrelease

/-- What the terminal refuses ends a call; otherwise the call goes on. -/
theorem of_onTerminal_bind {δ β : Type} {x : Action T δ α} {f : δ → ε}
    {k : α → Action (Screen T E) ε β} {r : Except ε β} (hlook : Steady look)
    (h : exec (mapError f (onTerminal x) >>= k) s = (r, s')) :
    (∃ e t, exec x s.terminal = (.error e, t) ∧ r = .error (f e) ∧
      outline look s' = (s.session, s.phase, look t)) ∨
    ∃ a t u, exec x s.terminal = (.ok a, t) ∧ outline look u = (s.session, s.phase, look t) ∧
      exec (k a) u = (r, s') := by
  have hx := outline_onTerminal hlook x s
  have hresult : (exec (onTerminal x) s).1 = (exec x s.terminal).1 := rfl
  rw [exec_bind, exec_mapError, hresult] at h
  rcases hr : exec x s.terminal with ⟨e | a, t⟩
  · rw [hr] at h hx
    cases h
    exact .inl ⟨e, t, rfl, rfl, hx⟩
  · rw [hr] at h hx
    exact .inr ⟨a, t, _, rfl, hx, h⟩

variable [WindowEngine E]

/-! ## Destroying and suspending -/

/-- The ways in which destroying can turn out. -/
inductive Destroyed (look : T → γ) (s : Screen T E) : Option Session × Phase × γ → Prop
  | nothing (h : s.session = none) : Destroyed look s (outline look s)
  | done {session : Session} {t : T} (h : s.session = some session)
    (ht : look t = look s.terminal) :
    Destroyed look s
      (none, .destroyed, if session.alive then look (exec Terminal.release t).2 else look t)

omit [WindowEngine E] in
theorem Destroyed.of_outline {o : Option Session × Phase × γ} (h : Destroyed look s' o)
    (hs : outline look s' = outline look s) : Destroyed look s o := by
  obtain ⟨hsession, -, hterminal⟩ := outline_eq_iff.mp hs
  cases h with
  | nothing h =>
    rw [hs]
    exact .nothing (hsession.symm.trans h)
  | done h ht => exact .done (hsession.symm.trans h) (ht.trans hterminal)

omit [Terminal T] [WindowEngine E] in
/-- Whether the terminal is given back or not, a session ends in the same way. -/
theorem outline_ended (h : exec (do
      resetLabels
      modify ({ · with phase := .destroyed })
      report .destroyed : Action (Screen T E) ε Unit) s = (.ok (), s')) :
    outline look s' = (s.session, .destroyed, look s.terminal) := by
  obtain ⟨_, t, hreset, h⟩ := of_exec_bind_ok h
  cases h
  obtain ⟨hsession, -, hterminal⟩ := outline_eq_iff.mp
    (resetLabels_keeps.of_exec hreset : outline look t = outline look s)
  rw [← hsession, ← hterminal]
  rfl

theorem of_destroy (hlook : Steady look)
    (h : exec (destroy : Action (Screen T E) ε Unit) s = (.ok (), s')) :
    Destroyed look s (outline look s') := by
  obtain ⟨_, s₁, hreport, h⟩ := of_exec_bind_ok h
  obtain ⟨hsession, hphase, hterminal⟩ := outline_eq_iff.mp ((report_keeps _).of_exec hreport)
  rw [exec_bind_ok (exec_get s₁)] at h
  cases hs : s₁.session with
  | none =>
    simp only [hs] at h
    cases h
    rw [outline_eq_iff.mpr ⟨hsession, hphase, hterminal⟩]
    exact .nothing (hsession.symm.trans hs)
  | some session =>
    simp only [hs] at h
    obtain ⟨_, s₂, hset, h⟩ := of_exec_bind_ok h
    cases hset
    obtain ⟨_, s₃, hdiscard, h⟩ := of_exec_bind_ok h
    obtain ⟨_, s₄, hcursor, h⟩ := of_exec_bind_ok h
    have h₄ : outline look s₄ = (none, s₁.phase, look s₁.terminal) :=
      ((restoreCursor_keeps hlook _).of_exec hcursor).trans
        ((Keeps.forM discardWindow_keeps _).of_exec hdiscard)
    simp only [outline, Prod.mk.injEq] at h₄
    have hdone := Destroyed.done (s := s) (hsession.symm.trans hs) (h₄.2.2.trans hterminal)
    cases halive : session.alive with
    | true =>
      simp only [halive] at h
      obtain ⟨_, s₅, hrelease, h⟩ := of_exec_bind_ok h
      obtain ⟨hsession₅, -, hterminal₅⟩ := of_releaseTerminal hlook hrelease
      rw [outline_ended h, hsession₅, h₄.1, hterminal₅]
      simpa [halive] using hdone
    | false =>
      simp only [halive] at h
      rw [outline_ended h, h₄.1]
      simpa [halive] using hdone

/-- The ways in which suspending can turn out. -/
inductive Suspended (look : T → γ) (s : Screen T E) :
    Except ScreenError Unit → Option Session × Phase × γ → Prop
  | inactive (h : s.phase ≠ .alive) : Suspended look s (.error .noActiveSession) (outline look s)
  | done {t : T} (h : s.phase = .alive) (ht : look t = look s.terminal) :
    Suspended look s (.ok ())
      (s.session.map ({ · with alive := false }), .suspended, look (exec Terminal.release t).2)

omit [WindowEngine E] in
theorem of_suspend {r : Except ScreenError Unit} (hlook : Steady look)
    (h : exec suspend s = (r, s')) : Suspended look s r (outline look s') := by
  rw [suspend, exec_bind_ok (exec_report ..), exec_bind_ok (exec_get _)] at h
  by_cases hphase : s.phase = .alive
  · simp only [hphase, bne_self_eq_false, Bool.false_eq_true, if_false] at h
    rw [exec_bind_ok (exec_modify ..)] at h
    obtain ⟨_, u, hrelease, h⟩ := releaseTerminal_fails.of_bind h
    obtain ⟨hsession, -, hterminal⟩ := of_releaseTerminal hlook hrelease
    cases h
    have hdone := Suspended.done hphase (hlook.saveProgramMode s.terminal)
    rw [← hsession, ← hterminal] at hdone
    exact hdone
  · simp only [bne_iff_ne, ne_eq, hphase, not_false_eq_true, if_true] at h
    cases h
    exact .inactive hphase

/-! ## Resuming -/

/-- The ways in which resuming can turn out. -/
inductive Resumed (look : T → γ) (s : Screen T E) :
    Except ScreenError Unit → Option Session × Phase × γ → Prop
  | already (h : s.phase = .alive) : Resumed look s (.ok ()) (outline look s)
  | refused (h : s.phase ≠ .alive)
    (hs : s.phase = .suspended → ∀ session, s.session = some session → session.consistent = false) :
    Resumed look s (.error .noActiveSession) (outline look s)
  | notReacquired {session : Session} {cause : TerminalError} {t : T} (h : s.phase = .suspended)
    (hs : s.session = some session) (hconsistent : session.consistent = true)
    (ht : exec Terminal.reacquire s.terminal = (.error cause, t)) :
    Resumed look s (.error (.platformOpen cause)) (some session, .suspended, look t)
  | done {session : Session} {t : T} (h : s.phase = .suspended)
    (hs : s.session = some session) (hconsistent : session.consistent = true)
    (ht : exec Terminal.reacquire s.terminal = (.ok (), t)) :
    Resumed look s (.ok ()) (some { session with alive := true }, .alive, look t)

theorem of_returnTo {session : Session} {r : Except ScreenError Unit} (hlook : Steady look)
    (h : exec (returnTo session) s = (r, s')) :
    (∃ cause t, exec Terminal.reacquire s.terminal = (.error cause, t) ∧
      r = .error (.platformOpen cause) ∧ outline look s' = (s.session, s.phase, look t)) ∨
    ∃ t, exec Terminal.reacquire s.terminal = (.ok (), t) ∧ r = .ok () ∧
      outline look s' = (some { session with alive := true }, .alive, look t) := by
  rcases of_onTerminal_bind hlook h with hrefused | ⟨_, t, u, ht, hu, h⟩
  · exact .inl hrefused
  refine .inr ⟨t, ht, ?_⟩
  simp only [outline, Prod.mk.injEq] at hu
  obtain ⟨a, v, hedit, h⟩ := (Fails.attempt _).of_bind h
  obtain ⟨-, -, hterminal⟩ := outline_eq_iff.mp
    ((edit_keeps _ _).attempt.of_exec hedit : outline look v = outline look u)
  rw [← hu.2.2, ← hterminal]
  cases a <;> cases h <;> exact ⟨rfl, rfl⟩

theorem of_resume {r : Except ScreenError Unit} (hlook : Steady look)
    (h : exec resume s = (r, s')) : Resumed look s r (outline look s') := by
  rw [resume, exec_bind_ok (exec_report ..), exec_bind_ok (exec_get _)] at h
  dsimp only at h
  split at h
  · cases h
    exact .already ‹_›
  · rename_i session hphase hs
    split at h
    · rcases of_returnTo hlook h with ⟨cause, t, ht, rfl, hs'⟩ | ⟨t, ht, rfl, hs'⟩
      · rw [hs', hphase, hs]
        exact .notReacquired hphase hs ‹_› ht
      · rw [hs']
        exact .done hphase hs ‹_› ht
    · rename_i hconsistent
      cases h
      refine .refused (by simp [hphase]) fun _ session' hs' => ?_
      cases hs.symm.trans hs'
      exact Bool.eq_false_iff.mpr hconsistent
  · rename_i halive hsuspended
    cases h
    exact .refused halive fun h session hs => absurd hs (hsuspended session h)

/-! ## Resizing -/

/-- The ways in which resizing can turn out. -/
inductive Resized (look : T → γ) (s : Screen T E) :
    Except ScreenError Session → Option Session × Phase × γ → Prop
  | inactive (h : s.phase = .alive → s.session = none) :
    Resized look s (.error .noActiveSession) (outline look s)
  | notGranted {cause : ScreenError} (h : s.phase = .alive)
    (hcause : ∀ e, cause ≠ .bufferAllocation e) : Resized look s (.error cause) (outline look s)
  | notLaidOut {session : Session} {cause : ScreenError} (h : s.phase = .alive)
    (hs : s.session = some session) (hcause : SizeError cause) :
    Resized look s (.error cause) (some { session with resized := true }, .alive, look s.terminal)
  | broken {session : Session} {cause : WindowError} (h : s.phase = .alive)
    (hs : s.session = some session) :
    Resized look s (.error (.bufferAllocation cause))
      (some { session with alive := false, consistent := false }, .suspended, look s.terminal)
  | done {session : Session} {layout : Layout} (h : s.phase = .alive)
    (hs : s.session = some session) :
    Resized look s (.ok { session with layout, resized := false })
      (some { session with layout, resized := false }, .alive, look s.terminal)

/-- Following the terminal turns out in one of the last three ways. -/
theorem of_follow {t : Screen T E} {session : Session} {r : Except ScreenError Session}
    (hlook : Steady look) (hphase : s.phase = .alive) (hs : s.session = some session)
    (ht : outline look t = outline look s) (h : exec (follow session) t = (r, s')) :
    Resized look s r (outline look s') := by
  obtain ⟨a, u, hlayout, h⟩ := (Fails.attempt _).of_bind h
  have hu : outline look u = outline look t := (relayOut_keeps hlook _).attempt.of_exec hlayout
  obtain ⟨hsession, hphase', hterminal⟩ := outline_eq_iff.mp (hu.trans ht)
  cases a with
  | error cause =>
    have hcause : SizeError cause := by
      simp only [exec_attempt, Prod.mk.injEq, Except.ok.injEq] at hlayout
      exact relayOut_fails session t u cause (Prod.ext hlayout.1 hlayout.2)
    cases h
    change Resized look s _ (u.session.map ({ · with resized := true }), u.phase, look u.terminal)
    rw [hsession, hphase', hterminal, hs, hphase]
    exact .notLaidOut hphase hs hcause
  | ok layout =>
    obtain ⟨a, v, hrearrange, h⟩ := (Fails.attempt _).of_bind h
    obtain ⟨hsession₂, hphase₂, hterminal₂⟩ := outline_eq_iff.mp
      ((rearrange_keeps _ _).attempt.of_exec hrearrange : outline look v = outline look u)
    cases a with
    | error cause =>
      cases h
      change Resized look s _ (_, .suspended, look v.terminal)
      rw [hterminal₂, hterminal]
      exact .broken hphase hs
    | ok _ =>
      cases h
      change Resized look s _ (_, v.phase, look v.terminal)
      rw [hphase₂, hphase', hphase, hterminal₂, hterminal]
      exact .done hphase hs

/-- What comes after the request for a size does not depend on whether there was one. -/
theorem of_follow_session {t : Screen T E} {r : Except ScreenError Session} (hlook : Steady look)
    (hphase : s.phase = .alive) (ht : outline look t = outline look s)
    (h : exec (do
      let some session := (← get).session | throw .noActiveSession
      follow session) t = (r, s')) :
    Resized look s r (outline look s') := by
  have hsession := (outline_eq_iff.mp ht).1
  rw [exec_bind_ok (exec_get t)] at h
  cases hs : t.session with
  | none =>
    simp only [hs] at h
    cases h
    rw [ht]
    exact .inactive fun _ => hsession.symm.trans hs
  | some session =>
    simp only [hs] at h
    exact of_follow hlook hphase (hsession.symm.trans hs) ht h

theorem of_resize {rows cols : Nat} {r : Except ScreenError Session} (hlook : Steady look)
    (h : exec (resize rows cols) s = (r, s')) : Resized look s r (outline look s') := by
  obtain ⟨_, s₀, hreport, h⟩ := (report_fails _).of_bind h
  have hs₀ : outline look s₀ = outline look s := (report_keeps _).of_exec hreport
  rw [exec_bind_ok (exec_get s₀), (outline_eq_iff.mp hs₀).2.1] at h
  by_cases hphase : s.phase = .alive
  · simp only [hphase, bne_self_eq_false, Bool.false_eq_true, if_false] at h
    rw [exec_ite] at h
    split at h
    · rw [exec_bind] at h
      rcases hr : exec (requestSize rows cols) s₀ with ⟨cause | _, t⟩ <;> rw [hr] at h
      · cases h
        have ht : outline look s' = outline look s₀ := (requestSize_keeps hlook _ _).of_exec hr
        rw [ht, hs₀]
        refine .notGranted hphase fun e he => ?_
        subst he
        rcases requestSize_fails rows cols _ _ _ hr with h | ⟨_, h⟩ <;> cases h
      · have ht : outline look t = outline look s₀ := (requestSize_keeps hlook _ _).of_exec hr
        exact of_follow_session hlook hphase (ht.trans hs₀) h
    · exact of_follow_session hlook hphase hs₀ h
  · simp only [bne_iff_ne, ne_eq, hphase, not_false_eq_true, if_true] at h
    cases h
    rw [hs₀]
    exact .inactive fun h => absurd h hphase

/-! ## Creating -/

/-- What a session is created on: the screen as it is, or after a suspended session has been
destroyed. -/
inductive Cleared (look : T → γ) (s : Screen T E) : Option Session × Phase × γ → Prop
  | same (h : s.phase ≠ .suspended) : Cleared look s (outline look s)
  | destroyed {o : Option Session × Phase × γ} (h : s.phase = .suspended)
    (ho : Destroyed look s o) : Cleared look s o

/-- The ways in which creating can turn out. -/
inductive Created (look : T → γ) (args : List String) (s : Screen T E) :
    Except ScreenError Session → Option Session × Phase × γ → Prop
  | already (h : s.phase = .alive) : Created look args s (.error .alreadyActive) (outline look s)
  | notAcquired {session : Option Session} {phase : Phase} {t t' : T} {cause : TerminalError}
    (h : s.phase ≠ .alive) (hcleared : Cleared look s (session, phase, look t))
    (ht : exec (Terminal.acquire args) t = (.error cause, t')) :
    Created look args s (.error (.platformOpen cause)) (session, phase, look t')
  | notBuilt {session : Option Session} {phase : Phase} {t t' t'' : T} {cause : ScreenError}
    (h : s.phase ≠ .alive) (hcleared : Cleared look s (session, phase, look t))
    (ht : exec (Terminal.acquire args) t = (.ok (), t')) (ht' : look t'' = look t')
    (hcause : BuildError cause) :
    Created look args s (.error cause) (session, .uncreated, look (exec Terminal.release t'').2)
  | done {before : Option Session} {phase : Phase} {t t' : T} {session : Session}
    (h : s.phase ≠ .alive) (hcleared : Cleared look s (before, phase, look t))
    (ht : exec (Terminal.acquire args) t = (.ok (), t')) (halive : session.alive = true)
    (hconsistent : session.consistent = true) (hresized : session.resized = false) :
    Created look args s (.ok session) (some session, .alive, look t')

omit [WindowEngine E] in
/-- Starting a session never fails, and makes a session of the terminal at hand. -/
theorem of_begin {layout : Layout} {windows : WindowSet} {r : Except ScreenError Session}
    (hlook : Steady look) (h : exec (begin layout windows) s = (r, s')) :
    ∃ session : Session, r = .ok session ∧ session.alive = true ∧ session.consistent = true ∧
      session.resized = false ∧ outline look s' = (some session, .alive, look s.terminal) := by
  rw [begin, exec_bind_ok (exec_modify ..), exec_bind_ok (exec_get _)] at h
  obtain ⟨_, t, hcursor, h⟩ := shapeCursor_fails.of_bind h
  have hterminal : look t.terminal = look s.terminal :=
    congrArg (·.2.2) ((shapeCursor_keeps hlook).of_exec hcursor)
  cases h
  refine ⟨_, rfl, rfl, rfl, rfl, ?_⟩
  change (_, Phase.alive, look (Terminal.saveShellMode t.terminal)) = _
  rw [hlook.saveShellMode, hterminal]

/-- What comes after the old session is out of the way. -/
theorem of_create_cleared {args : List String} {t : Screen T E} {r : Except ScreenError Session}
    (hlook : Steady look) (hphase : s.phase ≠ .alive) (hcleared : Cleared look s (outline look t))
    (h : exec (do
      (onTerminal (Terminal.acquire args)).mapError .platformOpen
      match ← build.attempt with
      | .error cause =>
        releaseTerminal
        modify ({ · with phase := .uncreated })
        report (.createFailed cause)
        throw cause
      | .ok (layout, windows) => begin layout windows) t = (r, s')) :
    Created look args s r (outline look s') := by
  rcases of_onTerminal_bind hlook h with ⟨cause, t', ht', rfl, hs'⟩ | ⟨_, t', u, ht', hu, h⟩
  · rw [hs']
    exact .notAcquired hphase hcleared ht'
  obtain ⟨a, v, hbuild, h⟩ := (Fails.attempt _).of_bind h
  have hv : outline look v = outline look u := (build_keeps hlook).attempt.of_exec hbuild
  simp only [outline, Prod.mk.injEq] at hu hv
  cases a with
  | error cause =>
    obtain ⟨_, w, hrelease, h⟩ := releaseTerminal_fails.of_bind h
    obtain ⟨hsession, -, hterminal⟩ := of_releaseTerminal hlook hrelease
    cases h
    have hcause : BuildError cause := by
      simp only [exec_attempt, Prod.mk.injEq, Except.ok.injEq] at hbuild
      exact build_fails u v cause (Prod.ext hbuild.1 hbuild.2)
    change Created look args s _ (w.session, .uncreated, look w.terminal)
    rw [hsession, hv.1, hu.1, hterminal]
    exact .notBuilt hphase hcleared ht' (hv.2.2.trans hu.2.2) hcause
  | ok built =>
    obtain ⟨session, rfl, halive, hconsistent, hresized, hs'⟩ := of_begin hlook h
    rw [hs', hv.2.2, hu.2.2]
    exact .done hphase hcleared ht' halive hconsistent hresized

theorem of_create {args : List String} {r : Except ScreenError Session} (hlook : Steady look)
    (h : exec (create args) s = (r, s')) : Created look args s r (outline look s') := by
  obtain ⟨_, s₀, hreport, h⟩ := (report_fails _).of_bind h
  have hs₀ : outline look s₀ = outline look s := (report_keeps _).of_exec hreport
  rw [exec_bind_ok (exec_get s₀), (outline_eq_iff.mp hs₀).2.1] at h
  have hsame (h : s.phase ≠ .suspended) : Cleared look s (outline look s₀) := by
    rw [hs₀]
    exact .same h
  cases hphase : s.phase with
  | alive =>
    rw [hphase] at h
    cases h
    rw [hs₀]
    exact .already hphase
  | suspended =>
    simp only [hphase] at h
    obtain ⟨_, t, hdestroy, h⟩ := destroy_fails.of_bind h
    have hdestroyed := (of_destroy hlook hdestroy).of_outline hs₀
    exact of_create_cleared hlook (by simp [hphase]) (.destroyed hphase hdestroyed) h
  | uncreated | destroyed =>
    simp only [hphase] at h
    exact of_create_cleared hlook (by simp [hphase]) (hsame (by simp [hphase])) h

end TerminalSession.Screen
