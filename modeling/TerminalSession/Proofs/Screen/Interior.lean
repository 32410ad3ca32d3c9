import TerminalSession.Proofs.Engine.Changes
import TerminalSession.Proofs.Screen.Failures
import TerminalSession.Proofs.Screen.Outline

/-!
# The interior of a screen

The interior of a screen is everything but its terminal and its reports. Whatever is done with the
terminal keeps it, so what a call does to windows, labels, waiting lines and session depends on the
terminal's answers only. This module has the small calls; the windows of a session are made in
`Building` and changed in `Rearranging`.
-/

namespace TerminalSession

open TerminalSession.Action

/-- What there is of a screen besides its terminal and its reports. -/
structure Interior (E : Type) where
  engine : E
  config : Config
  labels : SoftLabels
  pending : List (Registration E)
  session : Option Session
  phase : Phase

/-- The labels that a configuration asks for. -/
def SoftLabels.ofConfig (config : Config) : SoftLabels :=
  if config.labels.enabled then
    match SoftLabels.init {} config.labels.format with
    | .ok labels => labels
    | .error _ => {}
  else {}

namespace Screen

variable {T E ε δ α : Type} {s s' : Screen T E}

def interior (s : Screen T E) : Interior E where
  engine := s.engine
  config := s.config
  labels := s.labels
  pending := s.pending
  session := s.session
  phase := s.phase

/-- A new screen has no session, no waiting lines, and the labels of its configuration. -/
theorem interior_new {terminal : T} {engine : E} {config : Config}
    (h : Screen.new terminal engine config = .ok s) :
    s.interior = ⟨engine, config, .ofConfig config, [], none, .uncreated⟩ := by
  unfold Screen.new at h
  split at h
  · rename_i henabled
    split at h
    · rename_i labels hinit
      cases h
      simp [interior, SoftLabels.ofConfig, henabled, hinit]
    · cases h
  · rename_i henabled
    cases h
    simp [interior, SoftLabels.ofConfig, henabled]

/-! ## Reports and the terminal -/

theorem interior_report (event : ScreenEvent) :
    Keeps interior (report event : Action (Screen T E) ε Unit) := fun _ => rfl

section Terminal

variable [Terminal T]

theorem interior_onTerminal (x : Action T ε α) :
    Keeps interior (onTerminal x : Action (Screen T E) ε α) := fun _ => rfl

theorem interior_releaseTerminal :
    Keeps interior (releaseTerminal : Action (Screen T E) ε Unit) :=
  .attempt_bind (interior_onTerminal _) (fun _ => .pure ()) fun _ => interior_report _

theorem interior_restoreCursor (shape : CursorShape) :
    Keeps interior (restoreCursor shape : Action (Screen T E) ε Unit) :=
  .attempt_bind (interior_onTerminal _) (fun _ => .pure ()) fun _ => interior_report _

theorem interior_shapeCursor :
    Keeps interior (shapeCursor : Action (Screen T E) ScreenError Unit) := by
  refine .bind .get fun s => ?_
  split
  · exact .attempt_bind (interior_onTerminal _) (fun _ => .pure ()) fun _ => interior_report _
  · exact .pure ()

theorem interior_measure :
    Keeps interior (measure : Action (Screen T E) ScreenError (Nat × Nat)) := by
  refine .bind (interior_onTerminal _) fun rows => .bind (interior_onTerminal _) fun cols => ?_
  exact .ite _ (.throw_bind _ _) (.ite _ (.throw_bind _ _) (.pure _))

theorem interior_requestSize (rows cols : Nat) :
    Keeps interior (requestSize rows cols : Action (Screen T E) ScreenError Unit) :=
  .ite _ (.throw_bind _ _) (.mapError (interior_onTerminal _) _)

theorem interior_relayOut (session : Session) :
    Keeps interior (relayOut session : Action (Screen T E) ScreenError Layout) := by
  refine .bind interior_measure fun (rows, cols) => ?_
  dsimp only
  split
  · exact .pure _
  · exact .throw _

end Terminal

/-! ## Windows -/

theorem exec_onEngine (x : Action E ε α) (s : Screen T E) :
    exec (onEngine x) s = ((exec x s.engine).1, { s with engine := (exec x s.engine).2 }) := rfl

section Buffers

variable {s : Screen T Buffers} {b : Buffers} {id : WindowId} {e : Edit}

theorem exec_edit_ok (h : s.engine.edit id e = .ok ((), b)) :
    exec (edit id e) s = (.ok (), { s with engine := b }) := by
  rw [edit, exec_onEngine, Buffers.exec_edit, h]

theorem exec_edit_error {cause : WindowError} (h : s.engine.edit id e = .error cause) :
    exec (edit id e) s = (.error cause, s) := by
  rw [edit, exec_onEngine, Buffers.exec_edit, h]

/-- An edit that is no resize either succeeds or finds no window, and changes no other. -/
theorem exec_edit_or (id : WindowId) (he : e.isResize = false) :
    ∃ r, exec (edit id e) s = (r, { s with engine := s.engine.modifyWindow id (·.edit e) }) := by
  cases hw : s.engine.window? id with
  | some w => exact ⟨_, exec_edit_ok (Buffers.edit_eq he hw)⟩
  | none =>
    rw [Buffers.modifyWindow_of_none hw]
    exact ⟨_, exec_edit_error (Buffers.edit_unknown he hw)⟩

end Buffers

end Screen

/-! ## Destroying -/

/-- The interior of a screen after its session has been destroyed. -/
def Interior.ended (i : Interior Buffers) : Interior Buffers :=
  match i.session with
  | none => i
  | some session =>
    { i with
      engine := i.engine.discard session.windows.all
      labels := .ofConfig i.config
      session := none
      phase := .destroyed }

/-- What a session is created on. -/
def Interior.cleared (i : Interior Buffers) : Interior Buffers :=
  if i.phase = .suspended then i.ended else i

theorem Interior.cleared_of_suspended {i : Interior Buffers} (h : i.phase = .suspended) :
    i.cleared = i.ended := if_pos h

theorem Interior.cleared_of_ne {i : Interior Buffers} (h : i.phase ≠ .suspended) :
    i.cleared = i := if_neg h

@[simp] theorem Interior.pending_ended (i : Interior Buffers) : i.ended.pending = i.pending := by
  rw [ended]
  split <;> rfl

@[simp] theorem Interior.pending_cleared (i : Interior Buffers) : i.cleared.pending = i.pending := by
  rw [cleared]
  split
  · exact i.pending_ended
  · rfl

@[simp] theorem Interior.config_ended (i : Interior Buffers) : i.ended.config = i.config := by
  rw [ended]
  split <;> rfl

@[simp] theorem Interior.config_cleared (i : Interior Buffers) : i.cleared.config = i.config := by
  rw [cleared]
  split
  · exact i.config_ended
  · rfl

namespace Screen

variable {T ε : Type} {s s' : Screen T Buffers}

theorem interior_discardWindow (id : WindowId) (s : Screen T Buffers) :
    (exec (discardWindow id : Action (Screen T Buffers) ε Unit) s).2.interior =
      { s.interior with engine := s.engine.discard [id] } := by
  have hengine := exec_onEngine (WindowEngine.destroy (E := Buffers) id) s
  rw [discardWindow, exec_bind, exec_attempt, hengine, Buffers.exec_destroy]
  dsimp only
  split <;> rfl

theorem interior_forM_discardWindow (ids : List WindowId) (s : Screen T Buffers) :
    (exec (ids.forM discardWindow : Action (Screen T Buffers) ε Unit) s).2.interior =
      { s.interior with engine := s.engine.discard ids } := by
  induction ids generalizing s with
  | nil => rfl
  | cons id ids ih =>
    have hfails : Fails (fun _ => False) (discardWindow id : Action (Screen T Buffers) ε Unit) :=
      discardWindow_fails id
    obtain ⟨_, t, ht⟩ := hfails.exec_ok s
    have hfirst : t.interior = _ :=
      (congrArg (·.2.interior) ht).symm.trans (interior_discardWindow id s)
    have hrun : exec ((id :: ids).forM discardWindow : Action (Screen T Buffers) ε Unit) s =
        exec (ids.forM discardWindow) t := exec_bind_ok ht
    rw [hrun, ih]
    have hengine : t.engine = s.engine.discard [id] := congrArg Interior.engine hfirst
    rw [hfirst, hengine]
    rfl

/-- Labels that have been freed become those of the configuration. -/
theorem interior_resetLabels (hlabels : s.labels = {}) :
    (exec (resetLabels : Action (Screen T Buffers) ε Unit) s).2.interior =
      { s.interior with labels := .ofConfig s.config } := by
  rw [resetLabels, exec_bind_ok (exec_get s), exec_ite, hlabels, SoftLabels.ofConfig]
  split
  · split <;> simp_all [interior]
  · simp [interior, hlabels]

/-- Whether the terminal is given back or not, a session ends in the same way. -/
theorem interior_ending (hlabels : s.labels = {}) :
    (exec (do
      resetLabels
      modify ({ · with phase := .destroyed })
      report .destroyed : Action (Screen T Buffers) ε Unit) s).2.interior =
      { s.interior with labels := .ofConfig s.config, phase := .destroyed } := by
  have hfails : Fails (fun _ => False) (resetLabels : Action (Screen T Buffers) ε Unit) :=
    resetLabels_fails
  obtain ⟨_, t, ht⟩ := hfails.exec_ok s
  have hreset : t.interior = _ :=
    (congrArg (·.2.interior) ht).symm.trans (interior_resetLabels hlabels)
  rw [exec_bind_ok ht, exec_bind_ok (exec_modify ..), exec_report]
  change { t.interior with phase := .destroyed } = _
  rw [hreset]

theorem interior_destroy [Terminal T] (s : Screen T Buffers) :
    (exec (destroy : Action (Screen T Buffers) ε Unit) s).2.interior = s.interior.ended := by
  rw [destroy, exec_bind_ok (exec_report ..), exec_bind_ok (exec_get _)]
  cases hs : s.session with
  | none =>
    simp only [Interior.ended, interior, hs]
    rfl
  | some session =>
    rw [exec_bind_ok (exec_set ..)]
    have hdiscards : Fails (fun _ => False)
        (session.windows.all.forM discardWindow : Action (Screen T Buffers) ε Unit) :=
      .forM discardWindow_fails _
    obtain ⟨_, t, hdiscard⟩ := hdiscards.exec_ok
      { s with events := s.events.push .destroying, session := none, labels := s.labels.free }
    have ht : t.interior = _ :=
      (congrArg (·.2.interior) hdiscard).symm.trans (interior_forM_discardWindow ..)
    have hrestores : Fails (fun _ => False)
        (restoreCursor session.cursorBefore : Action (Screen T Buffers) ε Unit) :=
      restoreCursor_fails _
    obtain ⟨_, u, hcursor⟩ := hrestores.exec_ok t
    have hu : u.interior = _ := ((interior_restoreCursor _).of_exec hcursor).trans ht
    have hlabels : u.labels = {} := congrArg Interior.labels hu
    have hended : { u.interior with labels := .ofConfig u.config, phase := .destroyed } =
        s.interior.ended := by
      have hconfig : u.config = s.config := congrArg Interior.config hu
      rw [hu, hconfig]
      simp only [Interior.ended, interior, hs]
    rw [exec_bind_ok hdiscard, exec_bind_ok hcursor, ← hended]
    cases halive : session.alive with
    | true =>
      have hreleases : Fails (fun _ => False) (releaseTerminal : Action (Screen T Buffers) ε Unit) :=
        releaseTerminal_fails
      obtain ⟨_, v, hrelease⟩ := hreleases.exec_ok u
      have hv := (interior_releaseTerminal).of_exec hrelease
      have hlabels' : v.labels = {} := (congrArg Interior.labels hv).trans hlabels
      have hconfig' : v.config = u.config := congrArg Interior.config hv
      simp only [if_true]
      rw [exec_bind_ok hrelease, ← hv, ← hconfig']
      exact interior_ending hlabels'
    | false => exact interior_ending hlabels

end Screen

end TerminalSession
