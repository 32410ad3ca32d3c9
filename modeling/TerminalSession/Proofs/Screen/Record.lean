import Mathlib.Data.List.Induction
import TerminalSession.Proofs.Screen.Life
import TerminalSession.Proofs.Screen.Outcome

/-!
# What a screen records

That a session is alive is recorded in the phase of the screen and in the session, and each call
keeps the two in step (`Recorded`). That the terminal may have another size than the layout is
recorded until the session catches up with it. What is recorded is told by the calls of a life,
whatever the terminal and the engine do (`record_agrees`).
-/

namespace TerminalSession

open TerminalSession.Action

/-! ## What has happened since -/

section

variable {α : Type} {P Q : α → Prop} {l : List α} {x : α}

/-- Something of the first kind has happened, and nothing of the second kind after it. -/
def Since (P Q : α → Prop) (l : List α) : Prop :=
  ∃ before x after, l = before ++ x :: after ∧ P x ∧ ∀ y ∈ after, ¬ Q y

theorem since_concat : Since P Q (l ++ [x]) ↔ P x ∨ Since P Q l ∧ ¬ Q x := by
  constructor
  · rintro ⟨before, y, after, hl, hy, hafter⟩
    rcases List.eq_nil_or_concat after with rfl | ⟨rest, z, rfl⟩
    · obtain ⟨-, hxy⟩ := List.append_inj' hl rfl
      cases hxy
      exact .inl hy
    · have hlast : l ++ [x] = (before ++ y :: rest) ++ [z] := by simpa using hl
      obtain ⟨hrest, hxz⟩ := List.append_inj' hlast rfl
      cases hxz
      exact .inr ⟨⟨before, y, rest, hrest, hy, fun w hw => hafter w (by simp [hw])⟩,
        hafter x (by simp)⟩
  · rintro (hx | ⟨⟨before, y, after, rfl, hy, hafter⟩, hx⟩)
    · exact ⟨l, x, [], rfl, hx, nofun⟩
    · refine ⟨before, y, after ++ [x], by simp, hy, fun z hz => ?_⟩
      rcases List.mem_append.mp hz with hz | hz
      · exact hafter z hz
      · rwa [List.mem_singleton.mp hz]

end

/-- Whether a call goes on with the session there is. -/
def Call.continues {E : Type} : Call E → Bool
  | .suspend | .resume | .resize .. => true
  | _ => false

/-- Whether a call ends the session there is, or puts another in its place. -/
def Call.replaces {E : Type} : Call E → Bool
  | .create _ | .destroy => true
  | _ => false

/-! ## Session and phase -/

namespace Screen

section

variable {T E : Type} {s : Screen T E} {session : Session}

/-- Session and phase of a screen. -/
abbrev record (s : Screen T E) : Option Session × Phase × Unit := s.outline fun _ => ()

/-- How session and phase go together, if the layout of the session is outdated or not. -/
inductive Recorded (outdated : Prop) : Option Session × Phase × Unit → Prop
  | alive {session : Session} (halive : session.alive = true)
    (hconsistent : session.consistent = true) (hresized : session.resized = true ↔ outdated) :
    Recorded outdated (some session, .alive, ())
  | suspended {session : Session} (halive : session.alive = false)
    (hresized : session.resized = true ↔ outdated) :
    Recorded outdated (some session, .suspended, ())
  | uncreated : Recorded outdated (none, .uncreated, ())
  | destroyed : Recorded outdated (none, .destroyed, ())

namespace Recorded

variable {p p' : Prop} {o : Option Session × Phase × Unit}

theorem eq_iff {session : Option Session} {phase : Phase} :
    record s = (session, phase, ()) ↔ s.session = session ∧ s.phase = phase := by
  simp [record, outline]

theorem congr (h : Recorded p o) (hp : p ↔ p') : Recorded p' o := propext hp ▸ h

/-- Nothing is outdated without a session. -/
theorem of_none (h : Recorded p o) (hs : o.1 = none) : Recorded p' o := by
  cases h with
  | alive | suspended => cases hs
  | uncreated => exact .uncreated
  | destroyed => exact .destroyed

/-- While a screen is alive, so is its session. -/
theorem of_alive (h : Recorded p (record s)) (hphase : s.phase = .alive)
    (hs : s.session = some session) : session.alive = true ∧ session.consistent = true ∧
      (session.resized = true ↔ p) := by
  generalize ho : record s = o at h
  cases h with
  | alive halive hconsistent hresized =>
    cases hs.symm.trans (eq_iff.mp ho).1
    exact ⟨halive, hconsistent, hresized⟩
  | suspended | uncreated | destroyed => cases hphase.symm.trans (eq_iff.mp ho).2

theorem of_suspended (h : Recorded p (record s)) (hphase : s.phase = .suspended)
    (hs : s.session = some session) : session.alive = false ∧ (session.resized = true ↔ p) := by
  generalize ho : record s = o at h
  cases h with
  | suspended halive hresized =>
    cases hs.symm.trans (eq_iff.mp ho).1
    exact ⟨halive, hresized⟩
  | alive | uncreated | destroyed => cases hphase.symm.trans (eq_iff.mp ho).2

theorem session_eq_none (h : Recorded p (record s)) (halive : s.phase ≠ .alive)
    (hsuspended : s.phase ≠ .suspended) : s.session = none := by
  generalize ho : record s = o at h
  cases h with
  | alive => exact absurd (eq_iff.mp ho).2 halive
  | suspended => exact absurd (eq_iff.mp ho).2 hsuspended
  | uncreated | destroyed => exact (eq_iff.mp ho).1

theorem exists_session (h : Recorded p (record s)) (hphase : s.phase = .alive) :
    ∃ session, s.session = some session := by
  generalize ho : record s = o at h
  cases h with
  | alive => exact ⟨_, (eq_iff.mp ho).1⟩
  | suspended | uncreated | destroyed => cases hphase.symm.trans (eq_iff.mp ho).2

/-- What is done to a session by itself keeps it in step with the phase. -/
theorem map {f : Session → Session} (h : Recorded p (record s))
    (hf : ∀ session, (f session).alive = session.alive ∧
      (f session).consistent = session.consistent)
    (hmark : ∀ session, (session.resized = true ↔ p) → ((f session).resized = true ↔ p')) :
    Recorded p' (s.session.map f, s.phase, ()) := by
  generalize ho : record s = o at h
  obtain ⟨hs, hphase⟩ : s.session = o.1 ∧ s.phase = o.2.1 := eq_iff.mp ho
  rw [hs, hphase]
  cases h with
  | alive halive hconsistent hresized =>
    exact .alive ((hf _).1.trans halive) ((hf _).2.trans hconsistent) (hmark _ hresized)
  | suspended halive hresized => exact .suspended ((hf _).1.trans halive) (hmark _ hresized)
  | uncreated => exact .uncreated
  | destroyed => exact .destroyed

/-- What is read off a screen of phase, session and marks. -/
theorem reads (h : Recorded p (record s)) :
    (s.phase = .alive ↔ ∃ session, s.session = some session ∧ session.alive = true) ∧
    (s.phase = .suspended ↔ ∃ session, s.session = some session ∧ session.alive = false) ∧
    (s.phase = .uncreated ∨ s.phase = .destroyed ↔ s.session = none) ∧
    (s.isSuspended = true ↔ s.phase = .suspended) ∧
    (s.isResized = true ↔ s.session ≠ none ∧ p) := by
  generalize ho : record s = o at h
  obtain ⟨hs, hphase⟩ : s.session = o.1 ∧ s.phase = o.2.1 := eq_iff.mp ho
  rw [isSuspended, isResized, hs, hphase]
  cases h with
  | alive halive _ hresized => simp [halive, hresized]
  | suspended halive hresized => simp [halive, hresized]
  | uncreated | destroyed => simp

end Recorded

end

end Screen

/-! ## Sizes that a terminal may come to -/

section

variable {T : Type} [Terminal T]

/-- The rows and the columns that are read from a terminal, one after the other. -/
def reading (t : T) : Int × Int :=
  ((Terminal.rows (T := T) t).1,
    (Terminal.columns (T := T) (Terminal.forgetEvents (Terminal.rows (T := T) t).2)).1)

/-- A terminal that has been asked for a size. -/
def asked (rows cols : Nat) (t : T) : T :=
  if rows = 0 ∧ cols = 0 then t else Terminal.forgetEvents (exec (Terminal.resize rows cols) t).2

end

/-- Whether rows and columns are so many as a session can have. -/
def InRange (size : Int × Int) : Prop :=
  2 ≤ size.1 ∧ 2 ≤ size.2 ∧ size.1 ≤ Screen.maxDimension ∧ size.2 ≤ Screen.maxDimension

/-- Whether a terminal of this size can be laid out for a session. -/
def Session.Suits (session : Session) (size : Int × Int) : Prop :=
  InRange size ∧ ∃ l, Layout.allocate size.1.toNat size.2.toNat session.layout.sides
    session.layout.strip = .ok l

namespace Screen

variable {T E : Type} [Terminal T] {s s' t : Screen T E} {session : Session} {rows cols : Nat}

/-- Measuring succeeds exactly on a size that a session can have. -/
theorem measure_outcome (s : Screen T E) :
    (InRange (reading s.terminal) ∧ ∃ s', exec measure s =
      (.ok ((reading s.terminal).1.toNat, (reading s.terminal).2.toNat), s')) ∨
    (¬ InRange (reading s.terminal) ∧ ∃ cause s', exec measure s = (.error cause, s')) := by
  obtain ⟨s₁, hrows, hs₁⟩ : ∃ s₁, exec (onTerminal (monadLift (Terminal.rows (T := T)))) s =
      (.ok (reading s.terminal).1, s₁) ∧
        s₁.terminal = Terminal.forgetEvents (Terminal.rows (T := T) s.terminal).2 := ⟨_, rfl, rfl⟩
  obtain ⟨s₂, hcols⟩ : ∃ s₂, exec (onTerminal (monadLift (Terminal.columns (T := T)))) s₁ =
      (.ok (reading s.terminal).2, s₂) := by
    rw [reading, ← hs₁]
    exact ⟨_, rfl⟩
  rw [measure, exec_bind_ok hrows, exec_bind_ok hcols]
  generalize reading s.terminal = size
  simp only [exec_ite, InRange]
  split
  · exact .inr ⟨by omega, _, _, rfl⟩
  split
  · exact .inr ⟨by omega, _, _, rfl⟩
  · exact .inl ⟨by omega, _, rfl⟩

theorem relayOut_outcome (session : Session) (s : Screen T E) :
    (session.Suits (reading s.terminal) ∧ ∃ l s', exec (relayOut session) s = (.ok l, s')) ∨
    (¬ session.Suits (reading s.terminal) ∧
      ∃ cause s', exec (relayOut session) s = (.error cause, s')) := by
  rcases measure_outcome s with ⟨hrange, s', hmeasure⟩ | ⟨hrange, cause, s', hmeasure⟩
  · rw [relayOut, exec_bind_ok hmeasure, Session.Suits, and_iff_right hrange]
    dsimp only
    cases hl : Layout.allocate (reading s.terminal).1.toNat (reading s.terminal).2.toNat
        session.layout.sides session.layout.strip with
    | ok l => exact .inl ⟨⟨l, rfl⟩, l, s', rfl⟩
    | error cause => exact .inr ⟨nofun, _, s', rfl⟩
  · rw [relayOut, exec_bind_error hmeasure]
    exact .inr ⟨fun h => hrange h.1, cause, s', rfl⟩

variable [WindowEngine E]

/-- A session that is alive follows the terminal if the terminal grants the size. -/
theorem exec_resize (hphase : s.phase = .alive) (hs : s.session = some session) (rows cols : Nat) :
    ∃ t : Screen T E, t.session = some session ∧
      ((¬ Granted rows cols s.terminal ∧ ∃ cause, exec (resize rows cols) s = (.error cause, t)) ∨
        (Granted rows cols s.terminal ∧ t.terminal = asked rows cols s.terminal ∧
          exec (resize rows cols) s = exec (follow session) t)) := by
  rw [resize, exec_bind_ok (exec_report ..), exec_bind_ok (exec_get _)]
  simp only [hphase, bne_self_eq_false, Bool.false_eq_true, if_false]
  rw [exec_ite]
  split
  · rename_i hasked
    have hnonzero : ¬(rows = 0 ∧ cols = 0) := by omega
    rw [requestSize, exec_bind, exec_ite]
    by_cases hsmall : rows < 2 ∨ cols < 2
    · rw [if_pos hsmall]
      refine ⟨_, ?_, .inl ⟨?_, _, rfl⟩⟩
      · exact hs
      · rintro (⟨hrows, hcols⟩ | ⟨hrows, hcols, -⟩) <;> omega
    rw [if_neg hsmall]
    simp only [exec_mapError, onTerminal, exec_ofFn]
    rcases hgrant : exec (Terminal.resize rows cols) s.terminal with ⟨cause | _, t⟩
    · refine ⟨_, ?_, .inl ⟨?_, _, rfl⟩⟩
      · exact hs
      · rintro (hzero | ⟨-, -, hgranted⟩)
        · exact hnonzero hzero
        · rw [hgrant] at hgranted
          cases hgranted
    · have hgranted : Granted rows cols s.terminal := .inr ⟨by omega, by omega, by rw [hgrant]⟩
      refine ⟨{ s with
        terminal := Terminal.forgetEvents t
        events := s.events.push (.resizing rows cols) ++ (Terminal.events t).map .terminal },
        hs, .inr ⟨hgranted, ?_, ?_⟩⟩
      · rw [asked, if_neg hnonzero, hgrant]
      · dsimp only [Except.mapError]
        rw [exec_bind_ok (exec_get _)]
        simp only [hs, hphase]
  · rename_i hasked
    have hzero : rows = 0 ∧ cols = 0 := by omega
    refine ⟨{ s with events := s.events.push (.resizing rows cols) }, hs,
      .inr ⟨.inl hzero, (if_pos hzero).symm, ?_⟩⟩
    rw [exec_bind_ok (exec_get _)]
    simp only [hs, hphase]

/-- Whether a resize is granted a size that the session cannot follow it to. -/
def Outgrown (rows cols : Nat) (s : Screen T E) : Prop :=
  s.phase = .alive ∧ Granted rows cols s.terminal ∧
    ∃ session, s.session = some session ∧ ¬ session.Suits (reading (asked rows cols s.terminal))

omit [Terminal T] [WindowEngine E] in
theorem isResized_of_session (hs : s.session = some session) : s.isResized = session.resized := by
  rw [isResized, hs]
  rfl

/-- Nothing but a session with windows can be resized. -/
theorem steady_unit : Steady fun _ : T => () :=
  ⟨fun _ => rfl, fun _ => rfl, fun _ _ _ => rfl, fun _ _ => rfl, fun _ => rfl, fun _ => rfl,
    fun _ => rfl⟩

/-- A session that cannot follow is marked, and one that follows is not any more. -/
theorem isResized_follow {r : Except ScreenError Session} (hs : t.session = some session)
    (h : exec (follow session) t = (r, s')) :
    s'.isResized = true ↔ ¬ session.Suits (reading t.terminal) ∨
      session.resized = true ∧ ∀ session', r ≠ .ok session' := by
  rw [follow, exec_bind, exec_attempt] at h
  have hkept : ∀ {r t'}, exec (relayOut session) t = (r, t') → t'.session = some session :=
    fun hrun => ((outline_eq_iff.mp ((relayOut_keeps steady_unit session).of_exec hrun)).1).trans hs
  rcases relayOut_outcome session t with ⟨hsuits, l, t', hrun⟩ | ⟨hsuits, cause, t', hrun⟩
  · rw [hrun] at h
    dsimp only at h
    rw [exec_bind, exec_attempt] at h
    dsimp only at h
    split at h
    · cases h
      simp [isResized, hsuits]
    · cases h
      simp [isResized, hsuits]
  · rw [hrun] at h
    cases h
    simp [hsuits, isResized, reportResize, hkept hrun]

/-- A session that cannot follow the terminal is marked, and one that has followed it is not. -/
theorem isResized_resize {r : Except ScreenError Session} (hphase : s.phase = .alive)
    (hs : s.session = some session) (h : exec (resize rows cols) s = (r, s')) :
    s'.isResized = true ↔
      Outgrown rows cols s ∨ session.resized = true ∧ ∀ session', r ≠ .ok session' := by
  have houtgrown : Outgrown rows cols s ↔
      Granted rows cols s.terminal ∧ ¬ session.Suits (reading (asked rows cols s.terminal)) := by
    simp [Outgrown, hphase, hs]
  obtain ⟨t, ht, ⟨hrefused, cause, hrun⟩ | ⟨hgranted, hterminal, hrun⟩⟩ :=
    exec_resize hphase hs rows cols
  · rw [hrun] at h
    cases h
    rw [isResized_of_session ht]
    simp [houtgrown, hrefused]
  · rw [hrun] at h
    rw [isResized_follow ht h, hterminal, houtgrown, and_iff_right hgranted]

/-! ## Calls -/

/-- The calls after which the terminal may have another size than the layout. -/
def Outdates : Screen T E × Call E → Prop
  | (_, .reportResize) => True
  | (s, .resize rows cols) => Outgrown rows cols s
  | _ => False

/-- The calls after which the layout is that of the terminal. -/
def Settles (x : Screen T E × Call E) : Prop :=
  match x.2 with
  | .create _ | .resize .. => (exec x.2.action x.1).1 = .ok ()
  | _ => False

namespace Recorded

variable {p q : Prop} {o : Option Session × Phase × Unit} {c : Call E}

omit [WindowEngine E] in
theorem of_destroyed (h : Recorded p (record s)) (ho : s.Destroyed (fun _ => ()) o) :
    Recorded p o ∧ o.1 = none := by
  cases ho with
  | nothing hs => exact ⟨h, hs⟩
  | done => exact ⟨.destroyed, rfl⟩

omit [WindowEngine E] in
theorem of_cleared (h : Recorded p (record s)) (hphase : s.phase ≠ .alive)
    (ho : s.Cleared (fun _ => ()) o) : Recorded p o ∧ o.1 = none := by
  cases ho with
  | same hsuspended => exact ⟨h, h.session_eq_none hphase hsuspended⟩
  | destroyed _ ho => exact h.of_destroyed ho

omit [WindowEngine E] in
theorem of_created {args : List String} {r : Except ScreenError Session}
    (h : Recorded p (record s)) (hcreated : s.Created (fun _ => ()) args r o) :
    Recorded (p ∧ ∀ session, r ≠ .ok session) o := by
  cases hcreated with
  | already => exact h.congr (by simp)
  | notAcquired hphase hcleared =>
    obtain ⟨hrecorded, hnone⟩ := h.of_cleared hphase hcleared
    exact hrecorded.of_none hnone
  | notBuilt hphase hcleared =>
    obtain ⟨-, hnone⟩ := h.of_cleared hphase hcleared
    dsimp only at hnone
    rw [hnone]
    exact .uncreated
  | done hphase hcleared ht halive hconsistent hresized =>
    exact .alive halive hconsistent (by simp [hresized])

omit [WindowEngine E] in
theorem after_suspend {r : Except ScreenError Unit} (h : Recorded p (record s))
    (hsuspended : s.Suspended (fun _ => ()) r o) : Recorded p o := by
  cases hsuspended with
  | inactive => exact h
  | done hphase =>
    obtain ⟨session, hs⟩ := h.exists_session hphase
    rw [hs]
    exact .suspended rfl (h.of_alive hphase hs).2.2

omit [WindowEngine E] in
theorem after_resume {r : Except ScreenError Unit} (h : Recorded p (record s))
    (hresumed : s.Resumed (fun _ => ()) r o) : Recorded p o := by
  cases hresumed with
  | already | refused => exact h
  | notReacquired hphase hs =>
    obtain ⟨halive, hresized⟩ := h.of_suspended hphase hs
    exact .suspended halive hresized
  | done hphase hs hconsistent => exact .alive rfl hconsistent (h.of_suspended hphase hs).2

theorem after_resize {r : Except ScreenError Session} (h : Recorded p (record s))
    (hrun : exec (resize rows cols) s = (r, s')) :
    Recorded (Outgrown rows cols s ∨ p ∧ ∀ session, r ≠ .ok session) (record s') := by
  have houtcome : s.Resized (fun _ => ()) r (record s') := of_resize steady_unit hrun
  by_cases hphase : s.phase = .alive
  · obtain ⟨session, hs⟩ := h.exists_session hphase
    obtain ⟨halive, hconsistent, hresized⟩ := h.of_alive hphase hs
    have hmark := isResized_resize hphase hs hrun
    rw [hresized] at hmark
    have hsession {session' : Session} (hs' : (record s').1 = some session') :
        session'.resized = true ↔ Outgrown rows cols s ∨ p ∧ ∀ session, r ≠ .ok session := by
      rw [← isResized_of_session (s := s') hs', hmark]
    generalize record s' = o at houtcome hsession
    cases houtcome with
    | inactive hnone => cases (hnone hphase).symm.trans hs
    | notGranted =>
      have hrecord : s.outline (fun _ => ()) = (some session, .alive, ()) :=
        eq_iff.mpr ⟨hs, hphase⟩
      rw [hrecord] at hsession ⊢
      exact .alive halive hconsistent (hsession rfl)
    | notLaidOut _ hs' =>
      cases hs.symm.trans hs'
      exact .alive halive hconsistent (hsession rfl)
    | broken => exact .suspended rfl (hsession rfl)
    | done _ hs' =>
      cases hs.symm.trans hs'
      exact .alive halive hconsistent (hsession rfl)
  · have hsame : ¬ Outgrown rows cols s := fun h => hphase h.1
    generalize record s' = o at houtcome
    cases houtcome with
    | inactive => exact h.congr (by simp [hsame])
    | notGranted hphase' | notLaidOut hphase' | broken hphase' | done hphase' =>
      exact absurd hphase' hphase

/-- Each call keeps session and phase in step. -/
theorem of_call {r : Except ScreenError Unit} (h : Recorded p (record s))
    (hcall : exec c.action s = (r, s')) :
    Recorded (Outdates (s, c) ∨ p ∧ ¬ Settles (s, c)) (record s') := by
  -- calls that leave session and phase alone
  have hkept (hkeeps : Keeps record (c.action : Action (Screen T E) ScreenError Unit))
      (hneither : ¬ Outdates (s, c) ∧ ¬ Settles (s, c)) :
      Recorded (Outdates (s, c) ∨ p ∧ ¬ Settles (s, c)) (record s') := by
    rw [hkeeps.of_exec hcall]
    exact h.congr (by simp [hneither])
  have hfailed (r : Except ScreenError Session) :
      ¬ r.map (fun _ => ()) = .ok () ↔ ∀ session, r ≠ .ok session := by
    cases r <;> simp [Except.map]
  cases c with
  | create args =>
    rcases hrun : exec (create args) s with ⟨r', t⟩
    rw [Call.action, exec_bind_unit, hrun] at hcall
    cases hcall
    refine (h.of_created (of_create steady_unit hrun)).congr ?_
    simp only [Outdates, Settles, Call.action, exec_bind_unit, hrun, hfailed, false_or]
  | resize rows cols =>
    rcases hrun : exec (resize rows cols) s with ⟨r', t⟩
    rw [Call.action, exec_bind_unit, hrun] at hcall
    cases hcall
    refine (h.after_resize hrun).congr ?_
    simp only [Outdates, Settles, Call.action, exec_bind_unit, hrun, hfailed]
  | suspend =>
    exact (h.after_suspend (of_suspend steady_unit hcall)).congr (by simp [Outdates, Settles])
  | resume =>
    exact (h.after_resume (of_resume steady_unit hcall)).congr (by simp [Outdates, Settles])
  | destroy =>
    obtain ⟨_, t, hdestroy⟩ := destroy_fails.exec_ok s
    cases hdestroy.symm.trans hcall
    obtain ⟨hrecorded, hnone⟩ := h.of_destroyed (of_destroy steady_unit hdestroy)
    exact hrecorded.of_none hnone
  | reserveLine => exact hkept (reserveLine_keeps _ _) ⟨id, id⟩
  | initLabels => exact hkept (initLabels_keeps _) ⟨id, id⟩
  | setLabel => exact hkept (setLabel_keeps _ _ _) ⟨id, id⟩
  | reportResize =>
    cases hcall
    exact h.map (fun _ => ⟨rfl, rfl⟩) fun _ _ => by simp [Outdates]

end Recorded

/-! ## Sessions of no further use -/

/-- A session that a failed resize has made unusable. -/
inductive Broken : Option Session × Phase × Unit → Prop
  | mk {session : Session} (hconsistent : session.consistent = false) :
    Broken (some session, .suspended, ())

omit [Terminal T] [WindowEngine E] in
theorem Recorded.broken {p : Prop} (h : Recorded p (record s)) (hs : s.session = some session)
    (hconsistent : session.consistent = false) : Broken (record s) ∧ session.alive = false := by
  generalize ho : record s = o at h
  cases h with
  | alive _ hconsistent' =>
    cases hs.symm.trans (eq_iff.mp ho).1
    cases hconsistent.symm.trans hconsistent'
  | suspended halive =>
    cases hs.symm.trans (eq_iff.mp ho).1
    exact ⟨⟨hconsistent⟩, halive⟩
  | uncreated | destroyed => cases hs.symm.trans (eq_iff.mp ho).1

omit [Terminal T] [WindowEngine E] in
theorem Broken.map {f : Session → Session} (h : Broken (record s))
    (hf : ∀ session, (f session).consistent = session.consistent) :
    Broken (s.session.map f, s.phase, ()) := by
  generalize ho : record s = o at h
  obtain ⟨hconsistent⟩ := h
  rw [(Recorded.eq_iff.mp ho).1, (Recorded.eq_iff.mp ho).2]
  exact ⟨(hf _).trans hconsistent⟩

/-- An unusable session stays, and does not go on. -/
theorem Broken.of_call {c : Call E} {r : Except ScreenError Unit} (h : Broken (record s))
    (hc : c.replaces = false) (hcall : exec c.action s = (r, s')) :
    Broken (record s') ∧ (c.continues = true → r = .error .noActiveSession) := by
  have hkept (hkeeps : Keeps record (c.action : Action (Screen T E) ScreenError Unit)) :
      Broken (record s') := by
    rw [hkeeps.of_exec hcall]
    exact h
  obtain ⟨session, hs, hphase, hconsistent⟩ : ∃ session, s.session = some session ∧
      s.phase = .suspended ∧ session.consistent = false := by
    generalize ho : record s = o at h
    obtain ⟨hconsistent⟩ := h
    exact ⟨_, (Recorded.eq_iff.mp ho).1, (Recorded.eq_iff.mp ho).2, hconsistent⟩
  have halive : s.phase ≠ .alive := by simp [hphase]
  cases c with
  | create | destroy => cases hc
  | suspend =>
    have houtcome : s.Suspended (fun _ => ()) r (record s') := of_suspend steady_unit hcall
    generalize record s' = o at houtcome
    cases houtcome with
    | inactive => exact ⟨h, fun _ => rfl⟩
    | done hphase' => exact absurd hphase' halive
  | resume =>
    have houtcome : s.Resumed (fun _ => ()) r (record s') := of_resume steady_unit hcall
    generalize record s' = o at houtcome
    cases houtcome with
    | already hphase' => exact absurd hphase' halive
    | refused => exact ⟨h, fun _ => rfl⟩
    | notReacquired _ hs' hconsistent' | done _ hs' hconsistent' =>
      cases hs.symm.trans hs'
      cases hconsistent.symm.trans hconsistent'
  | resize rows cols =>
    rcases hrun : exec (resize rows cols) s with ⟨r', t⟩
    rw [Call.action, exec_bind_unit, hrun] at hcall
    cases hcall
    have houtcome : s.Resized (fun _ => ()) r' (record t) := of_resize steady_unit hrun
    generalize record t = o at houtcome
    cases houtcome with
    | inactive => exact ⟨h, fun _ => rfl⟩
    | notGranted hphase' | notLaidOut hphase' | broken hphase' | done hphase' =>
      exact absurd hphase' halive
  | reserveLine => exact ⟨hkept (reserveLine_keeps _ _), nofun⟩
  | initLabels => exact ⟨hkept (initLabels_keeps _), nofun⟩
  | setLabel => exact ⟨hkept (setLabel_keeps _ _ _), nofun⟩
  | reportResize =>
    cases hcall
    exact ⟨h.map fun _ => rfl, nofun⟩

end Screen

namespace Life

open Screen

variable {T E : Type} [Terminal T] [WindowEngine E] {r : Life T E} {ms : List (Move T E)}

/-- The calls of a life, each with the screen that it is made to. -/
def calls (r : Life T E) : List (Move T E) → List (Screen T E × Call E)
  | [] => []
  | .call c :: ms => (r.screen, c) :: calls (r.move (.call c)) ms
  | m :: ms => calls (r.move m) ms

theorem calls_append (r : Life T E) (ms ms' : List (Move T E)) :
    r.calls (ms ++ ms') = r.calls ms ++ (r.moves ms).calls ms' := by
  induction ms generalizing r with
  | nil => rfl
  | cons m ms ih =>
    cases m with
    | call c => exact congrArg (_ :: ·) (ih _)
    | _ => exact ih _

/-- What the application and the terminal do by themselves leaves session and phase in step. -/
theorem recorded_move {p : Prop} {m : Move T E} (h : Recorded p (record r.screen))
    (hm : ∀ c, m ≠ .call c) : Recorded p (record (r.move m).screen) := by
  cases m with
  | call c => exact absurd rfl (hm c)
  | terminal | engine => exact h
  | modes modes => exact h.map (fun _ => ⟨rfl, rfl⟩) fun _ h => h

/-- In every life session and phase are in step, and the session is marked as the calls tell. -/
theorem recorded_moves (s : Screen T E) (h : record s = (none, .uncreated, ()))
    (ms : List (Move T E)) :
    Recorded (Since Outdates Settles (calls ⟨s, []⟩ ms)) (record (moves ⟨s, []⟩ ms).screen) := by
  induction ms using List.reverseRecOn with
  | nil =>
    change Recorded _ (record s)
    rw [h]
    exact .uncreated
  | append_singleton ms m ih =>
    rw [moves_concat, calls_append]
    cases m with
    | call c => exact (ih.of_call rfl).congr since_concat.symm
    | terminal | engine | modes =>
      have hcalls := List.append_nil (calls ⟨s, []⟩ ms)
      refine (recorded_move ih ?_).congr (iff_of_eq (congrArg (Since Outdates Settles) hcalls.symm))
      exact fun _ h => nomatch h

theorem broken_moves (h : Broken (record r.screen))
    (hms : ∀ c, .call c ∈ ms → c.replaces = false) : Broken (record (r.moves ms).screen) := by
  induction ms generalizing r with
  | nil => exact h
  | cons m ms ih =>
    refine ih ?_ fun c hc => hms c (.tail _ hc)
    cases m with
    | call c => exact (h.of_call (hms c (.head _)) rfl).1
    | terminal | engine => exact h
    | modes modes => exact h.map fun _ => rfl

/-- **What a screen records is so.** Phase, session and its marks agree in every life, an unusable
session never goes on, and a session is marked as resized exactly if its terminal may have outgrown
the layout since that was last made to fit. -/
theorem record_agrees {terminal : T} {engine : E} {config : Config} {s : Screen T E}
    (hnew : Screen.new terminal engine config = .ok s) (ms : List (Move T E)) :
    let r := moves ⟨s, []⟩ ms
    (r.screen.phase = .alive ↔
      ∃ session, r.screen.session = some session ∧ session.alive = true) ∧
    (r.screen.phase = .suspended ↔
      ∃ session, r.screen.session = some session ∧ session.alive = false) ∧
    (r.screen.phase = .uncreated ∨ r.screen.phase = .destroyed ↔ r.screen.session = none) ∧
    (∀ session, r.screen.session = some session → session.consistent = false →
      session.alive = false ∧ ∀ ms', (∀ c, .call c ∈ ms' → c.replaces = false) →
        ∀ c : Call E, c.continues = true →
          (exec c.action (r.moves ms').screen).1 = .error .noActiveSession) ∧
    (r.screen.isSuspended = true ↔ r.screen.phase = .suspended) ∧
    (r.screen.isResized = true ↔
      r.screen.session ≠ none ∧ Since Outdates Settles (calls ⟨s, []⟩ ms)) := by
  intro r
  have hrecorded : Recorded (Since Outdates Settles (calls ⟨s, []⟩ ms)) (record r.screen) :=
    recorded_moves s (outline_new hnew) ms
  obtain ⟨halive, hsuspended, hnone, hisSuspended, hisResized⟩ := hrecorded.reads
  refine ⟨halive, hsuspended, hnone, fun session hs hconsistent => ?_, hisSuspended, hisResized⟩
  obtain ⟨hbroken, hdead⟩ := hrecorded.broken hs hconsistent
  refine ⟨hdead, fun ms' hms c hc => ?_⟩
  have hreplaces : c.replaces = false := by
    cases c <;> first | rfl | cases hc
  exact ((broken_moves hbroken hms).of_call hreplaces rfl).2 hc

/-- A screen with room for the windows of one session on a terminal of four rows. -/
def snug : Screen Headless Buffers where
  terminal := { rows := 4, cols := 6 }
  engine := { budget := some 72 }

/-- A session whose terminal gets too small for it, and then too large for its windows. -/
def outgrowing : List (Move Headless Buffers) :=
  [.call (.create []), .terminal ({ · with rows := 1 }), .call (.resize 0 0),
    .terminal ({ · with rows := 5 }), .call (.resize 0 0)]

theorem record_agrees_outgrowing :
    Screen.new { rows := 4, cols := 6 } { budget := some 72 } {} = .ok snug ∧
      (moves ⟨snug, []⟩ outgrowing).screen.phase = .suspended ∧
      Since Outdates Settles (calls ⟨snug, []⟩ outgrowing) ∧
      ∀ ms', (∀ c, .call c ∈ ms' → c.replaces = false) →
        (exec (Call.resume : Call Buffers).action
          ((moves ⟨snug, []⟩ outgrowing).moves ms').screen).1 = .error .noActiveSession := by
  have hnew : Screen.new { rows := 4, cols := 6 } { budget := some 72 } {} = .ok snug := rfl
  obtain ⟨-, hsuspended, -, hbroken, -, hresized⟩ := record_agrees hnew outgrowing
  have hsession : (moves ⟨snug, []⟩ outgrowing).screen.session.map
      (fun session => (session.alive, session.consistent, session.resized)) =
        some (false, false, true) := by
    decide +kernel
  obtain ⟨session, hs, hmarks⟩ := Option.map_eq_some_iff.mp hsession
  obtain ⟨halive, hconsistent, hmarked⟩ : session.alive = false ∧ session.consistent = false ∧
      session.resized = true := by simpa using hmarks
  refine ⟨hnew, hsuspended.mpr ⟨session, hs, halive⟩, (hresized.mp ?_).2,
    fun ms' hms => (hbroken session hs hconsistent).2 ms' hms .resume rfl⟩
  rw [isResized_of_session hs, hmarked]

end Life

end TerminalSession
