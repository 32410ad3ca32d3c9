import TerminalSession.Engine.Buffers
import TerminalSession.Proofs.Screen.Call
import TerminalSession.Proofs.Screen.Outcome

/-!
# Who holds the terminal

A headless terminal that can always be given back is open while a session is alive, and otherwise
closed, with one exception. A resize that cannot change the windows leaves the session without the
terminal, but the terminal open. Nothing closes it afterwards: the session is of no further use, and
destroying it gives back only what a session holds. Only a next session that takes the terminal over
can give it back.

`stranded` tells from the log of a run whether that has happened, and it is the only way for the two
to come apart.
-/

namespace TerminalSession

open TerminalSession.Action

/-! ## Headless terminals -/

namespace Headless

variable {t t' : Headless} {r : Except TerminalError Unit}

/-- Whether the terminal is open, and what is made to fail. -/
def hold (t : Headless) : Bool × List HeadlessFailure := (t.isOpen, t.failures)

/-- The causes for which a terminal is not taken over. -/
inductive Unavailable : TerminalError → Prop
  | io (cause : SystemError) : Unavailable (.io cause)
  | refused (why : Refusal) : Unavailable (.unavailable why)

/-- Taking a terminal over opens it or fails without effect on that. -/
inductive Taken (before : Bool × List HeadlessFailure) :
    Except TerminalError Unit → Bool × List HeadlessFailure → Prop
  | failed {cause : TerminalError} (h : Unavailable cause) : Taken before (.error cause) before
  | done : Taken before (.ok ()) (true, before.2)

theorem Taken.of_error {before after : Bool × List HeadlessFailure} {cause : TerminalError}
    (h : Taken before (.error cause) after) : Unavailable cause ∧ after = before := by
  cases h with
  | failed hcause => exact ⟨hcause, rfl⟩

theorem Taken.of_ok {before after : Bool × List HeadlessFailure} (h : Taken before (.ok ()) after) :
    after = (true, before.2) := by
  cases h
  rfl

theorem exec_guardCall (which : HeadlessFailure) (t : Headless) :
    exec (guardCall which) t =
      if which ∈ t.failures then (.error (.io (.scripted which.name)), t) else (.ok (), t) := by
  simp only [guardCall, exec_bind, exec_get, exec_ite, exec_throw, exec_pure]

theorem of_takeOver (h : exec takeOver t = (r, t')) : Taken t.hold r t'.hold := by
  simp only [takeOver, exec_bind, exec_get, exec_ite, exec_throw, exec_modify] at h
  split at h <;> cases h
  · exact .failed (.refused _)
  · exact .done

theorem of_guarded_takeOver {which : HeadlessFailure} {call : HeadlessCall}
    (h : exec (do guardCall which; modify (record call); takeOver) t = (r, t')) :
    Taken t.hold r t'.hold := by
  rw [exec_bind, exec_guardCall] at h
  by_cases hf : which ∈ t.failures
  · rw [if_pos hf] at h
    cases h
    exact .failed (.io _)
  · rw [if_neg hf] at h
    have htaken := of_takeOver (t := record call t) h
    exact htaken

theorem of_acquire {args : List String} (h : exec (Terminal.acquire args) t = (r, t')) :
    Taken t.hold r t'.hold := by
  have htaken := of_guarded_takeOver (t := { t with arguments := t.arguments.push args }) h
  exact htaken

theorem of_reacquire (h : exec Terminal.reacquire t = (r, t')) : Taken t.hold r t'.hold :=
  of_guarded_takeOver h

/-- A terminal that can be given back is closed by that. -/
theorem hold_release (h : .release ∉ t.failures) :
    (exec Terminal.release t).2.hold = (false, t.failures) := by
  simp only [Terminal.release, exec_bind, exec_modify, exec_guardCall, h, if_false]
  rfl

theorem guardCall_keeps (which : HeadlessFailure) : Keeps hold (guardCall which) := by
  intro t
  rw [exec_guardCall]
  split <;> rfl

theorem steady_hold : Steady hold where
  rows _ := rfl
  columns _ := rfl
  resize rows cols := by
    refine .bind (guardCall_keeps _) fun _ => .bind (.modify fun _ => rfl) fun _ => ?_
    refine .bind .get fun t => .ite _ (.throw_bind _ _) (.modify fun t => ?_)
    unfold grant
    split <;> rfl
  setCursorShape shape :=
    .bind (guardCall_keeps _) fun _ => .bind (.modify fun _ => rfl) fun _ => .modify fun _ => rfl
  saveShellMode _ := rfl
  saveProgramMode _ := rfl
  forgetEvents _ := rfl

end Headless

/-! ## Runs -/

/-- Whether the terminal is left open without a session that holds it, after a call with its result,
if it was or was not before. A resize that fails while it changes windows leaves it so, and a create
that takes the terminal over ends that. -/
def strands {E : Type} (before : Bool) : LoggedCall E → Bool
  | (.resize .., .error (.bufferAllocation _)) => true
  | (.create _, .error .alreadyActive) => before
  | (.create _, .error (.platformOpen (.io _))) => before
  | (.create _, .error (.platformOpen (.unavailable _))) => before
  | (.create _, _) => false
  | _ => before

/-- Whether the terminal is left open without a session that holds it, after the calls of a log. -/
def stranded {E : Type} (log : List (LoggedCall E)) : Bool := log.foldl strands false

/-- How session, phase and terminal go together, if the terminal is stranded or not. -/
inductive Held (failures : List HeadlessFailure) :
    Bool → Option Session × Phase × Bool × List HeadlessFailure → Prop
  | alive {session : Session} (halive : session.alive = true)
    (hconsistent : session.consistent = true) :
    Held failures false (some session, .alive, true, failures)
  | suspended {session : Session} {stranded : Bool} (halive : session.alive = false)
    (hconsistent : stranded = true → session.consistent = false) :
    Held failures stranded (some session, .suspended, stranded, failures)
  | uncreated (stranded : Bool) : Held failures stranded (none, .uncreated, stranded, failures)
  | destroyed (stranded : Bool) : Held failures stranded (none, .destroyed, stranded, failures)

namespace Held

variable {E : Type} {failures : List HeadlessFailure} {before : Bool} {s : Screen Headless E}
  {o o' : Option Session × Phase × Bool × List HeadlessFailure}

theorem outline_eq_iff {session : Option Session} {phase : Phase}
    {hold : Bool × List HeadlessFailure} :
    s.outline Headless.hold = (session, phase, hold) ↔
      s.session = session ∧ s.phase = phase ∧ s.terminal.hold = hold := by
  simp only [Screen.outline, Prod.mk.injEq]

/-- While a screen is alive, its session holds the terminal. -/
theorem of_alive (h : Held failures before o) (ho : s.outline Headless.hold = o)
    (hphase : s.phase = .alive) {session : Session} (hs : s.session = some session) :
    before = false ∧ session.alive = true ∧ session.consistent = true ∧
      s.terminal.hold = (true, failures) := by
  cases h with
  | alive halive hconsistent =>
    obtain ⟨hs', -, hhold⟩ := outline_eq_iff.mp ho
    cases hs.symm.trans hs'
    exact ⟨rfl, halive, hconsistent, hhold⟩
  | suspended | uncreated | destroyed => cases hphase.symm.trans (outline_eq_iff.mp ho).2.1

/-- A session that can be resumed has given the terminal back. -/
theorem of_resumable (h : Held failures before o) (ho : s.outline Headless.hold = o)
    (hphase : s.phase = .suspended) {session : Session} (hs : s.session = some session)
    (hconsistent : session.consistent = true) :
    before = false ∧ session.alive = false ∧ s.terminal.hold = (false, failures) := by
  cases h with
  | suspended halive hbroken =>
    obtain ⟨hs', -, hhold⟩ := outline_eq_iff.mp ho
    cases hs.symm.trans hs'
    have hclosed : before = false := by
      refine Bool.eq_false_iff.mpr fun hbefore => ?_
      rw [hbroken hbefore] at hconsistent
      cases hconsistent
    exact ⟨hclosed, halive, hclosed ▸ hhold⟩
  | alive | uncreated | destroyed => cases hphase.symm.trans (outline_eq_iff.mp ho).2.1

/-- A screen without a session, on a terminal that is stranded or closed. -/
inductive Idle (failures : List HeadlessFailure) (before : Bool) :
    Option Session × Phase × Bool × List HeadlessFailure → Prop
  | uncreated : Idle failures before (none, .uncreated, before, failures)
  | destroyed : Idle failures before (none, .destroyed, before, failures)

theorem Idle.eq {session : Option Session} {phase : Phase} {hold : Bool × List HeadlessFailure}
    (h : Idle failures before (session, phase, hold)) :
    session = none ∧ hold = (before, failures) := by
  cases h <;> exact ⟨rfl, rfl⟩

theorem of_idle (h : Idle failures before o) : Held failures before o := by
  cases h with
  | uncreated => exact .uncreated _
  | destroyed => exact .destroyed _

/-- Destroying gives back a terminal that a session holds, and none that is stranded. -/
theorem idle_of_destroyed (hrelease : .release ∉ failures) (h : Held failures before o)
    (ho : s.outline Headless.hold = o) (hdestroyed : s.Destroyed Headless.hold o') :
    Idle failures before o' := by
  cases hdestroyed with
  | nothing hnone =>
    rw [ho]
    cases h with
    | alive | suspended => cases hnone.symm.trans (outline_eq_iff.mp ho).1
    | uncreated => exact .uncreated
    | destroyed => exact .destroyed
  | @done session t hsome ht =>
    cases h with
    | alive halive =>
      obtain ⟨hs, -, hhold⟩ := outline_eq_iff.mp ho
      cases hsome.symm.trans hs
      have hfailures : t.failures = failures := congrArg Prod.snd (ht.trans hhold)
      rw [if_pos halive, Headless.hold_release (hfailures ▸ hrelease), hfailures]
      exact .destroyed
    | suspended halive =>
      obtain ⟨hs, -, hhold⟩ := outline_eq_iff.mp ho
      cases hsome.symm.trans hs
      rw [if_neg (Bool.eq_false_iff.mp halive), ht, hhold]
      exact .destroyed
    | uncreated | destroyed => cases hsome.symm.trans (outline_eq_iff.mp ho).1

/-- A session can be created on a screen without one, or in place of one that is suspended. -/
theorem idle_of_cleared (hrelease : .release ∉ failures) (h : Held failures before o)
    (ho : s.outline Headless.hold = o) (hphase : s.phase ≠ .alive)
    (hcleared : s.Cleared Headless.hold o') : Idle failures before o' := by
  cases hcleared with
  | same hsuspended =>
    rw [ho]
    cases h with
    | alive => exact absurd (outline_eq_iff.mp ho).2.1 hphase
    | suspended => exact absurd (outline_eq_iff.mp ho).2.1 hsuspended
    | uncreated => exact .uncreated
    | destroyed => exact .destroyed
  | destroyed _ hdestroyed => exact idle_of_destroyed hrelease h ho hdestroyed

variable {r : Except ScreenError Session}

theorem of_created {args : List String} (hrelease : .release ∉ failures)
    (h : Held failures before o) (ho : s.outline Headless.hold = o)
    (hcreated : s.Created Headless.hold args r o') :
    Held failures (strands before ((.create args : Call E), r.map fun _ => ())) o' := by
  cases hcreated with
  | already =>
    rw [ho]
    exact h
  | notAcquired hphase hcleared ht =>
    obtain ⟨hcause, hsame⟩ := (Headless.of_acquire ht).of_error
    have hidle := idle_of_cleared hrelease h ho hphase hcleared
    rw [← hsame] at hidle
    cases hcause <;> exact of_idle hidle
  | @notBuilt session phase t t' t'' cause hphase hcleared ht ht' hcause =>
    obtain ⟨rfl, hhold⟩ := (idle_of_cleared hrelease h ho hphase hcleared).eq
    have hopen := (Headless.of_acquire ht).of_ok
    rw [hhold] at hopen
    have hfailures : t''.failures = failures := congrArg Prod.snd (ht'.trans hopen)
    rw [Headless.hold_release (hfailures ▸ hrelease), hfailures]
    cases hcause with
    | size hsize => cases hsize <;> exact .uncreated _
    | windows => exact .uncreated _
  | @done session phase t t' _ hphase hcleared ht halive hconsistent =>
    obtain ⟨-, hhold⟩ := (idle_of_cleared hrelease h ho hphase hcleared).eq
    have hopen := (Headless.of_acquire ht).of_ok
    rw [hhold] at hopen
    rw [hopen]
    exact .alive halive hconsistent

theorem of_suspended {r : Except ScreenError Unit} (hrelease : .release ∉ failures)
    (h : Held failures before o) (ho : s.outline Headless.hold = o)
    (hsuspended : s.Suspended Headless.hold r o') :
    Held failures (strands before ((.suspend : Call E), r)) o' := by
  cases hsuspended with
  | inactive =>
    rw [ho]
    exact h
  | @done t hphase ht =>
    cases h with
    | alive =>
      obtain ⟨hs, -, hhold⟩ := outline_eq_iff.mp ho
      have hfailures : t.failures = failures := congrArg Prod.snd (ht.trans hhold)
      rw [hs, Headless.hold_release (hfailures ▸ hrelease), hfailures]
      exact .suspended rfl fun h => nomatch h
    | suspended | uncreated | destroyed => cases hphase.symm.trans (outline_eq_iff.mp ho).2.1

theorem of_resumed {r : Except ScreenError Unit} (h : Held failures before o)
    (ho : s.outline Headless.hold = o) (hresumed : s.Resumed Headless.hold r o') :
    Held failures (strands before ((.resume : Call E), r)) o' := by
  cases hresumed with
  | already | refused =>
    rw [ho]
    exact h
  | notReacquired hphase hs hconsistent ht =>
    obtain ⟨rfl, halive, hhold⟩ := of_resumable h ho hphase hs hconsistent
    rw [(Headless.of_reacquire ht).of_error.2, hhold]
    exact .suspended halive fun h => nomatch h
  | done hphase hs hconsistent ht =>
    obtain ⟨rfl, -, hhold⟩ := of_resumable h ho hphase hs hconsistent
    rw [(Headless.of_reacquire ht).of_ok, hhold]
    exact .alive rfl hconsistent

theorem of_resized {rows cols : Nat} (h : Held failures before o)
    (ho : s.outline Headless.hold = o) (hresized : s.Resized Headless.hold r o') :
    Held failures (strands before ((.resize rows cols : Call E), r.map fun _ => ())) o' := by
  cases hresized with
  | inactive =>
    rw [ho]
    exact h
  | @notGranted cause _ hcause =>
    rw [ho]
    cases cause with
    | bufferAllocation e => exact absurd rfl (hcause e)
    | _ => exact h
  | notLaidOut hphase hs hcause =>
    obtain ⟨rfl, halive, hconsistent, hhold⟩ := of_alive h ho hphase hs
    rw [hhold]
    cases hcause <;> exact .alive halive hconsistent
  | broken hphase hs =>
    obtain ⟨-, -, -, hhold⟩ := of_alive h ho hphase hs
    rw [hhold]
    exact .suspended rfl fun _ => rfl
  | done hphase hs =>
    obtain ⟨rfl, halive, hconsistent, hhold⟩ := of_alive h ho hphase hs
    rw [hhold]
    exact .alive halive hconsistent

theorem of_reported (h : Held failures before (s.outline Headless.hold)) :
    Held failures before (s.reportResize.outline Headless.hold) := by
  change Held failures before
    (s.session.map ({ · with resized := true }), s.phase, s.terminal.hold)
  generalize ho : s.outline Headless.hold = o at h
  cases h with
  | alive halive hconsistent =>
    obtain ⟨hs, hphase, hhold⟩ := outline_eq_iff.mp ho
    rw [hs, hphase, hhold]
    exact .alive halive hconsistent
  | suspended halive hconsistent =>
    obtain ⟨hs, hphase, hhold⟩ := outline_eq_iff.mp ho
    rw [hs, hphase, hhold]
    exact .suspended halive hconsistent
  | uncreated =>
    obtain ⟨hs, hphase, hhold⟩ := outline_eq_iff.mp ho
    rw [hs, hphase, hhold]
    exact .uncreated _
  | destroyed =>
    obtain ⟨hs, hphase, hhold⟩ := outline_eq_iff.mp ho
    rw [hs, hphase, hhold]
    exact .destroyed _

/-- Nothing but resizing strands a terminal, and every call keeps track of it. -/
theorem of_call [WindowEngine E] {c : Call E} {s' : Screen Headless E}
    {r : Except ScreenError Unit} (hrelease : .release ∉ failures)
    (h : Held failures before (s.outline Headless.hold)) (hcall : exec c.action s = (r, s')) :
    Held failures (strands before (c, r)) (s'.outline Headless.hold) := by
  -- calls that leave session, phase and terminal alone
  have hkept : Keeps (Screen.outline Headless.hold) (c.action : Action (Screen Headless E) _ _) →
      strands before (c, r) = before →
      Held failures (strands before (c, r)) (s'.outline Headless.hold) := by
    intro hkeeps hsame
    rw [hsame, hkeeps.of_exec hcall]
    exact h
  have hsteady := Headless.steady_hold
  cases c with
  | create args =>
    simp only [Call.action, exec_bind_unit, Prod.mk.injEq] at hcall
    obtain ⟨rfl, rfl⟩ := hcall
    exact of_created hrelease h rfl (Screen.of_create hsteady rfl)
  | suspend => exact of_suspended hrelease h rfl (Screen.of_suspend hsteady hcall)
  | resume => exact of_resumed h rfl (Screen.of_resume hsteady hcall)
  | resize rows cols =>
    simp only [Call.action, exec_bind_unit, Prod.mk.injEq] at hcall
    obtain ⟨rfl, rfl⟩ := hcall
    exact of_resized h rfl (Screen.of_resize hsteady rfl)
  | destroy =>
    obtain ⟨_, t, hdestroy⟩ := Screen.destroy_fails.exec_ok s
    cases hdestroy.symm.trans hcall
    exact of_idle (idle_of_destroyed hrelease h rfl (Screen.of_destroy hsteady hdestroy))
  | reserveLine => exact hkept (Screen.reserveLine_keeps _ _) rfl
  | initLabels => exact hkept (Screen.initLabels_keeps _) rfl
  | setLabel => exact hkept (Screen.setLabel_keeps _ _ _) rfl
  | reportResize =>
    cases hcall
    exact of_reported h

theorem failures_eq (h : Held failures before (s.outline Headless.hold)) :
    s.terminal.failures = failures := by
  generalize ho : s.outline Headless.hold = o at h
  cases h <;> exact congrArg Prod.snd (outline_eq_iff.mp ho).2.2

theorem open_iff (h : Held failures before (s.outline Headless.hold)) :
    (before = false → (s.terminal.isOpen = true ↔ s.phase = .alive)) ∧
      (before = true → s.terminal.isOpen = true ∧ s.phase ≠ .alive) := by
  generalize ho : s.outline Headless.hold = o at h
  cases h with
  | alive =>
    obtain ⟨-, hphase, hhold⟩ := outline_eq_iff.mp ho
    have hopen : s.terminal.isOpen = true := congrArg Prod.fst hhold
    exact ⟨fun _ => iff_of_true hopen hphase, fun h => nomatch h⟩
  | suspended | uncreated | destroyed =>
    obtain ⟨-, hphase, hhold⟩ := outline_eq_iff.mp ho
    have hopen : s.terminal.isOpen = before := congrArg Prod.fst hhold
    have hphase' : s.phase ≠ .alive := by simp [hphase]
    exact ⟨fun h => iff_of_false (by simp [hopen, h]) hphase', fun h => ⟨hopen.trans h, hphase'⟩⟩

theorem open_destroyed [WindowEngine E] {s' : Screen Headless E} {r : Except ScreenError Unit}
    (hrelease : .release ∉ failures) (h : Held failures before (s.outline Headless.hold))
    (hdestroy : exec Screen.destroy s = (r, s')) : s'.terminal.isOpen = before := by
  obtain ⟨_, t, ht⟩ := Screen.destroy_fails.exec_ok s
  cases ht.symm.trans hdestroy
  have hidle := idle_of_destroyed hrelease h rfl (Screen.of_destroy Headless.steady_hold ht)
  exact congrArg Prod.fst hidle.eq.2

theorem arrange {failures' : List HeadlessFailure} {session : Option Session} {phase : Phase}
    {isOpen : Bool} (h : Held failures before (session, phase, isOpen, failures)) :
    Held failures' before (session, phase, isOpen, failures') := by
  cases h with
  | alive halive hconsistent => exact .alive halive hconsistent
  | suspended halive hconsistent => exact .suspended halive hconsistent
  | uncreated => exact .uncreated _
  | destroyed => exact .destroyed _

end Held

namespace Run

variable {E : Type} [WindowEngine E]

/-- The terminal can be given back, and is held as the log says. -/
def Holds (r : Run E) : Prop :=
  HeadlessFailure.release ∉ r.screen.terminal.failures ∧
    Held r.screen.terminal.failures (stranded r.log) (r.screen.outline Headless.hold)

theorem Holds.step {r : Run E} (h : r.Holds) (x : Step E) : (r.step x).Holds := by
  obtain ⟨hrelease, hheld⟩ := h
  cases x with
  | call c =>
    have hcall := Held.of_call (c := c) hrelease hheld rfl
    have hfailures := hcall.failures_eq
    refine ⟨fun h => hrelease (hfailures ▸ h), ?_⟩
    have hlog : stranded (r.step (.call c)).log =
        strands (stranded r.log) (c, (exec c.action r.screen).1) := List.foldl_append
    rw [hlog]
    exact hfailures.symm ▸ hcall
  | arrange x =>
    cases x with
    | failures which hwhich => exact ⟨hwhich, hheld.arrange⟩
    | size | sizeLimit | resizable | refuses => exact ⟨hrelease, hheld⟩
  | draw f => exact ⟨hrelease, hheld⟩

theorem Holds.steps {r : Run E} (h : r.Holds) (l : List (Step E)) : (r.steps l).Holds := by
  induction l generalizing r with
  | nil => exact h
  | cons x l ih => exact ih (h.step x)

omit [WindowEngine E] in
theorem holds_new {terminal : Headless} {engine : E} {config : Config} {s : Screen Headless E}
    (h : Screen.new terminal engine config = .ok s) (hclosed : terminal.isOpen = false)
    (hrelease : .release ∉ terminal.failures) : Holds ⟨s, []⟩ := by
  have houtline : s.outline Headless.hold = _ := Screen.outline_new h
  have hfailures : s.terminal.failures = terminal.failures := congrArg (·.2.2.2) houtline
  refine ⟨hfailures ▸ hrelease, ?_⟩
  rw [houtline, hfailures, Headless.hold, hclosed]
  exact .uncreated false

/-- What comes of a screen by some steps. -/
def history (s : Screen Headless E) (l : List (Step E)) : Run E := steps ⟨s, []⟩ l

/-- **Who holds the terminal.** After any steps the terminal is open if and only if the screen is
alive, unless it is stranded: then it is open although the screen is not alive, and destroying the
session leaves it open. -/
theorem open_iff_alive {terminal : Headless} {engine : E} {config : Config} {s : Screen Headless E}
    (hnew : Screen.new terminal engine config = .ok s) (hclosed : terminal.isOpen = false)
    (hrelease : .release ∉ terminal.failures) (l : List (Step E)) :
    (stranded (history s l).log = false →
      ((history s l).screen.terminal.isOpen = true ↔ (history s l).screen.phase = .alive)) ∧
    (stranded (history s l).log = true →
      (history s l).screen.terminal.isOpen = true ∧ (history s l).screen.phase ≠ .alive) ∧
    (history s (l ++ [.call .destroy])).screen.terminal.isOpen = stranded (history s l).log := by
  obtain ⟨hrelease', hheld⟩ := (holds_new hnew hclosed hrelease).steps l
  obtain ⟨hopen, hstranded⟩ := hheld.open_iff
  refine ⟨hopen, hstranded, ?_⟩
  have hlast : history s (l ++ [.call .destroy]) = (history s l).step (.call .destroy) :=
    List.foldl_append
  rw [hlast]
  exact hheld.open_destroyed hrelease' rfl

/-- A screen on a terminal of four rows and columns, with buffers for exactly that size. -/
def cramped : Screen Headless Buffers where
  terminal := { rows := 4, cols := 4 }
  engine := { budget := some 48 }

/-- The terminal grows, and the windows cannot follow. -/
def outgrown : List (Step Buffers) :=
  [.call (.create []), .arrange (.size 5 5), .call (.resize 0 0)]

theorem new_cramped :
    Screen.new { rows := 4, cols := 4 } { budget := some 48 } {} = .ok cramped := rfl

/-- On a screen whose terminal has grown too far, the terminal is open exactly if it is stranded. -/
theorem open_outgrown_iff :
    Screen.new { rows := 4, cols := 4 } { budget := some 48 } {} = .ok cramped ∧
      (history cramped (outgrown ++ [.call .destroy])).screen.terminal.isOpen =
        stranded (history cramped outgrown).log := by
  have h := open_iff_alive new_cramped rfl List.not_mem_nil outgrown
  exact ⟨new_cramped, h.2.2⟩

/-- The terminal stays open after the resize that failed, and also when the session is destroyed. -/
theorem open_outgrown :
    (history cramped outgrown).screen.terminal.isOpen = true ∧
      (history cramped outgrown).screen.phase = .suspended ∧
      (history cramped (outgrown ++ [.call .destroy])).screen.terminal.isOpen = true ∧
      (history cramped (outgrown ++ [.call .destroy])).screen.phase = .destroyed := by
  decide +kernel

end Run

end TerminalSession
