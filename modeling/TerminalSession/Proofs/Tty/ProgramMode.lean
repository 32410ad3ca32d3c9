import TerminalSession.Proofs.Tty.ShellMode

/-!
# The mode that a session begins in

An entry switches raw mode to what is remembered of the program, and it makes no difference whether
the tty is taken over again or for the first time in a new session. What one session has saved is
still remembered in the next.

So a session on a used tty begins like one on a new tty unless the program was out of raw mode when
its mode was saved last (`acquire_afresh_iff`). What was saved of the shell never matters.
-/

namespace TerminalSession.Tty

open TerminalSession.Action

/-- The raw mode that was saved of the program last, if one was saved at all among some uses.
Nothing is saved while the tty is not open. -/
def lastSaved (t : Tty) : List Use → Option Bool
  | [] => none
  | u :: l =>
    (lastSaved (t.use u) l).or
      (if u = .saveProgramMode ∧ t.isOpen = true then some t.device.raw else none)

variable {t : Tty}

theorem programRaw_use (h : t.device.Reliable) (u : Use) :
    (t.use u).programRaw =
      if u = .saveProgramMode ∧ t.isOpen = true then t.device.raw else t.programRaw := by
  have hprogram : (t.use u).programRaw = (t.modes.use u).program :=
    congrArg Modes.program (modes_use h u).1
  rw [hprogram]
  cases u with
  | saveProgramMode =>
    simp only [Modes.use, true_and]
    exact apply_ite Modes.program _ _ _
  | acquire | reacquire | release =>
    simp only [Modes.use, reduceCtorEq, false_and, if_false]
    split <;> rfl
  | rows | columns | resize | saveShellMode | setCursorShape | setRaw => rfl

theorem programRaw_uses (h : t.device.Reliable) (l : List Use) :
    (t.uses l).programRaw = (lastSaved t l).getD t.programRaw := by
  induction l generalizing t with
  | nil => rfl
  | cons u l ih =>
    have hrest := ih (modes_use h u).2
    rw [programRaw_use h u] at hrest
    rw [show t.uses (u :: l) = (t.use u).uses l from rfl, hrest, lastSaved]
    cases lastSaved (t.use u) l with
    | some => rfl
    | none => split <;> rfl

/-- **How a session begins.** A tty on a device that is never lost is acquired after any uses that
have left it closed. That succeeds, as it does on a new tty on the same device, and writes the same;
but it switches raw mode to what was saved of the program last. A new tty is put into raw mode, so
the two sessions begin alike exactly unless the program was out of raw mode then. What is remembered
of the shell makes no difference. -/
theorem acquire_afresh_iff {device : Device} (hdevice : device.Reliable) {alternateScreen : Bool}
    {before : List Use} {found new : Tty}
    (hfound : found = ({ device, alternateScreen } : Tty).uses before)
    (hclosed : found.isOpen = false)
    (hnew : new = { device := found.device, alternateScreen := found.alternateScreen })
    (args : List String) :
    (exec (Terminal.acquire args) found).1 = .ok () ∧
      (exec (Terminal.acquire args) new).1 = .ok () ∧
      (new.use (.acquire args)).device.raw = true ∧
      (found.use (.acquire args)).device = { (new.use (.acquire args)).device with
        raw := (lastSaved { device, alternateScreen } before).getD true } ∧
      ((found.use (.acquire args)).device = (new.use (.acquire args)).device ↔
        lastSaved { device, alternateScreen } before ≠ some false) ∧
      ∀ shellRaw, (({ found with shellRaw } : Tty).use (.acquire args)).device =
        (found.use (.acquire args)).device := by
  have hreliable : found.device.Reliable :=
    hfound ▸ (modes_uses (t := { device, alternateScreen }) hdevice before).2
  have hprogram : found.programRaw = (lastSaved { device, alternateScreen } before).getD true :=
    hfound ▸ programRaw_uses (t := { device, alternateScreen }) hdevice before
  have hacquired := exec_acquire_of_closed hreliable hclosed args
  have hacquired' := exec_acquire_of_closed (t := new) (hnew ▸ hreliable) (hnew ▸ rfl) args
  have hraw : (new.use (.acquire args)).device.raw = true := by
    rw [use, hacquired', hnew]
    rfl
  have hdevices : (found.use (.acquire args)).device = { (new.use (.acquire args)).device with
      raw := (lastSaved { device, alternateScreen } before).getD true } := by
    rw [use, use, hacquired, hacquired', ← hprogram, hnew]
    rfl
  refine ⟨by rw [hacquired], by rw [hacquired'], hraw, hdevices, ?_, fun shellRaw => ?_⟩
  · constructor
    · intro halike hoff
      have hon := (congrArg Device.raw halike).trans hraw
      rw [hdevices, hoff] at hon
      cases hon
    · intro hon
      have hsaved : (lastSaved { device, alternateScreen } before).getD true = true := by
        cases hlast : lastSaved { device, alternateScreen } before with
        | none => rfl
        | some raw => simpa [hlast] using hon
      rw [hdevices, hsaved, ← hraw]
  · rw [use, use, hacquired, exec_acquire_of_closed (t := { found with shellRaw }) hreliable hclosed]
    rfl

/-- The program is out of raw mode once while its mode is saved, and in raw mode when it is saved
again. -/
theorem acquire_afresh_saved_twice :
    let before : List Use := [.acquire [], .setRaw false, .saveProgramMode, .release, .reacquire,
      .setRaw true, .saveProgramMode, .saveShellMode, .release]
    let found := steady.uses before
    let new : Tty := { device := found.device, alternateScreen := true }
    (found.use (.acquire [])).device = (new.use (.acquire [])).device ∧
      (new.use (.acquire [])).device.raw = true := by
  intro before found new
  have hfound : found = ({ device := steady.device, alternateScreen := true } : Tty).uses before :=
    rfl
  have hnew : new = { device := found.device, alternateScreen := found.alternateScreen } := rfl
  obtain ⟨-, -, hraw, -, halike, -⟩ :=
    acquire_afresh_iff reliable_steady hfound (by decide) hnew []
  exact ⟨halike.mpr (by decide), hraw⟩

/-- A session that is saved out of raw mode and released, and the next one, which begins out of raw
mode. A new tty on the same device is put into raw mode. -/
theorem acquire_out_of_raw_mode :
    let found := steady.uses [.acquire [], .setRaw false, .saveProgramMode, .release]
    let new : Tty := { device := found.device, alternateScreen := true }
    found.isOpen = false ∧ (found.use (.acquire [])).isOpen = true ∧
      (found.use (.acquire [])).device.raw = false ∧ (new.use (.acquire [])).device.raw = true := by
  decide

end TerminalSession.Tty
