import TerminalSession.Proofs.Tty.Use

/-!
# The mode that the shell gets back

A release switches raw mode to what is remembered of the shell. What an acquiring finds is noted
down, but it is remembered of the shell only once the shell's mode is saved, and until then the mode
saved in an earlier session is still remembered.

So a release gives back the mode found by the last acquiring if the shell's mode has been saved
since, and otherwise only by chance (`raw_of_release_iff`).
-/

namespace TerminalSession.Tty

/-- Whether a use is an attempt to acquire the tty. -/
def Use.isAcquire : Use → Bool
  | .acquire _ => true
  | _ => false

/-- Every attempt to acquire the tty among some uses is refused, since the tty is open already. -/
def AcquiresRefused (t : Tty) : List Use → Prop
  | [] => True
  | u :: l => (u.isAcquire = true → t.isOpen = true) ∧ AcquiresRefused (t.use u) l

/-- As long as no acquiring succeeds, the mode found by the last one stays noted down, and it is
remembered of the shell as soon as that is saved. -/
theorem entry_shell_uses {t : Tty} (ht : t.device.Reliable) {l : List Use}
    (h : t.AcquiresRefused l) :
    (t.uses l).entryRaw = t.entryRaw ∧
      (t.uses l).shellRaw = if .saveShellMode ∈ l then t.entryRaw else t.shellRaw := by
  induction l generalizing t with
  | nil => exact ⟨rfl, rfl⟩
  | cons u l ih =>
    obtain ⟨hfirst, hrest⟩ := h
    obtain ⟨hmodes, hreliable⟩ := modes_use ht u
    obtain ⟨hentry, hshell⟩ := ih hreliable hrest
    have hentry' : (t.use u).entryRaw = (t.modes.use u).entry := congrArg Modes.entry hmodes
    have hshell' : (t.use u).shellRaw = (t.modes.use u).shell := congrArg Modes.shell hmodes
    have huses : t.uses (u :: l) = (t.use u).uses l := rfl
    rw [huses, hentry, hshell, hentry', hshell']
    cases u with
    | acquire args =>
      have hopen : t.isOpen = true := hfirst rfl
      simp [Modes.use, hopen, modes]
    | reacquire | release | saveProgramMode =>
      simp only [Modes.use]
      split <;> simp [modes]
    | saveShellMode => simp [Modes.use, modes]
    | rows | columns | resize | setCursorShape | setRaw => simp [Modes.use, modes]

/-- Without the shell's mode ever being saved, the shell is taken to have been out of raw mode. -/
theorem shell_uses_of_not_mem {t : Tty} (ht : t.device.Reliable) {l : List Use}
    (h : .saveShellMode ∉ l) : (t.uses l).shellRaw = t.shellRaw := by
  induction l generalizing t with
  | nil => rfl
  | cons u l ih =>
    obtain ⟨hmodes, hreliable⟩ := modes_use ht u
    have hshell : (t.use u).shellRaw = (t.modes.use u).shell := congrArg Modes.shell hmodes
    have hfirst : (t.modes.use u).shell = t.shellRaw := by
      cases u with
      | saveShellMode => exact absurd (.head _) h
      | acquire | reacquire | release | saveProgramMode =>
        simp only [Modes.use]
        split <;> rfl
      | rows | columns | resize | setCursorShape | setRaw => rfl
    exact (ih hreliable fun hl => h (.tail _ hl)).trans (hshell.trans hfirst)

/-- **What a release gives back.** A tty on a device that is never lost is acquired after any uses,
used in any way, perhaps also released and taken over again, and released. Raw mode is then as the
acquiring has found it exactly if the shell's mode has been saved since, or if what was remembered of
the shell before happens to be the same. On a tty that has never had the shell's mode saved, that is
no raw mode. -/
theorem raw_of_release_iff {device : Device} (hdevice : device.Reliable) {alternateScreen : Bool}
    {before since : List Use} {args : List String} {found left : Tty}
    (hfound : found = ({ device, alternateScreen } : Tty).uses before)
    (hclosed : found.isOpen = false)
    (hrefused : (found.use (.acquire args)).AcquiresRefused since)
    (hopen : ((found.use (.acquire args)).uses since).isOpen = true)
    (hleft : left = ((found.use (.acquire args)).uses since).use .release) :
    left.isOpen = false ∧
      (left.device.raw = found.device.raw ↔
        .saveShellMode ∈ since ∨ found.shellRaw = found.device.raw) ∧
      (.saveShellMode ∉ before → found.shellRaw = false) := by
  have hreliable : found.device.Reliable := by
    rw [hfound]
    exact (modes_uses (t := { device, alternateScreen }) hdevice before).2
  obtain ⟨htaken, hreliable'⟩ := modes_use hreliable (.acquire args)
  have hacquired : found.modes.use (.acquire args) = { found.modes with
      isOpen := true, entry := found.device.raw, raw := found.programRaw } :=
    if_neg (by simp [modes, hclosed])
  rw [hacquired] at htaken
  have hentry : (found.use (.acquire args)).entryRaw = found.device.raw :=
    congrArg Modes.entry htaken
  have hshell : (found.use (.acquire args)).shellRaw = found.shellRaw :=
    congrArg Modes.shell htaken
  -- the release
  obtain ⟨-, hlast⟩ := modes_uses hreliable' since
  have hmodes := (modes_use hlast .release).1
  have hreleased : ((found.use (.acquire args)).uses since).modes.use .release =
      { ((found.use (.acquire args)).uses since).modes with
        isOpen := false, raw := ((found.use (.acquire args)).uses since).shellRaw } := if_pos hopen
  rw [hreleased, ← hleft] at hmodes
  have hraw : left.device.raw = ((found.use (.acquire args)).uses since).shellRaw :=
    congrArg Modes.raw hmodes
  rw [(entry_shell_uses hreliable' hrefused).2, hentry, hshell] at hraw
  refine ⟨congrArg Modes.isOpen hmodes, ?_, fun hnever => ?_⟩
  · rw [hraw]
    split <;> simp [*]
  · rw [hfound]
    exact shell_uses_of_not_mem (t := { device, alternateScreen }) hdevice hnever

/-- A new tty on a device that is never lost. -/
def steady : Tty where
  device := { rows := 24, cols := 80 }
  alternateScreen := true

theorem reliable_steady : steady.device.Reliable := ⟨rfl, rfl, rfl, rfl⟩

/-- The shell is in raw mode, and its mode is saved after a release and a second entry. -/
theorem raw_of_release_saved_late :
    let found := steady.uses [.setRaw true]
    let left := ((found.use (.acquire [])).uses
      [.setRaw false, .release, .reacquire, .acquire [], .saveShellMode]).use .release
    found.device.raw = true ∧ left.isOpen = false ∧ left.device.raw = true := by
  have hraw : (steady.uses [.setRaw true]).device.raw = true := by decide
  have hrefused : ((steady.uses [.setRaw true]).use (.acquire [])).AcquiresRefused
      [.setRaw false, .release, .reacquire, .acquire [], .saveShellMode] := by
    simp only [AcquiresRefused]
    decide
  have hfound : steady.uses [.setRaw true] =
      ({ device := steady.device, alternateScreen := true } : Tty).uses [.setRaw true] := rfl
  obtain ⟨hclosed, hgiven, -⟩ :=
    raw_of_release_iff reliable_steady hfound (by decide) hrefused (by decide) rfl
  exact ⟨hraw, hclosed, (hgiven.mpr (.inl (by decide))).trans hraw⟩

/-- A shell in raw mode is taken out of it by a release before its mode is saved, and one that is
not in raw mode any more is put into it. -/
theorem raw_not_as_found :
    (steady.uses [.setRaw true]).device.raw = true ∧
      (steady.uses [.setRaw true, .acquire [], .release]).device.raw = false ∧
    (steady.uses [.setRaw true, .acquire [], .saveShellMode, .release, .setRaw false]).device.raw =
        false ∧
      (steady.uses [.setRaw true, .acquire [], .saveShellMode, .release, .setRaw false,
        .acquire [], .release]).device.raw = true := by
  decide

end TerminalSession.Tty
