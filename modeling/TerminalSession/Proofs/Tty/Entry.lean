import TerminalSession.Proofs.Action.Keeps
import TerminalSession.Terminal.Tty

/-!
# Entries that fail

A tty is taken over in two stages: its device is switched to the program's mode, and then the
sequences that take the screen over are written. Each stage may fail, also half way, since a device
can be lost at any moment.

A failed entry leaves the tty closed. It gives raw mode back as it was only if the switch itself was
refused or had nothing to do: nothing undoes the switch when a write fails after it, and a release
does nothing on a tty that is not open.
-/

namespace TerminalSession

open TerminalSession.Action

namespace Device

variable {d d' : Device} {raw : Bool} {e : TerminalError}

/-- A switch that fails has found a device that cannot be switched, and has changed nothing. -/
theorem of_setRaw_error (h : exec (setRaw raw) d = (.error e, d')) :
    d' = d ∧ d.raw ≠ raw ∧ d.modeFails = true := by
  simp only [setRaw, exec_bind, exec_get, exec_ite, exec_pure, exec_throw, exec_set] at h
  split at h
  · cases h
  · split at h
    · cases h
      exact ⟨rfl, ‹_›, ‹_›⟩
    · cases h

/-- A switch that succeeds had nothing to do or found a device that can be switched. -/
theorem of_setRaw_ok (h : exec (setRaw raw) d = (.ok (), d')) :
    d'.raw = raw ∧ (d.raw = raw ∨ d.modeFails = false) := by
  simp only [setRaw, exec_bind, exec_get, exec_ite, exec_pure, exec_throw, exec_set] at h
  split at h
  · cases h
    exact ⟨‹_›, .inl ‹_›⟩
  · split at h
    · cases h
    · cases h
      exact ⟨rfl, .inr (Bool.eq_false_iff.mpr ‹_›)⟩

theorem write_keeps_raw (s : Sequence) : Keeps Device.raw (write s) := by
  refine .get_bind fun d => ?_
  simp only [exec_ite, exec_bind, exec_throw, exec_set]
  split <;> rfl

end Device

namespace Tty

variable {t t' : Tty} {e : TerminalError}

theorem write_keeps (l : List Sequence) :
    Keeps (fun t : Tty => (t.isOpen, t.device.raw)) (write l) := by
  refine .forM (fun s t => ?_) l
  simp only [onDevice, exec_zoom, Device.write_keeps_raw s t.device]

/-- A failed entry leaves the tty closed, and has stopped at the switch of raw mode or at a write
after it. -/
theorem of_enter_error (h : exec enter t = (.error e, t')) (closed : t.isOpen = false) :
    t'.isOpen = false ∧
      ((t'.device.raw = t.device.raw ∧ t.device.raw ≠ t.programRaw ∧ t.device.modeFails = true) ∨
        (t'.device.raw = t.programRaw ∧
          (t.device.raw = t.programRaw ∨ t.device.modeFails = false))) := by
  simp only [enter, exec_bind, exec_get, exec_modify, onDevice, exec_zoom] at h
  rcases hs : exec (Device.setRaw t.programRaw) t.device with ⟨_ | _, d⟩ <;> simp only [hs] at h
  · cases h
    obtain ⟨rfl, hne, hf⟩ := Device.of_setRaw_error hs
    exact ⟨closed, .inl ⟨rfl, hne, hf⟩⟩
  · obtain ⟨hraw, hd⟩ := Device.of_setRaw_ok hs
    have hk := write_keeps { t with device := d }.entering { t with device := d }
    rcases hw : exec (write { t with device := d }.entering) { t with device := d }
      with ⟨_ | _, u⟩ <;>
      simp only [hw, Prod.mk.injEq] at h hk
    · cases h.2
      exact ⟨hk.1.trans closed, .inr ⟨hk.2.trans hraw, hd⟩⟩
    · cases h.1

/-- The ways of taking a tty over. -/
inductive Entry
  | acquire (args : List String)
  | reacquire
  deriving DecidableEq, Repr

namespace Entry

/-- The call. -/
def action : Entry → Action Tty TerminalError Unit
  | .acquire args => Terminal.acquire args
  | .reacquire => Terminal.reacquire

/-- What a call notes down before it turns to the device of a closed tty. -/
def noted (t : Tty) : Entry → Tty
  | .acquire args => { t.report (.opening args t.alternateScreen) with entryRaw := t.device.raw }
  | .reacquire => t.report .reopening

theorem exec_action_of_closed (entry : Entry) (closed : t.isOpen = false) :
    exec entry.action t = exec enter (entry.noted t) := by
  cases entry with
  | acquire args =>
    simp only [action, Terminal.acquire, exec_bind, exec_get, exec_modify, exec_ite]
    rw [if_neg (by simpa [report] using closed)]
    rfl
  | reacquire =>
    simp only [action, Terminal.reacquire, exec_bind, exec_get, exec_modify, exec_ite]
    rw [if_neg (by simpa [report] using closed)]
    rfl

end Entry

/-- Nothing is released for good on a tty that is not open. -/
theorem drop_of_closed (closed : t.isOpen = false) : t.drop = t := by
  simp only [drop, Terminal.release, exec_bind, exec_get, exec_ite, closed]
  rfl

/-- **What a failed entry leaves behind.** Whatever happened to a tty that is not open, and however
its device is lost meanwhile: if taking it over fails, it is not open afterwards either, and raw
mode is as it was exactly if the program's mode was in force already or the switch to it was
refused. In all other cases the device stays in the program's mode for good. -/
theorem raw_of_failed_entry (entry : Entry) (closed : t.isOpen = false)
    (h : exec entry.action t = (.error e, t')) :
    t'.isOpen = false ∧ t'.drop = t' ∧
      (t'.device.raw = t.device.raw ↔
        t.device.raw = t.programRaw ∨ t.device.modeFails = true) := by
  rw [entry.exec_action_of_closed closed] at h
  have hn : (entry.noted t).isOpen = t.isOpen ∧ (entry.noted t).device = t.device ∧
      (entry.noted t).programRaw = t.programRaw := by
    cases entry <;> exact ⟨rfl, rfl, rfl⟩
  obtain ⟨h₁, h₂⟩ := of_enter_error h (hn.1.trans closed)
  rw [hn.2.1, hn.2.2] at h₂
  refine ⟨h₁, drop_of_closed h₁, ?_⟩
  rcases h₂ with ⟨hr, -, hf⟩ | ⟨hr, hp | hf⟩
  · simp [hr, hf]
  · simp [hr, hp]
  · simp [hr, hf, eq_comm]

/-- A new tty on a device that takes `writes` more sequences. -/
def losing (writes : Nat) : Tty where
  device := { rows := 24, cols := 80, writesLeft := some writes }
  alternateScreen := true

/-- Taking that tty over. -/
def losingEntry (writes : Nat) : Except TerminalError Unit × Tty :=
  exec (Entry.acquire []).action (losing writes)

/-- A device lost between the two sequences of an entry. -/
theorem raw_of_entry_lost_halfway :
    losingEntry 1 = (.error (.io .noSpace), (losingEntry 1).2) ∧
      (losingEntry 1).2.isOpen = false ∧ (losingEntry 1).2.drop = (losingEntry 1).2 ∧
      ((losingEntry 1).2.device.raw = (losing 1).device.raw ↔
        (losing 1).device.raw = (losing 1).programRaw ∨ (losing 1).device.modeFails = true) :=
  ⟨rfl, raw_of_failed_entry (.acquire []) rfl (t := losing 1) rfl⟩

/-- The first entry on a device that takes no output fails and leaves raw mode on. -/
theorem raw_not_given_back :
    (losing 0).isOpen = false ∧ (losing 0).device.raw = false ∧
      (losingEntry 0).1 = .error (.io .noSpace) ∧ (losingEntry 0).2.isOpen = false ∧
      (losingEntry 0).2.device.raw = true :=
  ⟨rfl, rfl, rfl, rfl, rfl⟩

end Tty

end TerminalSession
