import TerminalSession.Proofs.Tty.Entry

/-!
# Uses of a tty

What can happen to a tty, in any order: its calls, and switches of raw mode that the application
makes on its own. On a device that is never lost only five bits of a tty matter to all this, its
`Modes`: each use changes them by a rule of its own (`modes_use`).
-/

namespace TerminalSession

open TerminalSession.Action

/-! ## Devices that do not fail -/

namespace Device

variable {d : Device}

/-- No write ever fails. -/
structure Writable (d : Device) : Prop where
  output : d.outputLost = false
  writes : d.writesLeft = none

/-- Neither a switch of raw mode nor a write ever fails. -/
structure Reliable (d : Device) : Prop where
  modes : d.modeLost = false
  switches : d.switchesLeft = none
  output : d.outputLost = false
  writes : d.writesLeft = none

theorem Reliable.writable (h : d.Reliable) : d.Writable := ⟨h.output, h.writes⟩

theorem Reliable.exec_setRaw (h : d.Reliable) (raw : Bool) :
    exec (setRaw raw) d = (.ok (), { d with raw }) := by
  have hworks : d.modeFails = false := by simp [modeFails, h.modes, h.switches]
  simp only [setRaw, exec_bind, exec_get, exec_ite, exec_pure, exec_throw, exec_set, hworks]
  split
  · rename_i hraw
    subst hraw
    rfl
  · simp [h.switches]

theorem Writable.exec_write (h : d.Writable) (s : Sequence) :
    exec (write s) d = (.ok (), { d with output := d.output.push s }) := by
  have hworks : d.writeFails = false := by simp [writeFails, h.output, h.writes]
  simp [write, exec_bind, hworks, h.writes]

theorem Reliable.withRaw (h : d.Reliable) (raw : Bool) : ({ d with raw } : Device).Reliable :=
  ⟨h.modes, h.switches, h.output, h.writes⟩

theorem Writable.push (h : d.Writable) (s : Sequence) :
    ({ d with output := d.output.push s } : Device).Writable :=
  ⟨h.output, h.writes⟩

end Device

/-! ## Writing -/

namespace Tty

variable {t : Tty}

/-- A tty that has written some sequences more. -/
def wrote (t : Tty) (l : List Sequence) : Tty :=
  { t with device := { t.device with output := t.device.output ++ l.toArray } }

theorem wrote_nil (t : Tty) : t.wrote [] = t := by simp [wrote]

theorem wrote_cons (t : Tty) (s : Sequence) (l : List Sequence) :
    ({ t with device := { t.device with output := t.device.output.push s } } : Tty).wrote l =
      t.wrote (s :: l) := by
  simp [wrote]

theorem exec_onDevice_write (h : t.device.Writable) (s : Sequence) :
    exec (onDevice (Device.write s)) t =
      (.ok (), { t with device := { t.device with output := t.device.output.push s } }) := by
  rw [onDevice, exec_zoom, h.exec_write]

theorem exec_write (h : t.device.Writable) (l : List Sequence) :
    exec (write l) t = (.ok (), t.wrote l) := by
  induction l generalizing t with
  | nil => exact congrArg _ t.wrote_nil.symm
  | cons s l ih =>
    rw [← wrote_cons, ← ih (t := { t with device := _ }) (h.push s)]
    exact exec_bind_ok (exec_onDevice_write h s)

theorem exec_tryWrite (h : t.device.Writable) (l : List Sequence) :
    exec (tryWrite l) t = (.ok (), t.wrote l) := by
  induction l generalizing t with
  | nil => exact congrArg _ t.wrote_nil.symm
  | cons s l ih =>
    rw [← wrote_cons, ← ih (t := { t with device := _ }) (h.push s)]
    have hfirst : exec (discard (onDevice (Device.write s)).attempt :
        Action Tty TerminalError Unit) t =
        (.ok (), { t with device := { t.device with output := t.device.output.push s } }) := by
      change exec ((onDevice (Device.write s)).attempt >>= fun _ => pure ()) t = _
      rw [exec_bind, exec_attempt, exec_onDevice_write h]
      rfl
    exact exec_bind_ok hfirst

/-! ## Uses -/

/-- What can happen to a tty. -/
inductive Use
  | acquire (args : List String)
  | reacquire
  | release
  | rows
  | columns
  | resize (rows cols : Nat)
  | saveShellMode
  | saveProgramMode
  | setCursorShape (shape : CursorShape)
  /-- The application switches raw mode. -/
  | setRaw (raw : Bool)
  deriving DecidableEq, Repr

/-- A tty after one use, whether it has succeeded or failed. -/
def use (t : Tty) : Use → Tty
  | .acquire args => (exec (Terminal.acquire args) t).2
  | .reacquire => (exec Terminal.reacquire t).2
  | .release => (exec Terminal.release t).2
  | .rows => (Terminal.rows t).2
  | .columns => (Terminal.columns t).2
  | .resize rows cols => (exec (Terminal.resize rows cols) t).2
  | .saveShellMode => Terminal.saveShellMode t
  | .saveProgramMode => Terminal.saveProgramMode t
  | .setCursorShape shape => (exec (Terminal.setCursorShape shape) t).2
  | .setRaw raw => (exec (onDevice (Device.setRaw raw)) t).2

def uses (t : Tty) (l : List Use) : Tty := l.foldl use t

theorem use_acquire_of_open (hopen : t.isOpen = true) (args : List String) :
    t.use (.acquire args) = t.report (.opening args t.alternateScreen) := by
  simp [use, Terminal.acquire, exec_bind, report, hopen]

theorem use_acquire_of_closed (hclosed : t.isOpen = false) (args : List String) :
    t.use (.acquire args) = (exec enter ((Entry.acquire args).noted t)).2 :=
  congrArg Prod.snd ((Entry.acquire args).exec_action_of_closed hclosed)

theorem use_reacquire_of_open (hopen : t.isOpen = true) : t.use .reacquire = t.report .reopening := by
  simp [use, Terminal.reacquire, exec_bind, report, hopen]

theorem use_reacquire_of_closed (hclosed : t.isOpen = false) :
    t.use .reacquire = (exec enter (Entry.reacquire.noted t)).2 :=
  congrArg Prod.snd (Entry.reacquire.exec_action_of_closed hclosed)

theorem use_release_of_closed (hclosed : t.isOpen = false) : t.use .release = t :=
  drop_of_closed hclosed

theorem use_saveProgramMode (t : Tty) :
    t.use .saveProgramMode = if t.isOpen then { t with programRaw := t.device.raw } else t := rfl

/-- What a tty remembers of modes, and what is in force. -/
structure Modes where
  isOpen : Bool
  raw : Bool
  entry : Bool
  shell : Bool
  program : Bool
  deriving DecidableEq, Repr

def modes (t : Tty) : Modes where
  isOpen := t.isOpen
  raw := t.device.raw
  entry := t.entryRaw
  shell := t.shellRaw
  program := t.programRaw

namespace Modes

def use (m : Modes) : Use → Modes
  | .acquire _ =>
    if m.isOpen then m else { m with isOpen := true, entry := m.raw, raw := m.program }
  | .reacquire => if m.isOpen then m else { m with isOpen := true, raw := m.program }
  | .release => if m.isOpen then { m with isOpen := false, raw := m.shell } else m
  | .saveShellMode => { m with shell := m.entry }
  | .saveProgramMode => if m.isOpen then { m with program := m.raw } else m
  | .setRaw raw => { m with raw }
  | .rows | .columns | .resize .. | .setCursorShape _ => m

def uses (m : Modes) (l : List Use) : Modes := l.foldl use m

end Modes

/-- Taking a tty over, once its device has been switched to the program's mode. -/
theorem exec_enter_of_switched {device : Device}
    (hswitch : exec (Device.setRaw t.programRaw) t.device = (.ok (), device))
    (hdevice : device.Writable) :
    exec enter t =
      (.ok (), { ({ t with device } : Tty).wrote t.entering with isOpen := true }) := by
  have hfirst : exec (onDevice (Device.setRaw t.programRaw)) t = (.ok (), { t with device }) := by
    rw [onDevice, exec_zoom, hswitch]
  rw [enter, exec_bind_ok (exec_get _), exec_bind_ok hfirst, exec_bind_ok (exec_get _),
    exec_bind_ok (exec_write (t := { t with device }) hdevice _), exec_modify]
  rfl

/-- Taking a tty over switches to the program's mode. -/
theorem exec_enter (h : t.device.Reliable) :
    exec enter t = (.ok (), { ({ t with device := { t.device with raw := t.programRaw } } :
      Tty).wrote t.entering with isOpen := true }) :=
  exec_enter_of_switched (h.exec_setRaw _) (h.withRaw _).writable

/-- An open tty that is released gives the screen back, and its device is switched after that. -/
theorem use_release_of_open (h : t.device.Writable) (hopen : t.isOpen = true) :
    t.use .release = { t.wrote t.leaving with
      isOpen := false
      device := (exec (Device.setRaw t.shellRaw) (t.wrote t.leaving).device).2 } := by
  have hwritten := exec_tryWrite (t := { t with isOpen := false }) h t.leaving
  simp only [use, Terminal.release, exec_bind, exec_get, exec_set, hopen, hwritten, Bool.not_true,
    Bool.false_eq_true, if_false, onDevice, exec_zoom]
  rfl

theorem exec_acquire_of_closed (h : t.device.Reliable) (hclosed : t.isOpen = false)
    (args : List String) :
    exec (Terminal.acquire args) t =
      (.ok (), { ({ (Entry.acquire args).noted t with
        device := { t.device with raw := t.programRaw } } : Tty).wrote t.entering with
          isOpen := true }) :=
  ((Entry.acquire args).exec_action_of_closed hclosed).trans
    (exec_enter (t := (Entry.acquire args).noted t) h)

theorem use_acquire (h : t.device.Reliable) (args : List String) :
    (t.use (.acquire args)).modes = t.modes.use (.acquire args) ∧
      (t.use (.acquire args)).device.Reliable := by
  cases hopen : t.isOpen with
  | true =>
    rw [use_acquire_of_open hopen]
    exact ⟨by simp [modes, Modes.use, report, hopen], h⟩
  | false =>
    rw [use_acquire_of_closed hopen, exec_enter (t := (Entry.acquire args).noted t) h]
    exact ⟨by simp [modes, Modes.use, Entry.noted, report, wrote, hopen],
      ⟨h.modes, h.switches, h.output, h.writes⟩⟩

theorem use_reacquire (h : t.device.Reliable) :
    (t.use .reacquire).modes = t.modes.use .reacquire ∧ (t.use .reacquire).device.Reliable := by
  cases hopen : t.isOpen with
  | true =>
    rw [use_reacquire_of_open hopen]
    exact ⟨by simp [modes, Modes.use, report, hopen], h⟩
  | false =>
    rw [use_reacquire_of_closed hopen, exec_enter (t := Entry.reacquire.noted t) h]
    exact ⟨by simp [modes, Modes.use, Entry.noted, report, wrote, hopen],
      ⟨h.modes, h.switches, h.output, h.writes⟩⟩

theorem use_release (h : t.device.Reliable) :
    (t.use .release).modes = t.modes.use .release ∧ (t.use .release).device.Reliable := by
  cases hopen : t.isOpen with
  | true =>
    have hreliable : (t.wrote t.leaving).device.Reliable :=
      ⟨h.modes, h.switches, h.output, h.writes⟩
    rw [use_release_of_open h.writable hopen, hreliable.exec_setRaw]
    exact ⟨by simp [modes, Modes.use, wrote, hopen], ⟨h.modes, h.switches, h.output, h.writes⟩⟩
  | false =>
    rw [use_release_of_closed hopen]
    exact ⟨by simp [modes, Modes.use, hopen], h⟩

theorem measure_eq (h : t.device.Writable) (size : Device → Nat) :
    measure size t = ((size t.device : Int), t) := by
  have hworks : t.device.writeFails = false := by simp [Device.writeFails, h.output, h.writes]
  change (if t.device.writeFails then _ else pure (size t.device : Int) : StateM Tty Int) t = _
  rw [hworks]
  rfl

theorem use_resize (h : t.device.Writable) (rows cols : Nat) :
    t.use (.resize rows cols) = t.wrote [.resize rows cols] := by
  have hwritten := exec_write h [.resize rows cols]
  simp only [use, Terminal.resize, exec_bind, exec_attempt, hwritten]
  rfl

theorem use_setCursorShape (h : t.device.Writable) (shape : CursorShape) :
    t.use (.setCursorShape shape) = { t.wrote [.cursorShape shape] with cursor := shape } := by
  change (exec (write [.cursorShape shape] >>= fun _ => modify ({ · with cursor := shape })) t).2 = _
  rw [exec_bind_ok (exec_write h _), exec_modify]

/-- On a device that is never lost, each use changes the modes by its rule. -/
theorem modes_use (h : t.device.Reliable) (u : Use) :
    (t.use u).modes = t.modes.use u ∧ (t.use u).device.Reliable := by
  have hwrote (l : List Sequence) : (t.wrote l).device.Reliable :=
    ⟨h.modes, h.switches, h.output, h.writes⟩
  cases u with
  | acquire args => exact use_acquire h args
  | reacquire => exact use_reacquire h
  | release => exact use_release h
  | rows =>
    have hkept : t.use .rows = t := congrArg Prod.snd (measure_eq h.writable Device.rows)
    exact hkept.symm ▸ ⟨rfl, h⟩
  | columns =>
    have hkept : t.use .columns = t := congrArg Prod.snd (measure_eq h.writable Device.cols)
    exact hkept.symm ▸ ⟨rfl, h⟩
  | resize rows cols =>
    rw [use_resize h.writable]
    exact ⟨rfl, hwrote _⟩
  | saveShellMode => exact ⟨rfl, h⟩
  | saveProgramMode =>
    rw [use_saveProgramMode]
    cases hopen : t.isOpen with
    | true => exact ⟨by simp [modes, Modes.use, hopen], h⟩
    | false => exact ⟨by simp [modes, Modes.use, hopen], h⟩
  | setCursorShape shape =>
    rw [use_setCursorShape h.writable]
    exact ⟨rfl, hwrote _⟩
  | setRaw raw =>
    have hset : t.use (.setRaw raw) = { t with device := { t.device with raw } } := by
      rw [use, onDevice, exec_zoom, h.exec_setRaw]
    rw [hset]
    exact ⟨rfl, h.withRaw raw⟩

theorem modes_uses (h : t.device.Reliable) (l : List Use) :
    (t.uses l).modes = t.modes.uses l ∧ (t.uses l).device.Reliable := by
  induction l generalizing t with
  | nil => exact ⟨rfl, h⟩
  | cons u l ih =>
    obtain ⟨hmodes, hreliable⟩ := modes_use h u
    obtain ⟨hrest, hdone⟩ := ih hreliable
    exact ⟨hrest.trans (congrArg (Modes.uses · l) hmodes), hdone⟩

end Tty

end TerminalSession
