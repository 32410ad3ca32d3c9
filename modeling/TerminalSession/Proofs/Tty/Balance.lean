import TerminalSession.Proofs.Tty.Reading
import TerminalSession.Proofs.Tty.Use

/-!
# Modes that are left as they are entered

Three records are kept of whether a tty holds the terminal: a flag, what has been written to the
terminal, and raw mode. They change in different orders, and a switch of raw mode may fail at any
time, before anything is written or after all of it.

As long as nothing that is written is lost, the first two never disagree (`Balanced`): a refused
switch keeps an entry from writing anything, and a release has written everything before it
switches.
-/

namespace TerminalSession

open TerminalSession.Action Sequence

namespace Device

/-- What has been written to a device, and what becomes of the next writes. -/
def written (d : Device) : Array Sequence × Bool × Option Nat :=
  (d.output, d.outputLost, d.writesLeft)

theorem setRaw_keeps_written (raw : Bool) : Keeps written (setRaw raw) := by
  refine .get_bind fun d => ?_
  simp only [exec_ite, exec_bind, exec_pure, exec_throw, exec_set]
  split
  · rfl
  · split <;> rfl

theorem Writable.of_written {d d' : Device} (h : d.Writable) (hd : d'.written = d.written) :
    d'.Writable := by
  simp only [written, Prod.mk.injEq] at hd
  exact ⟨hd.2.1.trans h.output, hd.2.2.trans h.writes⟩

end Device

namespace Tty

/-! ## What befalls a tty -/

/-- A use of a tty, or a turn in how its device fares. -/
inductive Occurrence
  | use (u : Use)
  /-- From now on raw mode cannot be switched, or only so many times. -/
  | fault (lost : Bool) (left : Option Nat)
  deriving DecidableEq, Repr

def befall (t : Tty) : Occurrence → Tty
  | .use u => t.use u
  | .fault lost left =>
    { t with device := { t.device with modeLost := lost, switchesLeft := left } }

def befallAll (t : Tty) (l : List Occurrence) : Tty := l.foldl befall t

/-! ## The terminal -/

/-- A terminal that has read all that was written, on its main screen and wrapping lines at
first. -/
def reader (t : Tty) : Reader := Reader.read {} (encodeAll t.device.output.toList)

theorem reader_wrote (t : Tty) (l : List Sequence) :
    (t.wrote l).reader = t.reader.read (encodeAll l) := by
  simp [reader, wrote, encodeAll, Reader.read_append]

/-- The surface of a terminal, by whether a tty holds it and whether that asks for the alternate
screen. -/
def face (alternateScreen isOpen : Bool) : Surface where
  alternate := isOpen && alternateScreen
  wraps := !isOpen

theorem read_entering (t : Tty) :
    Reader.read ⟨face t.alternateScreen false, .printing⟩ (encodeAll t.entering) =
      ⟨face t.alternateScreen true, .printing⟩ := by
  rw [entering]
  cases t.alternateScreen <;> rfl

theorem read_leaving (t : Tty) :
    Reader.read ⟨face t.alternateScreen true, .printing⟩ (encodeAll t.leaving) =
      ⟨face t.alternateScreen false, .printing⟩ := by
  rw [leaving]
  cases t.alternateScreen <;> rfl

/-- Neither a size nor a shape of the cursor concerns the surface. -/
theorem read_resize (s : Surface) (rows cols : Nat) :
    Reader.read ⟨s, .printing⟩ (encodeAll [.resize rows cols]) = ⟨s, .printing⟩ := by
  obtain ⟨parameters, hspelled, hparameters⟩ := encode_resize rows cols
  rw [encodeAll, List.flatMap_singleton, hspelled, Reader.read_escape hparameters rfl,
    Surface.obey_of_ne (by decide) (by decide)]

theorem read_cursorShape (s : Surface) (shape : CursorShape) :
    Reader.read ⟨s, .printing⟩ (encodeAll [.cursorShape shape]) = ⟨s, .printing⟩ := by
  cases shape <;> rfl

/-! ## The balance -/

/-- No write fails, and the surface of the terminal is what the flag says. -/
structure Balanced (alternateScreen : Bool) (t : Tty) : Prop where
  writable : t.device.Writable
  asked : t.alternateScreen = alternateScreen
  reader : t.reader = ⟨face alternateScreen t.isOpen, .printing⟩

namespace Balanced

variable {a : Bool} {t t' : Tty}

/-- Nothing but the flag and what is written matters. -/
theorem of_same (h : Balanced a t) (hopen : t'.isOpen = t.isOpen)
    (ha : t'.alternateScreen = t.alternateScreen)
    (hdevice : t'.device.written = t.device.written) : Balanced a t' where
  writable := h.writable.of_written hdevice
  asked := ha.trans h.asked
  reader := by
    have houtput : t'.device.output = t.device.output := congrArg Prod.fst hdevice
    rw [Tty.reader, houtput, hopen]
    exact h.reader

theorem wrote (h : Balanced a t) {l : List Sequence} {isOpen : Bool}
    (hl : Reader.read ⟨face a t.isOpen, .printing⟩ (encodeAll l) = ⟨face a isOpen, .printing⟩) :
    Balanced a { t.wrote l with isOpen } where
  writable := ⟨h.writable.output, h.writable.writes⟩
  asked := h.asked
  reader := by
    change (t.wrote l).reader = _
    rw [reader_wrote, h.reader, hl]

theorem enter (h : Balanced a t) (hclosed : t.isOpen = false) :
    Balanced a (exec Tty.enter t).2 := by
  rcases hswitch : exec (Device.setRaw t.programRaw) t.device with ⟨_ | _, device⟩
  · -- a refused switch: nothing has been done
    obtain ⟨rfl, -, -⟩ := Device.of_setRaw_error hswitch
    have hrefused : (exec Tty.enter t).2 = t := by
      simp [Tty.enter, exec_bind, onDevice, hswitch]
    rwa [hrefused]
  · have hdevice : device.written = t.device.written :=
      (Device.setRaw_keeps_written t.programRaw).of_exec hswitch
    rw [exec_enter_of_switched hswitch (h.writable.of_written hdevice)]
    have hswitched : Balanced a { t with device } := h.of_same rfl rfl hdevice
    refine hswitched.wrote ?_
    rw [show ({ t with device } : Tty).isOpen = false from hclosed, ← h.asked]
    exact read_entering { t with device }

theorem release (h : Balanced a t) : Balanced a (t.use .release) := by
  cases hopen : t.isOpen with
  | false =>
    rw [use_release_of_closed hopen]
    exact h
  | true =>
    rw [use_release_of_open h.writable hopen]
    have hread : Reader.read ⟨face a t.isOpen, .printing⟩ (encodeAll t.leaving) =
        ⟨face a false, .printing⟩ := by
      rw [hopen, ← h.asked]
      exact read_leaving t
    exact (h.wrote hread).of_same rfl rfl (Device.setRaw_keeps_written t.shellRaw _)

theorem use (h : Balanced a t) (u : Use) : Balanced a (t.use u) := by
  cases u with
  | acquire args =>
    cases hopen : t.isOpen with
    | true =>
      rw [use_acquire_of_open hopen]
      exact h.of_same rfl rfl rfl
    | false =>
      rw [use_acquire_of_closed hopen]
      exact (h.of_same rfl rfl rfl : Balanced a ((Entry.acquire args).noted t)).enter hopen
  | reacquire =>
    cases hopen : t.isOpen with
    | true =>
      rw [use_reacquire_of_open hopen]
      exact h.of_same rfl rfl rfl
    | false =>
      rw [use_reacquire_of_closed hopen]
      exact (h.of_same rfl rfl rfl : Balanced a (Entry.reacquire.noted t)).enter hopen
  | release => exact h.release
  | rows =>
    rw [show t.use .rows = t from congrArg Prod.snd (measure_eq h.writable Device.rows)]
    exact h
  | columns =>
    rw [show t.use .columns = t from congrArg Prod.snd (measure_eq h.writable Device.cols)]
    exact h
  | resize rows cols =>
    rw [use_resize h.writable]
    exact h.wrote (read_resize _ rows cols)
  | setCursorShape shape =>
    rw [use_setCursorShape h.writable]
    exact (h.wrote (read_cursorShape _ shape)).of_same rfl rfl rfl
  | saveShellMode => exact h.of_same rfl rfl rfl
  | saveProgramMode =>
    rw [use_saveProgramMode]
    split
    · exact h.of_same rfl rfl rfl
    · exact h
  | setRaw raw =>
    rw [Tty.use, onDevice, exec_zoom]
    exact h.of_same rfl rfl (Device.setRaw_keeps_written raw t.device)

theorem befall (h : Balanced a t) (o : Occurrence) : Balanced a (t.befall o) := by
  cases o with
  | use u => exact h.use u
  | fault => exact h.of_same rfl rfl rfl

theorem befallAll (h : Balanced a t) (l : List Occurrence) : Balanced a (t.befallAll l) := by
  induction l generalizing t with
  | nil => exact h
  | cons o l ih => exact ih (h.befall o)

end Balanced

/-- A new tty is balanced: nothing has been written, and it is not open. -/
theorem balanced_new {device : Device} (hdevice : device.Writable) (hnew : device.output = #[])
    (alternateScreen : Bool) : Balanced alternateScreen { device, alternateScreen } where
  writable := hdevice
  asked := rfl
  reader := by
    rw [reader, hnew]
    rfl

/-! ## The mode to come back to -/

/-- Whether something can happen to a tty that the application leaves alone: raw mode is still
switched, and the device still fails. -/
def Occurrence.isAway : Occurrence → Bool
  | .use (.setRaw _) | .fault .. => true
  | .use _ => false

variable {a : Bool} {t : Tty}

theorem befallAll_away {l : List Occurrence} (h : ∀ o ∈ l, o.isAway = true) :
    (t.befallAll l).isOpen = t.isOpen ∧ (t.befallAll l).programRaw = t.programRaw := by
  induction l generalizing t with
  | nil => exact ⟨rfl, rfl⟩
  | cons o l ih =>
    obtain ⟨ho, hl⟩ := List.forall_mem_cons.mp h
    have hfirst : (t.befall o).isOpen = t.isOpen ∧ (t.befall o).programRaw = t.programRaw := by
      cases o with
      | fault => exact ⟨rfl, rfl⟩
      | use u =>
        cases u with
        | setRaw => exact ⟨rfl, rfl⟩
        | _ => cases ho
    exact ⟨(ih hl).1.trans hfirst.1, (ih hl).2.trans hfirst.2⟩

theorem Balanced.reacquire (h : Balanced a t) (hclosed : t.isOpen = false)
    (hswitch : t.device.raw = t.programRaw ∨ t.device.modeFails = false) :
    (t.use .reacquire).isOpen = true ∧ (t.use .reacquire).device.raw = t.programRaw := by
  rcases hr : exec (Device.setRaw t.programRaw) t.device with ⟨_ | _, device⟩
  · obtain ⟨-, hraw, hfails⟩ := Device.of_setRaw_error hr
    simp [hraw, hfails] at hswitch
  · have hdevice : device.written = t.device.written :=
      (Device.setRaw_keeps_written t.programRaw).of_exec hr
    rw [use_reacquire_of_closed hclosed,
      exec_enter_of_switched (t := Entry.reacquire.noted t) hr (h.writable.of_written hdevice)]
    exact ⟨rfl, (Device.of_setRaw_ok hr).1⟩

/-- **Modes are left as they are entered.** Whatever is done with a new tty, in any order, and
whenever its device begins or ceases to refuse switches of raw mode: as long as no write fails, the
terminal is on its alternate screen exactly if the tty is open and asks for that, and does not wrap
lines exactly if the tty is open. Once the tty is dropped, the terminal is on its main screen and
wraps lines.

If the mode of an open tty is saved and the tty is released, it is back in that mode when it is
taken over again, whatever the application switches in between, unless the last switch is
refused. -/
theorem modes_balanced {device : Device} (hdevice : device.Writable) (hnew : device.output = #[])
    (alternateScreen : Bool) {l : List Occurrence} {t : Tty}
    (ht : t = ({ device, alternateScreen } : Tty).befallAll l) :
    t.reader = ⟨⟨t.isOpen && alternateScreen, !t.isOpen⟩, .printing⟩ ∧
      t.drop.reader = ⟨⟨false, true⟩, .printing⟩ ∧
      ∀ {away : List Occurrence} {back : Tty}, (∀ o ∈ away, o.isAway = true) →
        back = t.befallAll (.use .saveProgramMode :: .use .release :: away) → t.isOpen = true →
        (back.device.raw = t.device.raw ∨ back.device.modeFails = false) →
        (back.use .reacquire).isOpen = true ∧
          (back.use .reacquire).device.raw = t.device.raw := by
  have hbalanced : Balanced alternateScreen t :=
    ht ▸ (balanced_new hdevice hnew alternateScreen).befallAll l
  refine ⟨hbalanced.reader, ?_, fun {away back} haway hback hopen hswitch => ?_⟩
  · have hdropped : Balanced alternateScreen t.drop := hbalanced.release
    have hclosed : t.drop.isOpen = false := by
      cases hopen : t.isOpen with
      | false => rw [drop_of_closed hopen, hopen]
      | true => exact congrArg isOpen (use_release_of_open hbalanced.writable hopen)
    rw [hdropped.reader, hclosed]
    rfl
  · -- the release changes neither the saved mode nor, once it is over, the closed flag
    have hsaved : t.use .saveProgramMode = { t with programRaw := t.device.raw } := if_pos hopen
    have hreleased := use_release_of_open (t := t.use .saveProgramMode)
      (hbalanced.use .saveProgramMode).writable (hsaved ▸ hopen)
    have hback' : back = ((t.use .saveProgramMode).use .release).befallAll away := hback
    obtain ⟨hclosed, hprogram⟩ := befallAll_away (t := (t.use .saveProgramMode).use .release) haway
    rw [← hback', hreleased] at hclosed hprogram
    have hprogram' : back.programRaw = t.device.raw := by
      rw [hprogram, hsaved]
      rfl
    have hbalanced' : Balanced alternateScreen back := hback ▸ hbalanced.befallAll _
    obtain ⟨hreopened, hraw⟩ := hbalanced'.reacquire hclosed (hprogram' ▸ hswitch)
    exact ⟨hreopened, hraw.trans hprogram'⟩

/-- A first entry is refused, and so is an entry during the session. The application turns raw mode
off. -/
def shaky : Tty :=
  ({ device := { rows := 24, cols := 80 }, alternateScreen := true } : Tty).befallAll
    [.fault true none, .use (.acquire []), .fault false (some 3), .use (.acquire []),
      .use .reacquire, .use (.acquire []), .use (.resize 30 100), .use (.setRaw false)]

/-- That application turns raw mode on while the tty is released, and then fails to turn it off. -/
def away : List Occurrence :=
  [.use (.setRaw true), .fault true none, .use (.setRaw false), .fault false none]

theorem modes_balanced_shaky :
    shaky.reader = ⟨⟨true, false⟩, .printing⟩ ∧ shaky.drop.reader = ⟨⟨false, true⟩, .printing⟩ ∧
      let back := shaky.befallAll (.use .saveProgramMode :: .use .release :: away)
      back.device.raw = true ∧ (back.use .reacquire).isOpen = true ∧
        (back.use .reacquire).device.raw = false := by
  obtain ⟨hreader, hdropped, hback⟩ :=
    @modes_balanced { rows := 24, cols := 80 } ⟨rfl, rfl⟩ rfl true _ shaky rfl
  have haway : ∀ o ∈ away, o.isAway = true := by decide
  obtain ⟨hopen, hraw⟩ := hback haway rfl (by decide) (by decide)
  exact ⟨hreader, hdropped, by decide, hopen, hraw⟩

end Tty

end TerminalSession
