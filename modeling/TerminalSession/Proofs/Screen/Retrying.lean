import Mathlib.Data.List.Basic
import TerminalSession.Proofs.Action.Sees
import TerminalSession.Proofs.Engine.Shifted
import TerminalSession.Proofs.Screen.Failing
import TerminalSession.Proofs.Screen.Life

/-!
# Creating again

A create that fails costs nothing but ids. Whatever is then done about the cause (`Relief`), the
next create comes to what it would have come to without the one that failed: the same layout, the
same windows under later ids, and the same calls of initializers.
-/

namespace TerminalSession

open TerminalSession.Action

/-! ## What a create goes by -/

namespace Headless

/-- What decides whether a terminal can be taken over, and its size. -/
def settings (t : Headless) : Int × Int × Bool × List HeadlessFailure :=
  (t.rows, t.cols, t.refuses, t.failures)

theorem guardCall_coupled {R : Headless → Headless → Prop}
    (hR : ∀ t t', R t t' → t'.failures = t.failures) (which : HeadlessFailure) :
    Coupled R (guardCall which) (guardCall which) := by
  refine .get_bind fun t t' h => ?_
  rw [hR t t' h]
  exact .ite _ (.throw _) (.pure ())

theorem takeOver_coupled {R : Headless → Headless → Prop}
    (hR : ∀ t t', R t t' → t'.refuses = t.refuses)
    (hopen : ∀ t t', R t t' → R { t with isOpen := true } { t' with isOpen := true }) :
    Coupled R takeOver takeOver := by
  refine .get_bind fun t t' h => ?_
  rw [hR t t' h]
  exact .ite _ (.throw_bind _ _ _) (.bind (.pure ()) fun _ => .modify hopen)

/-- Taking a terminal over goes by its settings and changes three other fields only. -/
theorem acquire_coupled {R : Headless → Headless → Prop}
    (hR : ∀ t t', R t t' → t'.settings = t.settings)
    (hcalls : ∀ {t t' : Headless}, R t t' → ∀ isOpen calls arguments isOpen' calls' arguments',
      R { t with isOpen, calls, arguments }
        { t' with isOpen := isOpen', calls := calls', arguments := arguments' })
    (args : List String) : Coupled R (Terminal.acquire args) (Terminal.acquire args) := by
  refine .bind (.modify fun _ _ h => hcalls h ..) fun _ => ?_
  refine .bind (guardCall_coupled (fun t t' h => congrArg (·.2.2.2) (hR t t' h)) _) fun _ => ?_
  refine .bind (.modify fun _ _ h => hcalls h ..) fun _ => ?_
  exact takeOver_coupled (fun t t' h => congrArg (·.2.2.1) (hR t t' h)) fun _ _ h => hcalls h ..

theorem acquire_sees (args : List String) :
    Sees settings (Terminal.acquire args : Action Headless TerminalError Unit) :=
  acquire_coupled (fun _ _ h => h) (fun h _ _ _ _ _ _ => h) args

theorem guardCall_keeps_settings (which : HeadlessFailure) : Keeps settings (guardCall which) := by
  intro t
  simp only [guardCall, exec_bind_ok (exec_get _)]
  split <;> rfl

end Headless

namespace Screen

variable {ε α : Type} {s s' : Screen Headless Buffers}

/-- What of the terminal decides whether and at what size it can be taken over. -/
def settings (s : Screen Headless Buffers) : Int × Int × Bool × List HeadlessFailure :=
  s.terminal.settings

theorem onTerminal_sees_settings {x : Action Headless ε α} (h : Sees Headless.settings x) :
    Sees settings (onTerminal x : Action (Screen Headless Buffers) ε α) :=
  fun s s' hs => h s.terminal s'.terminal hs

theorem enter_sees (args : List String) : Sees settings (enter args) := by
  have hrows : Sees Headless.settings
      (monadLift (Terminal.rows (T := Headless)) : Action Headless ScreenError Int) :=
    fun t t' h => ⟨congrArg Except.ok (show t'.rows = t.rows from congrArg (·.1) h), h⟩
  have hcols : Sees Headless.settings
      (monadLift (Terminal.columns (T := Headless)) : Action Headless ScreenError Int) :=
    fun t t' h => ⟨congrArg Except.ok (show t'.cols = t.cols from congrArg (·.2.1) h), h⟩
  refine .bind (.mapError (onTerminal_sees_settings (Headless.acquire_sees args)) _) fun _ => ?_
  refine .bind (onTerminal_sees_settings hrows) fun _ => ?_
  refine .bind (onTerminal_sees_settings hcols) fun _ => ?_
  exact .ite _ (.throw_bind _ _) (.ite _ (.throw_bind _ _) (.pure _))

/-! Ending a session leaves the settings of the terminal. -/

theorem onTerminal_keeps_settings {x : Action Headless ε α} (h : Keeps Headless.settings x) :
    Keeps settings (onTerminal x : Action (Screen Headless Buffers) ε α) :=
  fun s => h s.terminal

theorem keeps_settings_of_outline {x : Action (Screen Headless Buffers) ε α}
    (h : Keeps (outline Headless.settings) x) : Keeps settings x :=
  fun s => (outline_eq_iff.mp (h s)).2.2

theorem restoreCursor_keeps_settings (shape : CursorShape) :
    Keeps settings (restoreCursor shape : Action (Screen Headless Buffers) ε Unit) := by
  refine .attempt_bind (onTerminal_keeps_settings ?_) (fun _ => .pure ()) fun _ => fun _ => rfl
  exact .bind (Headless.guardCall_keeps_settings _) fun _ => .bind (.modify fun _ => rfl) fun _ =>
    .modify fun _ => rfl

theorem releaseTerminal_keeps_settings :
    Keeps settings (releaseTerminal : Action (Screen Headless Buffers) ε Unit) := by
  refine .attempt_bind (onTerminal_keeps_settings ?_) (fun _ => .pure ()) fun _ => fun _ => rfl
  exact .bind (Headless.guardCall_keeps_settings _) fun _ => .bind (.modify fun _ => rfl) fun _ =>
    .modify fun _ => rfl

theorem destroy_keeps_settings :
    Keeps settings (destroy : Action (Screen Headless Buffers) ε Unit) := by
  refine .bind (fun _ => rfl) fun _ => .get_bind fun s => ?_
  cases hs : s.session with
  | none => rfl
  | some session =>
    have hend : Keeps settings (do
        resetLabels
        modify ({ · with phase := .destroyed })
        report .destroyed : Action (Screen Headless Buffers) ε Unit) :=
      .bind (keeps_settings_of_outline resetLabels_keeps) fun _ =>
        .bind (.modify fun _ => rfl) fun _ => fun _ => rfl
    have hrest : Keeps settings (do
        session.windows.all.forM discardWindow
        restoreCursor session.cursorBefore
        if session.alive then releaseTerminal
        resetLabels
        modify ({ · with phase := .destroyed })
        report .destroyed : Action (Screen Headless Buffers) ε Unit) := by
      refine .bind (.forM (fun _ => keeps_settings_of_outline (discardWindow_keeps _)) _) fun _ => ?_
      refine .bind (restoreCursor_keeps_settings _) fun _ => ?_
      exact .ite _ (.bind releaseTerminal_keeps_settings fun _ => hend) hend
    exact hrest _

theorem settings_atCreate (s : Screen Headless Buffers) : s.atCreate.settings = s.settings := by
  rw [atCreate, vacated]
  split
  · exact destroy_keeps_settings _
  · rfl

/-- A create on a screen with the same settings, and with the same plan for every size, comes to
the same. -/
theorem prospect_congr (args : List String) (hsettings : s'.settings = s.settings)
    (hplan : ∀ size, s'.interior.cleared.plan size = s.interior.cleared.plan size) :
    s'.prospect args = s.prospect args := by
  have hat : s'.atCreate.settings = s.atCreate.settings := by
    rw [settings_atCreate, settings_atCreate, hsettings]
  rw [prospect, prospect, (enter_sees args _ _ hat).1, funext hplan]

end Screen

/-! ## What is done about the cause -/

/-- What can be done about the cause of a failure: another terminal size, arrangements for other
failures, another budget, and windows given up. -/
structure Relief where
  rows : Int
  cols : Int
  refuses : Bool
  failures : List HeadlessFailure
  budget : Option Nat
  gone : List WindowId

namespace Relief

def engine (x : Relief) (b : Buffers) : Buffers := { b.discard x.gone with budget := x.budget }

def interior (x : Relief) (i : Interior Buffers) : Interior Buffers :=
  { i with engine := x.engine i.engine }

def apply (x : Relief) (s : Screen Headless Buffers) : Screen Headless Buffers :=
  { s with
    terminal := { s.terminal with
      rows := x.rows, cols := x.cols, refuses := x.refuses, failures := x.failures }
    engine := x.engine s.engine }

variable (x : Relief)

theorem engine_bury (b : Buffers) (n : Nat) : x.engine (b.bury n) = (x.engine b).bury n := by
  rw [engine, Buffers.discard_bury]
  rfl

theorem engine_discard (b : Buffers) (ids : List WindowId) :
    x.engine (b.discard ids) = (x.engine b).discard ids := by
  have hslots : ({ b.discard x.gone with budget := x.budget } : Buffers).discard ids =
      { (b.discard x.gone).discard ids with budget := x.budget } := by
    refine Buffers.ext_slots (by simp) fun id => ?_
    rw [Buffers.slots_discard]
    exact ((b.discard x.gone).slots_discard ids id).symm
  rw [engine, engine, hslots, Buffers.discard_comm]

theorem ended_interior (i : Interior Buffers) : (x.interior i).ended = x.interior i.ended := by
  rw [Interior.ended, Interior.ended]
  cases hs : i.session with
  | none => simp only [interior, hs]
  | some session => simp only [interior, hs, engine_discard]

/-- It does not matter whether something is done before or after a suspended session is ended. -/
theorem cleared_interior (i : Interior Buffers) : (x.interior i).cleared = x.interior i.cleared := by
  rw [Interior.cleared, Interior.cleared]
  have hphase : (x.interior i).phase = i.phase := rfl
  rw [hphase, ended_interior]
  split <;> rfl

end Relief

theorem Interior.cleared_cleared (i : Interior Buffers) : i.cleared.cleared = i.cleared := by
  by_cases h : i.phase = .suspended
  · rw [cleared_of_suspended h, ended]
    cases hs : i.session with
    | none => simp only [cleared, ended, hs, h, if_true]
    | some session => rfl
  · rw [cleared_of_ne h, cleared_of_ne h]

/-! ## Other ids -/

/-- A window set whose ids are all later by as much. -/
def WindowSet.renumbered (windows : WindowSet) (n : Nat) : WindowSet where
  display := windows.display + n
  physical := windows.physical + n
  snapshot := windows.snapshot + n
  reserved := windows.reserved.map fun w => { w with window := w.window + n }
  strip := windows.strip.map (· + n)

theorem numberLines_add (first n : Nat) (lines : List ReservedLine) :
    numberLines (first + n) lines =
      (numberLines first lines).map fun w => { w with window := w.window + n } := by
  induction lines generalizing first with
  | nil => rfl
  | cons line lines ih =>
    rw [numberLines, numberLines, List.map_cons, ← ih (first + 1), Nat.add_right_comm]

theorem Layout.numbered_add (l : Layout) (first n : Nat) :
    l.numbered (first + n) = (l.numbered first).renumbered n := by
  rw [numbered, numbered, WindowSet.renumbered]
  simp only [Nat.add_right_comm first n, numberLines_add, Option.map_map]
  rfl

/-- A call of an initializer: for which window, in how many columns. -/
structure InitializerCall (E : Type) where
  registration : Registration E
  window : WindowId
  cols : Nat

namespace InitializerCall

variable {E : Type}

def renumbered (call : InitializerCall E) (n : Nat) : InitializerCall E :=
  { call with window := call.window + n }

def run (engine : E) (call : InitializerCall E) : E :=
  call.registration.init engine call.window call.cols

end InitializerCall

/-- The calls that the initializers of waiting lines get. -/
def initializerCalls {E : Type} (pending : List (Registration E)) (windows : List ReservedWindow)
    (cols : Nat) : List (InitializerCall E) :=
  (pending.zip windows).map fun (registration, w) => ⟨registration, w.window, cols⟩

theorem initialized_eq {E : Type} (pending : List (Registration E)) (windows : List ReservedWindow)
    (cols : Nat) (engine : E) : initialized pending windows cols engine =
      (initializerCalls pending windows cols).foldl InitializerCall.run engine := by
  rw [initialized, initializerCalls, List.foldl_map]
  rfl

theorem initializerCalls_renumbered {E : Type} (pending : List (Registration E))
    (windows : WindowSet) (n cols : Nat) :
    initializerCalls pending (windows.renumbered n).reserved cols =
      (initializerCalls pending windows.reserved cols).map (·.renumbered n) := by
  simp only [initializerCalls, WindowSet.renumbered, List.zip_map_right, List.map_map]
  rfl

/-- An initializer that treats its window alike under all ids. -/
def UniformInit (init : Buffers → WindowId → Nat → Buffers) : Prop :=
  ∀ {first n : Nat} {b b' : Buffers} {id : Nat} {cols : Nat}, first ≤ id → b.Shifted first n b' →
    (init b id cols).Shifted first n (init b' (id + n) cols)

theorem shifted_foldl_run {first n : Nat} {calls : List (InitializerCall Buffers)}
    (h : ∀ call ∈ calls, first ≤ call.window ∧ UniformInit call.registration.init) {b b' : Buffers}
    (hb : b.Shifted first n b') :
    (calls.foldl InitializerCall.run b).Shifted first n
      ((calls.map (·.renumbered n)).foldl InitializerCall.run b') := by
  induction calls generalizing b b' with
  | nil => exact hb
  | cons call calls ih =>
    obtain ⟨hid, huniform⟩ := h call (.head _)
    exact ih (fun call' h' => h call' (.tail _ h')) (huniform hid hb)

/-- Initializers that take no notice of ids fill windows alike under all ids. -/
theorem shifted_initialized {pending : List (Registration Buffers)} {windows : WindowSet}
    {first n : Nat} (huniform : ∀ registration ∈ pending, UniformInit registration.init)
    (hids : ∀ id ∈ windows.all, first ≤ id) (cols : Nat) {b b' : Buffers}
    (hb : b.Shifted first n b') :
    (initialized pending windows.reserved cols b).Shifted first n
      (initialized pending (windows.renumbered n).reserved cols b') := by
  rw [initialized_eq, initialized_eq, initializerCalls_renumbered]
  refine shifted_foldl_run (fun call hcall => ?_) hb
  obtain ⟨⟨registration, w⟩, hmem, rfl⟩ := List.mem_map.mp hcall
  obtain ⟨hregistration, hw⟩ := List.of_mem_zip hmem
  exact ⟨hids _ (by simp [WindowSet.all]; exact .inr (.inl ⟨w, hw, rfl⟩)), huniform _ hregistration⟩

/-! ## Two creates -/

/-- Two screens on which a session has just begun, with the same layout, with windows that differ in
their ids alone, and after the same calls of the initializers of the lines that waited. -/
inductive BegunAlike (pending : List (Registration Buffers)) (s s' : Screen Headless Buffers) : Prop
  | intro {session session' : Session} {first n : Nat} {b b' : Buffers}
    {calls : List (InitializerCall Buffers)} (hs : s.session = some session)
    (hs' : s'.session = some session') (hlayout : session'.layout = session.layout)
    (hwindows : session'.windows = session.windows.renumbered n)
    (hids : ∀ id ∈ session.windows.all, first ≤ id) (hmade : b.Shifted first n b')
    (hcalls : calls = initializerCalls pending session.windows.reserved session.layout.terminalCols)
    (hserved : calls.map InitializerCall.registration = pending)
    (hengine : s.engine = calls.foldl InitializerCall.run b)
    (hengine' : s'.engine = (calls.map (·.renumbered n)).foldl InitializerCall.run b')
    (hcontents : (∀ registration ∈ pending, UniformInit registration.init) →
      s.engine.Shifted first n s'.engine)

/-- What the windows hold differs in ids alone too, if the initializers take no notice of ids. -/
theorem BegunAlike.shifted {pending : List (Registration Buffers)} {s s' : Screen Headless Buffers}
    (h : BegunAlike pending s s')
    (huniform : ∀ registration ∈ pending, UniformInit registration.init) :
    ∃ first n, s.engine.Shifted first n s'.engine := by
  obtain ⟨-, -, -, -, -, -, -, -, -, -, hcontents⟩ := h
  exact ⟨_, _, hcontents huniform⟩

namespace Screen

variable {s s' : Screen Headless Buffers} {args : List String}

theorem result_create {T : Type} [Terminal T] {s s' : Screen T Buffers} {args : List String}
    {r : Except ScreenError Unit} (hphase : s.phase ≠ .alive)
    (h : exec (Call.create args).action s = (r, s')) : r = (s.prospect args).map fun _ => () := by
  have hturned := (Call.create args).turned h
  generalize s'.interior = i at hturned
  cases hturned with
  | createRefused halive => exact absurd halive hphase
  | notOpened _ _ hprospect => rw [hprospect]; rfl
  | notBuilt _ _ hprospect => rw [hprospect]; rfl
  | created _ hprospect => rw [hprospect]; rfl

theorem result_create_alive {T : Type} [Terminal T] {s : Screen T Buffers} (hphase : s.phase = .alive)
    (args : List String) :
    (exec (Call.create args).action s).1 = .error .alreadyActive := by
  rcases h : exec (Call.create args).action s with ⟨r, s'⟩
  have hturned := (Call.create args).turned h
  generalize s'.interior = i at hturned
  cases hturned with
  | createRefused => rfl
  | notOpened hidle | notBuilt hidle | created hidle => exact absurd hphase hidle

theorem of_created {T : Type} [Terminal T] {s s' : Screen T Buffers} {args : List String}
    (h : exec (Call.create args).action s = (.ok (), s')) :
    ∃ session : Session, s.phase ≠ .alive ∧ s.prospect args = .ok session.layout ∧
      session.windows = session.layout.numbered s.interior.cleared.engine.slots.size ∧
      s'.interior = (s.interior.cleared.built session.layout).begun session := by
  have hturned := (Call.create args).turned h
  generalize hi : s'.interior = i at hturned
  cases hturned with
  | @created _ session hphase hprospect hwindows =>
    exact ⟨session, hphase, hprospect, hwindows, rfl⟩

end Screen

/-- Interiors that differ in windows that have come and gone, and perhaps in what became of their
sessions. -/
structure Interior.Buried (n : Nat) (i i' : Interior Buffers) : Prop where
  config : i'.config = i.config
  labels : i'.labels = i.labels
  pending : i'.pending = i.pending
  engine : i'.engine = i.engine.bury n

namespace Interior.Buried

variable {i i' : Interior Buffers} {n : Nat}

theorem relieved (h : Buried n i i') (x : Relief) : Buried n (x.interior i) (x.interior i') := by
  refine ⟨h.config, h.labels, h.pending, ?_⟩
  rw [Relief.interior, Relief.interior, h.engine, x.engine_bury]

theorem plan (h : Buried n i i') (size : Nat × Nat) : i'.plan size = i.plan size := by
  have hallocate : i'.allocate size.1 size.2 = i.allocate size.1 size.2 := by
    rw [Interior.allocate, Interior.allocate, h.config, h.labels, h.pending]
  rw [Interior.plan, Interior.plan, hallocate, h.engine, Buffers.inUse_bury, Buffers.budget_bury]

/-- The windows made for a session differ in their ids alone. -/
theorem built (h : Buried n i i') (l : Layout) :
    (i.built l).engine.Shifted i.engine.slots.size n (i'.built l).engine := by
  have hshifted := i.engine.shifted_bury n
  have hmade := hshifted.addAll (Nat.le_refl _) (newWindows i.config i.labels l)
  rw [← h.engine] at hmade
  rw [Interior.built, Interior.built, h.config, h.labels]
  exact hmade

end Interior.Buried

/-- Every line that waits gets a window. -/
theorem Interior.length_reserved_numbered (i : Interior Buffers) {rows cols : Nat} {l : Layout}
    (h : i.allocate rows cols = .ok l) (first : WindowId) :
    (l.numbered first).reserved.length = i.pending.length := by
  have hreserved := (Layout.of_allocate h).length_reserved
  rw [List.length_map] at hreserved
  rw [Layout.numbered, length_numberLines, hreserved]

namespace Screen

variable {s s' t t' : Screen Headless Buffers} {args : List String} {n : Nat}

theorem begunAlike_of_buried (hburied : s.interior.cleared.Buried n s'.interior.cleared)
    (hsettings : s'.settings = s.settings)
    (h : exec (Call.create args).action s = (.ok (), t))
    (h' : exec (Call.create args).action s' = (.ok (), t')) : BegunAlike s.pending t t' := by
  obtain ⟨session, -, hprospect, hwindows, ht⟩ := of_created h
  obtain ⟨session', -, hprospect', hwindows', ht'⟩ := of_created h'
  have hlayout : session'.layout = session.layout := by
    have hsame := prospect_congr args hsettings hburied.plan
    rw [hprospect, hprospect', Except.ok.injEq] at hsame
    exact hsame
  have hsize : s'.interior.cleared.engine.slots.size = s.interior.cleared.engine.slots.size + n := by
    rw [hburied.engine]
    simp [Buffers.bury]
  have hrenumbered : session'.windows = session.windows.renumbered n := by
    rw [hwindows', hwindows, hlayout, hsize, Layout.numbered_add]
  have hids : ∀ id ∈ session.windows.all, s.interior.cleared.engine.slots.size ≤ id := by
    intro id hid
    rw [hwindows] at hid
    exact (Layout.mem_all_numbered.mp hid).1
  have hpending : s.interior.cleared.pending = s.pending := Interior.pending_cleared _
  have hengine : t.engine = (initializerCalls s.pending session.windows.reserved
      session.layout.terminalCols).foldl InitializerCall.run
        (s.interior.cleared.built session.layout).engine := by
    rw [← initialized_eq, ← hpending]
    exact congrArg Interior.engine ht
  have hengine' : t'.engine = ((initializerCalls s.pending session.windows.reserved
      session.layout.terminalCols).map (·.renumbered n)).foldl InitializerCall.run
        (s'.interior.cleared.built session.layout).engine := by
    rw [← initializerCalls_renumbered, ← hrenumbered, ← initialized_eq, ← hpending,
      ← hburied.pending, ← hlayout]
    exact congrArg Interior.engine ht'
  have hmade := hburied.built session.layout
  refine .intro (congrArg Interior.session ht) (congrArg Interior.session ht') hlayout hrenumbered
    hids hmade rfl ?_ hengine hengine' fun huniform => ?_
  · obtain ⟨⟨rows, cols, hl⟩, -⟩ := of_prospect_ok hprospect
    have hlength := s.interior.cleared.length_reserved_numbered hl s.interior.cleared.engine.slots.size
    rw [hpending, ← hwindows] at hlength
    rw [initializerCalls, List.map_map]
    exact List.map_fst_zip (Nat.le_of_eq hlength.symm)
  · rw [hengine, hengine', ← initializerCalls_renumbered, ← initialized_eq, ← initialized_eq]
    exact shifted_initialized huniform hids _ hmade

/-- Creates on two such screens come to the same. -/
theorem create_alike (hburied : s.interior.cleared.Buried n s'.interior.cleared)
    (hsettings : s'.settings = s.settings) (hphase : s.phase ≠ .alive) (hphase' : s'.phase ≠ .alive) :
    (exec (Call.create args).action s').1 = (exec (Call.create args).action s).1 ∧
      ((exec (Call.create args).action s).1 = .ok () →
        BegunAlike s.pending (exec (Call.create args).action s).2
          (exec (Call.create args).action s').2) := by
  rcases h : exec (Call.create args).action s with ⟨r, t⟩
  rcases h' : exec (Call.create args).action s' with ⟨r', t'⟩
  have hresult : r' = r := by
    rw [result_create hphase h, result_create hphase' h', prospect_congr args hsettings hburied.plan]
  refine ⟨hresult, fun hok => ?_⟩
  dsimp only at hok
  subst hok hresult
  exact begunAlike_of_buried hburied hsettings h h'

/-- What a create that fails leaves differs from what it found in windows that have come and gone. -/
theorem buried_of_create_error {args₀ : List String} {cause : ScreenError} (x : Relief)
    (hphase : s.phase ≠ .alive) (h : exec (Call.create args₀).action s = (.error cause, s')) :
    s'.phase ≠ .alive ∧
      ∃ n, (x.interior s.interior).cleared.Buried n (x.interior s'.interior).cleared := by
  have hcleared : s.interior.cleared.phase ≠ .alive := by
    rw [Interior.cleared]
    split
    · rename_i hsuspended
      rw [Interior.ended]
      split
      · exact hphase
      · simp
    · exact hphase
  have hturned := (Call.create args₀).turned h
  generalize hi : s'.interior = i at hturned
  have hphase' : s'.phase = i.phase := congrArg Interior.phase hi
  rw [hphase', x.cleared_interior, x.cleared_interior]
  cases hturned with
  | createRefused halive => exact absurd halive hphase
  | notOpened =>
    refine ⟨hcleared, 0, Interior.Buried.relieved ?_ x⟩
    rw [Interior.cleared_cleared]
    exact ⟨rfl, rfl, rfl, (Buffers.bury_zero _).symm⟩
  | @notBuilt _ _ count =>
    refine ⟨by simp, count, Interior.Buried.relieved ?_ x⟩
    have huncreated : Phase.uncreated ≠ .suspended := by decide
    have hidle := Interior.cleared_of_ne (i := { s.interior.cleared with
      engine := s.interior.cleared.engine.bury count, phase := .uncreated }) huncreated
    rw [hidle]
    exact ⟨rfl, rfl, rfl, rfl⟩

/-- **A failed call costs nothing.** A call that fails leaves session, windows, labels and waiting
lines as they were, or as `Left` says. After a create that has failed, whatever is done about the
cause, the next one comes to what it would have come to without it. -/
theorem failed_call_undone {c : Call Buffers} {cause : ScreenError}
    (h : exec c.action s = (.error cause, s')) :
    Left s c cause s'.interior ∧
      ∀ args₀, c = .create args₀ → ∀ (x : Relief) (args : List String),
        (exec (Call.create args).action (x.apply s')).1 =
          (exec (Call.create args).action (x.apply s)).1 ∧
        ((exec (Call.create args).action (x.apply s)).1 = .ok () →
          BegunAlike s.pending (exec (Call.create args).action (x.apply s)).2
            (exec (Call.create args).action (x.apply s')).2) := by
  refine ⟨left_of_error h, ?_⟩
  rintro args₀ rfl x args
  by_cases hphase : s.phase = .alive
  · have hphase' : s'.phase = .alive := by
      have hturned := (Call.create args₀).turned h
      generalize hi : s'.interior = i at hturned
      cases hturned with
      | createRefused => exact (congrArg Interior.phase hi).trans hphase
      | notOpened hidle => exact absurd hphase hidle
      | notBuilt hidle => exact absurd hphase hidle
    have hfirst := result_create_alive (s := x.apply s) hphase args
    have hagain := result_create_alive (s := x.apply s') hphase' args
    exact ⟨hagain.trans hfirst.symm, fun hok => by simp [hfirst] at hok⟩
  · obtain ⟨hphase', n, hburied⟩ := buried_of_create_error x hphase h
    have hcleared : (x.apply s).interior.cleared.Buried n (x.apply s').interior.cleared := hburied
    exact create_alike hcleared rfl hphase hphase'

/-- A line at the top with a title in it. -/
def titled : Registration Buffers where
  side := .top
  init engine id _ := (exec (WindowEngine.edit id (.putText 0 0 "title")) engine).2

theorem uniformInit_titled : UniformInit titled.init := fun hid h => h.edit hid rfl

/-- A screen with a line waiting, on a terminal one row too high for its buffers. -/
def tight : Screen Headless Buffers where
  terminal := { rows := 5, cols := 6 }
  engine := { budget := some 72 }
  pending := [titled]

/-- One row less, and everything else as it is. -/
def shorter : Relief where
  rows := 4
  cols := 6
  refuses := false
  failures := []
  budget := some 72
  gone := []

theorem tight_again :
    let failed := exec (Call.create []).action tight
    let first := exec (Call.create []).action (shorter.apply tight)
    let again := exec (Call.create []).action (shorter.apply failed.2)
    failed.1 = .error (.bufferAllocation (.outOfMemory 24 6)) ∧ again.1 = .ok () ∧
      BegunAlike [titled] first.2 again.2 ∧
      ∃ start n, first.2.engine.Shifted start n again.2.engine := by
  have hfailed : (exec (Call.create []).action tight).1 =
      .error (.bufferAllocation (.outOfMemory 24 6)) := by
    decide +kernel
  have hfirst : (exec (Call.create []).action (shorter.apply tight)).1 = .ok () := by
    decide +kernel
  obtain ⟨left, hleft⟩ : ∃ left, (exec (Call.create []).action tight).2 = left := ⟨_, rfl⟩
  dsimp only
  rw [hleft]
  obtain ⟨-, hundone⟩ := failed_call_undone (c := .create []) (Prod.ext hfailed hleft)
  obtain ⟨hagain, hbegun⟩ := hundone [] rfl shorter []
  have halike : BegunAlike [titled] _ _ := hbegun hfirst
  refine ⟨hfailed, hagain.trans hfirst, halike, halike.shifted ?_⟩
  exact List.forall_mem_singleton.mpr uniformInit_titled

/-- A session with labels, whose strip the application has given up. -/
def stripless : Screen Headless Buffers :=
  (Life.moves ⟨{ terminal := { rows := 4, cols := 4 }, engine := {} }, []⟩
    [.call (.initLabels 1), .call (.create []), .engine (·.discard [2])]).screen

/-- The new text stays although the label could not be drawn. -/
theorem stripless_relabelled :
    (exec (Call.setLabel 1 "a" .left).action stripless).1 =
        .error (.bufferAllocation (.unknownWindow 2)) ∧
      (exec (Call.setLabel 1 "a" .left).action stripless).2.labels ≠ stripless.labels := by
  decide +kernel

end Screen

end TerminalSession
