import TerminalSession.Proofs.Screen.Turn

/-!
# Lives of a screen

What can happen to a screen on any terminal, in any order: its calls, whatever happens to the
terminal, and what the application does to the engine on its own. The application acts on the engine
directly and through the initializers of reserved lines; a `Rule` says which changes it confines
itself to, and `Obeys` says that it does so in all of a life.
-/

namespace TerminalSession

open TerminalSession.Action

/-- The ids of the windows of the session, if there is one. -/
def Interior.windowIds {E : Type} (i : Interior E) : List WindowId :=
  match i.session with
  | none => []
  | some session => session.windows.all

/-- What can happen to a screen. -/
inductive Move (T E : Type)
  | call (c : Call E)
  | terminal (f : T → T)
  | engine (f : E → E)
  | modes (modes : InputModes)

/-- A screen, and the calls made to it. -/
structure Life (T E : Type) where
  screen : Screen T E
  log : List (LoggedCall E) := []

/-- Which changes the application makes to an engine with windows of the session under these ids. -/
abbrev Rule : Type := List WindowId → Buffers → Buffers → Prop

namespace Life

theorem windowIds_of_none {i : Interior Buffers} (h : i.session = none) : i.windowIds = [] := by
  rw [Interior.windowIds, h]

theorem windowIds_of_some {i : Interior Buffers} {session : Session}
    (h : i.session = some session) : i.windowIds = session.windows.all := by
  rw [Interior.windowIds, h]

section

variable {T E : Type} [Terminal T] [WindowEngine E]

def move (r : Life T E) : Move T E → Life T E
  | .call c =>
    let (result, screen) := exec c.action r.screen
    { screen, log := r.log ++ [(c, result)] }
  | .terminal f => { r with screen := { r.screen with terminal := f r.screen.terminal } }
  | .engine f => { r with screen := { r.screen with engine := f r.screen.engine } }
  | .modes modes => { r with screen := r.screen.setModes modes }

def moves (r : Life T E) (ms : List (Move T E)) : Life T E := ms.foldl move r

theorem moves_concat (r : Life T E) (ms : List (Move T E)) (m : Move T E) :
    r.moves (ms ++ [m]) = (r.moves ms).move m := by
  simp [moves]

end

variable {T : Type} [Terminal T] {R R' : Rule} {r : Life T Buffers} {ms : List (Move T Buffers)}

/-- Whether what the application does in a move is as the rule has it. In a call that begins a
session, that is what the initializers do to the windows just made. -/
def Allows (R : Rule) (r : Life T Buffers) : Move T Buffers → Prop
  | .call (.create args) =>
    ∀ s session, exec (Call.create args).action r.screen = (.ok (), s) → s.session = some session →
      R session.windows.all (r.screen.interior.cleared.built session.layout).engine s.engine
  | .engine f => R r.screen.interior.windowIds r.screen.engine (f r.screen.engine)
  | _ => True

/-- Whether the application keeps to the rule in all moves. -/
def Obeys (R : Rule) : Life T Buffers → List (Move T Buffers) → Prop
  | _, [] => True
  | r, m :: ms => Allows R r m ∧ Obeys R (r.move m) ms

theorem Allows.mono {m : Move T Buffers} (hR : ∀ ids b b', R ids b b' → R' ids b b')
    (h : Allows R r m) : Allows R' r m := by
  cases m with
  | call c =>
    cases c with
    | create args => exact fun s session hc hs => hR _ _ _ (h s session hc hs)
    | _ => trivial
  | engine f => exact hR _ _ _ h
  | _ => trivial

theorem Obeys.mono (hR : ∀ ids b b', R ids b b' → R' ids b b') (h : Obeys R r ms) :
    Obeys R' r ms := by
  induction ms generalizing r with
  | nil => trivial
  | cons m ms ih => exact ⟨h.1.mono hR, ih h.2⟩

theorem obeys_append {ms' : List (Move T Buffers)} :
    Obeys R r (ms ++ ms') ↔ Obeys R r ms ∧ Obeys R (r.moves ms) ms' := by
  induction ms generalizing r with
  | nil => exact ⟨fun h => ⟨trivial, h⟩, And.right⟩
  | cons m ms ih => exact (and_congr_right fun _ => ih).trans and_assoc.symm

/-- What every allowed move preserves holds in the end. -/
theorem Obeys.preserves {P : Life T Buffers → Prop} (h : Obeys R r ms)
    (hmove : ∀ r m, Allows R r m → P r → P (r.move m)) (hr : P r) : P (r.moves ms) := by
  induction ms generalizing r with
  | nil => exact hr
  | cons m ms ih => exact ih h.2 (hmove r m h.1 hr)

/-! ## Moves -/

theorem move_call {c : Call Buffers} {result : Except ScreenError Unit} {s' : Screen T Buffers}
    (h : exec c.action r.screen = (result, s')) :
    r.move (.call c) = ⟨s', r.log ++ [(c, result)]⟩ := by
  rw [move, h]

/-- The sides of the reserved lines that wait, and of those of the last session that was created,
after a call. -/
def registering (sides : List Side × List Side) : LoggedCall Buffers → List Side × List Side
  | (.reserveLine side _, .ok ()) => (sides.1 ++ [side], sides.2)
  | (.create _, .ok ()) => ([], sides.1)
  | _ => sides

/-- The sides of the lines registered since the last session was created, and of those registered
for that session. -/
def registered (log : List (LoggedCall Buffers)) : List Side × List Side :=
  log.foldl registering ([], [])

/-- What stays of a session as long as its windows are not rearranged. -/
def arrangement (session : Session) : Bool × Layout × WindowSet :=
  (session.consistent, session.layout, session.windows)

/-- What a move can do as far as the windows of a session are concerned. -/
inductive Moved (R : Rule) (r r' : Life T Buffers) : Prop
  /-- Windows are drawn into, or the application acts. -/
  | quiet (hsession : r'.screen.session.map arrangement = r.screen.session.map arrangement)
    (hphase : r'.screen.phase = r.screen.phase ∨
      (r.screen.phase = .alive ∧ r'.screen.phase = .suspended) ∨
      (r.screen.phase = .suspended ∧ r'.screen.phase = .alive ∧
        ∃ session, r.screen.session = some session ∧ session.consistent = true))
    (hconfig : r'.screen.config = r.screen.config)
    (hwindow : r'.screen.labels.window = r.screen.labels.window)
    (hformat : r.screen.session ≠ none → r'.screen.labels.format = r.screen.labels.format)
    (hserved : (registered r'.log).2 = (registered r.log).2)
    (hengine : R r.screen.interior.windowIds r.screen.engine r'.screen.engine ∨
      ∃ es : List (WindowId × Edit), (∀ p ∈ es, p.2.isPlacing = false) ∧
        r'.screen.engine = r.screen.engine.changeAll es)
  | broken {session : Session} {l : Layout} {done : List (WindowId × Edit)} {labels : SoftLabels}
    {cause : WindowError} (h : r.screen.phase = .alive) (hs : r.screen.session = some session)
    (hperformed : exec (Buffers.performing (session.windows.rearrangement l r.screen.labels))
      r.screen.engine = (.error cause, r.screen.engine.changeAll done))
    (hlabels : labels = r.screen.labels ∨ labels = session.windows.relabel l r.screen.labels)
    (hr' : r'.screen.interior = { r.screen.interior with
      engine := r.screen.engine.changeAll done
      labels
      session := some { session with alive := false, consistent := false }
      phase := .suspended })
  | resized {session : Session} {l : Layout} (h : r.screen.phase = .alive)
    (hs : r.screen.session = some session)
    (hl : ∃ rows cols,
      Layout.allocate rows cols session.layout.sides session.layout.strip = .ok l)
    (hperformed : exec (Buffers.performing (session.windows.rearrangement l r.screen.labels))
      r.screen.engine =
        (.ok (), r.screen.engine.changeAll (session.windows.rearrangement l r.screen.labels)))
    (hserved : (registered r'.log).2 = (registered r.log).2)
    (hr' : r'.screen.interior = { r.screen.interior with
      engine := r.screen.engine.changeAll (session.windows.rearrangement l r.screen.labels)
      labels := session.windows.relabel l r.screen.labels
      session := some { session with layout := l, resized := false } })
  | ended (hr' : r'.screen.interior = r.screen.interior.ended)
  | unbuilt {count : Nat} (h : r.screen.phase ≠ .alive)
    (hr' : r'.screen.interior = { r.screen.interior.cleared with
      engine := r.screen.interior.cleared.engine.bury count, phase := .uncreated })
  | created {session : Session} (h : r.screen.phase ≠ .alive)
    (hl : ∃ rows cols, r.screen.interior.cleared.allocate rows cols = .ok session.layout)
    (hreserve : Buffers.reserveAll r.screen.interior.cleared.engine.budget
      r.screen.interior.cleared.engine.inUse session.layout.areas = .ok ())
    (hwindows : session.windows =
      session.layout.numbered r.screen.interior.cleared.engine.slots.size)
    (hconsistent : session.consistent = true)
    (hserved : (registered r'.log).2 = (registered r.log).1)
    (hinit : R session.windows.all (r.screen.interior.cleared.built session.layout).engine
      r'.screen.engine)
    (hr' : r'.screen.interior =
      (r.screen.interior.cleared.built session.layout).begun session)

theorem registered_append (log : List (LoggedCall Buffers)) (entry : LoggedCall Buffers) :
    registered (log ++ [entry]) = registering (registered log) entry := by
  simp [registered]

omit [Terminal T] in
/-- Nothing but lines, labels and the state of the session is changed. -/
theorem Moved.of_drawn {r' : Life T Buffers} {session : Option Session} {phase : Phase}
    {labels : SoftLabels} (es : List (WindowId × Edit))
    (hr' : r'.screen.interior = { r.screen.interior with
      engine := r.screen.engine.changeAll es, session, phase, labels })
    (hserved : (registered r'.log).2 = (registered r.log).2)
    (hes : ∀ p ∈ es, p.2.isPlacing = false)
    (hsession : session.map arrangement = r.screen.session.map arrangement)
    (hphase : phase = r.screen.phase ∨ (r.screen.phase = .alive ∧ phase = .suspended) ∨
      (r.screen.phase = .suspended ∧ phase = .alive ∧
        ∃ session, r.screen.session = some session ∧ session.consistent = true))
    (hwindow : labels.window = r.screen.labels.window)
    (hformat : r.screen.session ≠ none → labels.format = r.screen.labels.format) :
    Moved R r r' := by
  simp only [Screen.interior, Interior.mk.injEq] at hr'
  obtain ⟨hengine, hconfig, rfl, -, rfl, rfl⟩ := hr'
  exact .quiet hsession hphase hconfig hwindow hformat hserved (.inr ⟨es, hes, hengine⟩)

omit [Terminal T] in
theorem Moved.of_pending {r' : Life T Buffers} {pending : List (Registration Buffers)}
    (hr' : r'.screen.interior = { r.screen.interior with pending })
    (hserved : (registered r'.log).2 = (registered r.log).2) : Moved R r r' := by
  simp only [Screen.interior, Interior.mk.injEq] at hr'
  obtain ⟨hengine, hconfig, hlabels, -, hsession, hphase⟩ := hr'
  exact .quiet (by rw [hsession]) (.inl hphase) hconfig (by rw [hlabels])
    (fun _ => by rw [hlabels]) hserved (.inr ⟨[], List.forall_mem_nil _, hengine⟩)

theorem moved_call {c : Call Buffers} (h : Allows R r (.call c)) :
    Moved R r (r.move (.call c)) := by
  rcases hc : exec c.action r.screen with ⟨result, s'⟩
  have hturned := c.turned hc
  have hserved := congrArg Prod.snd (registered_append r.log (c, result))
  rw [move_call hc]
  generalize hi : s'.interior = i at hturned
  cases hturned with
  | lineRefused | labelsRefused | labelRefused | suspendRefused | resumeRefused | resumeNeedless
  | resizeRefused | createRefused | lineReserved => exact .of_pending hi hserved
  | labelsChosen hs hinit =>
    exact .of_drawn [] hi hserved (List.forall_mem_nil _) rfl (.inl rfl)
      (SoftLabels.window_init hinit) fun h => absurd hs h
  | labelKept hs hset =>
    obtain ⟨hwindow, hformat⟩ := SoftLabels.of_setLabel hset
    exact .of_drawn [] hi hserved (List.forall_mem_nil _) rfl (.inl rfl) hwindow fun _ => hformat
  | labelDrawn hs hset =>
    obtain ⟨hwindow, hformat⟩ := SoftLabels.of_setLabel hset
    exact .of_drawn _ hi hserved (fun p => SoftLabels.not_isPlacing_of_mem_redrawn) rfl (.inl rfl)
      hwindow fun _ => hformat
  | labelNotDrawn hs hset _ _ =>
    obtain ⟨hwindow, hformat⟩ := SoftLabels.of_setLabel hset
    exact .of_drawn [] hi hserved (List.forall_mem_nil _) rfl (.inl rfl) hwindow fun _ => hformat
  | resizeReported =>
    refine .of_drawn [] hi hserved (List.forall_mem_nil _) ?_ (.inl rfl) rfl fun _ => rfl
    rw [Option.map_map]
    rfl
  | suspended hphase =>
    refine .of_drawn [] hi hserved (List.forall_mem_nil _) ?_ (.inr (.inl ⟨hphase, rfl⟩)) rfl
      fun _ => rfl
    rw [Option.map_map]
    rfl
  | @resumed session hphase hs hconsistent =>
    refine .of_drawn [(session.windows.physical, .setClear true)] hi hserved ?_ ?_
      (.inr (.inr ⟨hphase, rfl, session, hs, hconsistent⟩)) rfl fun _ => rfl
    · simp [Edit.isPlacing]
    · rw [hs]
      rfl
  | notLaidOut hphase hs hgranted hcause =>
    refine .of_drawn [] hi hserved (List.forall_mem_nil _) ?_ (.inl rfl) rfl fun _ => rfl
    rw [hs]
    rfl
  | broken hphase hs hgranted hl hdone hperformed hlabels =>
    exact .broken hphase hs hperformed hlabels hi
  | resized hphase hs hl hperformed => exact .resized hphase hs hl hperformed hserved hi
  | destroyed => exact .ended hi
  | notOpened hphase =>
    rw [Interior.cleared] at hi
    split at hi
    · exact .ended hi
    · exact .of_pending hi hserved
  | notBuilt hphase => exact .unbuilt hphase hi
  | @created args session hphase hprospect hwindows halive hconsistent hresized =>
    obtain ⟨hl, hreserve⟩ := Screen.of_prospect_ok hprospect
    have hinit := h s' session hc (congrArg Interior.session hi)
    exact .created hphase hl hreserve hwindows hconsistent hserved hinit hi

/-- Every allowed move is of one of these kinds. -/
theorem moved_of_allows {m : Move T Buffers} (h : Allows R r m) : Moved R r (r.move m) := by
  cases m with
  | call c => exact moved_call h
  | terminal f => exact .of_pending rfl rfl
  | engine f =>
    exact .quiet rfl (.inl rfl) rfl rfl (fun _ => rfl) rfl (.inl h)
  | modes modes =>
    refine .of_drawn [] rfl rfl (List.forall_mem_nil _) ?_ (.inl rfl) rfl fun _ => rfl
    change (r.screen.session.map _).map _ = _
    rw [Option.map_map]
    rfl

/-! ## What lasts in an engine -/

/-- What a screen cannot lose of an engine, whatever it does to the windows. -/
structure Lasting (I : Buffers → Prop) : Prop where
  drawn : ∀ {b es}, (∀ p ∈ es, p.2.isPlacing = false) → I b → I (b.changeAll es)
  performed : ∀ {b es r b'}, exec (Buffers.performing es) b = (r, b') → I b → I b'
  added : ∀ {b config labels} {l : Layout}, Buffers.reserveAll b.budget b.inUse l.areas = .ok () →
    I b → I (b.addAll (newWindows config labels l))
  discarded : ∀ {b} ids, I b → I (b.discard ids)
  buried : ∀ {b} count, I b → I (b.bury count)

namespace Lasting

variable {I : Buffers → Prop}

theorem ended (hI : Lasting I) {i : Interior Buffers} (h : I i.engine) : I i.ended.engine := by
  rw [Interior.ended]
  split
  · exact h
  · exact hI.discarded _ h

theorem cleared (hI : Lasting I) {i : Interior Buffers} (h : I i.engine) : I i.cleared.engine := by
  rw [Interior.cleared]
  split
  · exact hI.ended h
  · exact h

omit [Terminal T] in
theorem moved (hI : Lasting I) (hR : ∀ ids b b', R ids b b' → I b → I b') {r' : Life T Buffers}
    (h : Moved R r r') (hr : I r.screen.engine) : I r'.screen.engine := by
  cases h with
  | quiet hsession hphase hconfig hwindow hformat hserved hengine =>
    rcases hengine with h | ⟨es, hes, h⟩
    · exact hR _ _ _ h hr
    · rw [h]
      exact hI.drawn hes hr
  | broken hphase hs hperformed hlabels hr' =>
    have hengine := congrArg Interior.engine hr'
    dsimp only [Screen.interior] at hengine
    rw [hengine]
    exact hI.performed hperformed hr
  | resized hphase hs hl hperformed hserved hr' =>
    have hengine := congrArg Interior.engine hr'
    dsimp only [Screen.interior] at hengine
    rw [hengine]
    exact hI.performed hperformed hr
  | ended hr' =>
    rw [show r'.screen.engine = _ from congrArg Interior.engine hr']
    exact hI.ended hr
  | unbuilt hphase hr' =>
    rw [show r'.screen.engine = _ from congrArg Interior.engine hr']
    exact hI.buried _ (hI.cleared hr)
  | created hphase hl hreserve hwindows hconsistent hserved hinit hr' =>
    exact hR _ _ _ hinit (hI.added hreserve (hI.cleared (i := r.screen.interior) hr))

/-- What lasts, and is not lost to the application either, holds in all of a life. -/
theorem moves (hI : Lasting I) (hR : ∀ ids b b', R ids b b' → I b → I b') (hobeys : Obeys R r ms)
    (hr : I r.screen.engine) : I (r.moves ms).screen.engine :=
  hobeys.preserves (P := fun r => I r.screen.engine)
    (fun _ _ hallows hr => hI.moved hR (moved_of_allows hallows) hr) hr

end Lasting

/-! ## Applications that are confined to a rule -/

/-- A rule for doing nothing and for one thing after another. -/
structure Closed (R : Rule) : Prop where
  refl : ∀ ids b, R ids b b
  trans : ∀ {ids b b' b''}, R ids b b' → R ids b' b'' → R ids b b''

/-- Whether a rule confines an initializer on every engine. -/
def ConfinesInit (R : Rule) (init : Buffers → WindowId → Nat → Buffers) : Prop :=
  ∀ ids b window cols, R ids b (init b window cols)

/-- Whether a rule confines all that the application brings in with a move. -/
def Confines (R : Rule) : Move T Buffers → Prop
  | .call (.reserveLine _ init) => ConfinesInit R init
  | .engine f => ∀ ids b, R ids b (f b)
  | _ => True

theorem Closed.initialized (hR : Closed R) {pending : List (Registration Buffers)}
    (h : ∀ registration ∈ pending, ConfinesInit R registration.init) (windows : List ReservedWindow)
    (cols : Nat) (ids : List WindowId) (b : Buffers) :
    R ids b (initialized pending windows cols b) := by
  induction pending generalizing windows b with
  | nil => exact hR.refl ids b
  | cons registration pending ih =>
    cases windows with
    | nil => exact hR.refl ids b
    | cons w windows =>
      exact hR.trans (h registration (.head _) ids b w.window cols)
        (ih (fun registration' h' => h registration' (.tail _ h')) windows _)

/-- A call leaves the lines that wait, adds one, or has them all used. -/
theorem pending_turned {s : Screen T Buffers} {c : Call Buffers} {result : Except ScreenError Unit}
    {i : Interior Buffers} (h : Screen.Turned s c result i) :
    i.pending = s.pending ∨ i.pending = [] ∨
      ∃ side init, c = .reserveLine side init ∧ i.pending = s.pending ++ [⟨side, init⟩] := by
  cases h with
  | lineReserved => exact .inr (.inr ⟨_, _, rfl, rfl⟩)
  | destroyed => exact .inl (Interior.pending_ended _)
  | notOpened => exact .inl (Interior.pending_cleared _)
  | notBuilt => exact .inl (Interior.pending_cleared _)
  | created => exact .inr (.inl rfl)
  | _ => exact .inl rfl

theorem pending_move {m : Move T Buffers} (hm : Confines R m)
    (h : ∀ registration ∈ r.screen.pending, ConfinesInit R registration.init) :
    ∀ registration ∈ (r.move m).screen.pending, ConfinesInit R registration.init := by
  cases m with
  | call c =>
    rcases hc : exec c.action r.screen with ⟨result, s'⟩
    rw [move_call hc]
    rcases pending_turned (c.turned hc) with hpending | hpending | ⟨side, init, rfl, hpending⟩
    · exact (show s'.pending = _ from hpending) ▸ h
    · exact (show s'.pending = _ from hpending) ▸ List.forall_mem_nil _
    · rw [show s'.pending = _ from hpending, List.forall_mem_append]
      refine ⟨h, fun registration hmem => ?_⟩
      cases List.mem_singleton.mp hmem
      exact hm
  | _ => exact h

/-- An application that brings in nothing but what keeps to a rule obeys it. -/
theorem obeys_of_confines (hR : Closed R)
    (hr : ∀ registration ∈ r.screen.pending, ConfinesInit R registration.init)
    (hms : ∀ m ∈ ms, Confines R m) : Obeys R r ms := by
  induction ms generalizing r with
  | nil => trivial
  | cons m ms ih =>
    have hm := hms m (.head _)
    refine ⟨?_, ih (pending_move hm hr) fun m' h' => hms m' (.tail _ h')⟩
    cases m with
    | call c =>
      cases c with
      | create args =>
        intro s session hcreate hs
        have hturned := (Call.create args).turned hcreate
        generalize hi : s.interior = i at hturned
        cases hturned with
        | @created _ session' =>
          cases hs.symm.trans (congrArg Interior.session hi)
          have hengine : s.engine = _ := congrArg Interior.engine hi
          rw [hengine]
          exact hR.initialized ((Interior.pending_cleared _).symm ▸ hr) _ _ _ _
      | _ => trivial
    | engine f => exact hm _ _
    | _ => trivial

/-! ## What holds in any life -/

/-- Whatever the application does to the engine. -/
def anything : Rule := fun _ _ _ => True

theorem obeys_anything (r : Life T Buffers) (ms : List (Move T Buffers)) : Obeys anything r ms := by
  induction ms generalizing r with
  | nil => trivial
  | cons m ms ih =>
    refine ⟨?_, ih _⟩
    cases m with
    | call c => cases c <;> first | trivial | exact fun _ _ _ _ => trivial
    | _ => trivial

theorem waiting_turned {s : Screen T Buffers} {c : Call Buffers} {result : Except ScreenError Unit}
    {i : Interior Buffers} {sides : List Side × List Side} (h : Screen.Turned s c result i)
    (hs : sides.1 = s.pending.map Registration.side) :
    (registering sides (c, result)).1 = i.pending.map Registration.side := by
  cases h with
  | lineReserved =>
    change sides.1 ++ _ = (s.pending ++ _).map _
    rw [List.map_append, hs]
    rfl
  | destroyed =>
    rw [Interior.pending_ended]
    exact hs
  | notOpened =>
    rw [Interior.pending_cleared]
    exact hs
  | notBuilt =>
    change _ = s.interior.cleared.pending.map _
    rw [Interior.pending_cleared]
    exact hs
  | created => rfl
  | _ => exact hs

/-- The lines that wait are those registered since the last session was created. -/
theorem waiting_move (m : Move T Buffers)
    (hr : (registered r.log).1 = r.screen.pending.map Registration.side) :
    (registered (r.move m).log).1 = (r.move m).screen.pending.map Registration.side := by
  cases m with
  | call c =>
    rcases hc : exec c.action r.screen with ⟨result, s'⟩
    rw [move_call hc, registered_append]
    exact waiting_turned (c.turned hc) hr
  | _ => exact hr

/-- What holds of the interior of a screen however the application treats the engine. -/
structure Coherent (i : Interior Buffers) : Prop where
  phase : i.session.isSome ↔ i.phase = .alive ∨ i.phase = .suspended
  alive : i.phase = .alive → ∀ session, i.session = some session → session.consistent = true
  labels : i.labels.window = i.session.bind fun session => session.windows.strip

theorem window_ofConfig (config : Config) : (SoftLabels.ofConfig config).window = none := by
  unfold SoftLabels.ofConfig
  split
  · split
    · rename_i hinit
      exact SoftLabels.window_init hinit
    · rfl
  · rfl

/-- The labels are drawn into the strip of the session. -/
theorem Coherent.window {i : Interior Buffers} (h : Coherent i) {session : Session}
    (hs : i.session = some session) : i.labels.window = session.windows.strip := by
  rw [h.labels, hs]
  rfl

omit [Terminal T] in
theorem coherent_new {terminal : T} {engine : Buffers} {config : Config} {s : Screen T Buffers}
    (h : Screen.new terminal engine config = .ok s) : Coherent s.interior := by
  rw [Screen.interior_new h]
  exact ⟨by simp, by simp, window_ofConfig config⟩

omit [Terminal T] in
theorem Coherent.ended {i : Interior Buffers} (h : Coherent i) : Coherent i.ended := by
  rw [Interior.ended]
  split
  · exact h
  · exact ⟨by simp, by simp, window_ofConfig _⟩

/-- There is no session where one is to be created. -/
theorem Coherent.session_cleared {i : Interior Buffers} (h : Coherent i) (hphase : i.phase ≠ .alive) :
    i.cleared.session = none := by
  rw [Interior.cleared]
  split
  · rename_i hsuspended
    obtain ⟨session, hs⟩ := Option.isSome_iff_exists.mp (h.phase.mpr (.inr hsuspended))
    rw [Interior.ended, hs]
  · rename_i hsuspended
    have hnone : ¬ i.session.isSome := fun hs => (h.phase.mp hs).elim hphase hsuspended
    simpa using hnone

theorem Coherent.cleared {i : Interior Buffers} (h : Coherent i) : Coherent i.cleared := by
  rw [Interior.cleared]
  split
  · exact h.ended
  · exact h

/-- Before and after a quiet move there is no session, or one with the same windows. -/
theorem of_map_arrangement {o o' : Option Session}
    (h : o'.map arrangement = o.map arrangement) :
    (o' = none ∧ o = none) ∨ ∃ session' session, o' = some session' ∧ o = some session ∧
      session'.consistent = session.consistent ∧ session'.layout = session.layout ∧
      session'.windows = session.windows := by
  cases o' <;> cases o
  · exact .inl ⟨rfl, rfl⟩
  · cases h
  · cases h
  · simp only [Option.map_some, Option.some.injEq, arrangement, Prod.mk.injEq] at h
    exact .inr ⟨_, _, rfl, rfl, h⟩

theorem windowIds_of_map_arrangement {i i' : Interior Buffers}
    (h : i'.session.map arrangement = i.session.map arrangement) : i'.windowIds = i.windowIds := by
  rcases of_map_arrangement h with ⟨hs', hs⟩ | ⟨_, _, hs', hs, -, -, hwindows⟩
  · rw [windowIds_of_none hs', windowIds_of_none hs]
  · rw [windowIds_of_some hs', windowIds_of_some hs, hwindows]

/-- A session that begins or ends to be alive and is otherwise left alone stays coherent. -/
theorem Coherent.quiet {i i' : Interior Buffers} (hi : Coherent i)
    (hsession : i'.session.map arrangement = i.session.map arrangement)
    (hphase : i'.phase = i.phase ∨ (i.phase = .alive ∧ i'.phase = .suspended) ∨
      (i.phase = .suspended ∧ i'.phase = .alive ∧
        ∃ session, i.session = some session ∧ session.consistent = true))
    (hwindow : i'.labels.window = i.labels.window) : Coherent i' := by
  rcases of_map_arrangement hsession with ⟨hs', hs⟩ |
    ⟨session', session, hs', hs, hconsistent, hlayout, hwindows⟩
  · have hidle : ¬ (i.phase = .alive ∨ i.phase = .suspended) := by
      rw [← hi.phase, hs]
      simp
    have hphase' : i'.phase = i.phase := by
      rcases hphase with h | ⟨h, -⟩ | ⟨h, -⟩
      · exact h
      · exact absurd (.inl h) hidle
      · exact absurd (.inr h) hidle
    refine ⟨?_, fun _ session h => ?_, ?_⟩
    · rw [hs', hphase']
      exact iff_of_false (by simp) hidle
    · cases hs'.symm.trans h
    · rw [hwindow, hi.labels, hs, hs']
  · have hactive : i.phase = .alive ∨ i.phase = .suspended := hi.phase.mp (by rw [hs]; rfl)
    refine ⟨iff_of_true (by rw [hs']; rfl) ?_, fun halive session₁ h => ?_, ?_⟩
    · rcases hphase with h | ⟨-, h⟩ | ⟨-, h, -⟩
      · exact h ▸ hactive
      · exact .inr h
      · exact .inl h
    · cases hs'.symm.trans h
      rw [hconsistent]
      rcases hphase with h | ⟨-, h⟩ | ⟨-, -, _, hs₂, hconsistent₂⟩
      · exact hi.alive (h.symm.trans halive) session hs
      · cases halive.symm.trans h
      · cases hs.symm.trans hs₂
        exact hconsistent₂
    · rw [hwindow, hi.labels, hs, hs', Option.bind_some, Option.bind_some, hwindows]

omit [Terminal T] in
theorem Moved.coherent {r' : Life T Buffers} (h : Moved R r r') (hr : Coherent r.screen.interior) :
    Coherent r'.screen.interior := by
  cases h with
  | quiet hsession hphase hconfig hwindow => exact hr.quiet hsession hphase hwindow
  | @broken session l done labels cause hphase hs hperformed hlabels hr' =>
    have hwindow : labels.window = r.screen.labels.window := by
      rcases hlabels with rfl | rfl
      · rfl
      · exact session.windows.window_relabel l _
    have hended : Phase.suspended ≠ .alive := by decide
    rw [hr']
    refine ⟨by simp, fun h => absurd h hended, hwindow.trans (hr.labels.trans ?_)⟩
    simp only [Screen.interior, hs]
    rfl
  | @resized session l hphase hs hl hperformed hserved hr' =>
    have hconsistent := hr.alive hphase session hs
    rw [hr']
    refine ⟨iff_of_true rfl (.inl hphase), fun _ session' h => ?_, ?_⟩
    · cases h
      exact hconsistent
    · refine (session.windows.window_relabel l _).trans (hr.labels.trans ?_)
      simp only [Screen.interior, hs]
      rfl
  | ended hr' =>
    rw [hr']
    exact hr.ended
  | unbuilt hphase hr' =>
    have hnone := hr.session_cleared hphase
    have hidle : Phase.uncreated ≠ .alive := by decide
    rw [hr']
    exact ⟨by simp [hnone], fun h => absurd h hidle, hr.cleared.labels⟩
  | @created session hphase hl hreserve hwindows hconsistent hserved hinit hr' =>
    have hnone : r.screen.interior.cleared.labels.window = none := by
      rw [hr.cleared.labels, hr.session_cleared hphase]
      rfl
    rw [hr']
    refine ⟨iff_of_true rfl (.inl rfl), fun _ session' h => ?_, ?_⟩
    · cases h
      exact hconsistent
    · change (SoftLabels.placed _ _ _).window = session.windows.strip
      rw [hwindows]
      exact SoftLabels.window_placed hnone

theorem Coherent.move (h : Coherent r.screen.interior) (m : Move T Buffers) :
    Coherent (r.move m).screen.interior :=
  (moved_of_allows (obeys_anything r [m]).1).coherent h

/-- In any life the interior of the screen is coherent. -/
theorem coherent_moves {terminal : T} {engine : Buffers} {config : Config} {s : Screen T Buffers}
    (h : Screen.new terminal engine config = .ok s) (ms : List (Move T Buffers)) :
    Coherent (moves ⟨s, []⟩ ms).screen.interior :=
  (obeys_anything ⟨s, []⟩ ms).preserves (P := fun r => Coherent r.screen.interior)
    (fun _ _ hallows hr => (moved_of_allows hallows).coherent hr) (coherent_new h)

end Life

end TerminalSession
