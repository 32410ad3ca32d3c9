import TerminalSession.Proofs.Engine.Store
import TerminalSession.Proofs.Screen.Answering

/-!
# Sessions that start afresh

A session leaves nothing behind for the next one. Once it has been destroyed and the application
has given up its own windows, a create comes to what it would have come to on a new screen, and only
the ids of the windows are later ones (`Afresh`).
-/

namespace TerminalSession

open TerminalSession.Action

/-- Labels whose window has an id later by as much. -/
def SoftLabels.renumbered (labels : SoftLabels) (n : Nat) : SoftLabels :=
  { labels with window := labels.window.map (· + n) }

theorem SoftLabels.placed_renumbered {labels : SoftLabels} (h : labels.window = none) (cols : Nat)
    (strip : Option WindowId) (n : Nat) :
    labels.placed cols (strip.map (· + n)) = (labels.placed cols strip).renumbered n := by
  cases strip with
  | none =>
    rw [Option.map_none, placed, renumbered, h, Option.map_none, ← h]
  | some id =>
    simp only [placed, Option.map_some, layOut]
    cases labels.format <;> rfl

/-- An engine without windows is one whose windows have all gone again. -/
theorem Buffers.eq_bury {b : Buffers} (h : ∀ id, b.window? id = none) :
    b = ({ budget := b.budget } : Buffers).bury b.slots.size := by
  refine ext_slots rfl fun id => ?_
  simp only [bury, Array.empty_append, Array.getElem?_replicate]
  rcases slot_of_window?_none (h id) with hslot | hslot
  · rw [hslot, if_neg (Nat.not_lt.mpr (Array.getElem?_eq_none_iff.mp hslot))]
  · rw [hslot, if_pos (Array.getElem?_eq_some_iff.mp hslot).1]

namespace Screen

variable {T T' : Type} {R : T → T' → Prop} {n : Nat} {s : Screen T Buffers} {s' : Screen T' Buffers}

/-! ## A create on a new screen and on a used one -/

/-- A new screen, and one that has had so many windows and has none left. -/
structure Renewed (R : T → T' → Prop) (n : Nat) (s : Screen T Buffers) (s' : Screen T' Buffers) :
    Prop where
  terminal : R s.terminal s'.terminal
  phase : s.phase = .uncreated
  phase' : s'.phase = .destroyed
  session : s.session = none
  session' : s'.session = none
  labels : s.labels.window = none
  size : s.engine.slots.size = 0
  buried : s.interior.Buried n s'.interior

/-- What a create comes to on two screens, if it comes to the same but for ids. -/
inductive Afresh (R : T → T' → Prop) (n : Nat) (s : Screen T Buffers) (s' : Screen T' Buffers) :
    Except ScreenError Session × Screen T Buffers → Except ScreenError Session × Screen T' Buffers →
      Prop
  /-- For the same cause neither screen gets a session. -/
  | failed {cause : ScreenError} {t : Screen T Buffers} {t' : Screen T' Buffers}
    (hterminal : R t.terminal t'.terminal)
    (hsession : t.session = none) (hsession' : t'.session = none)
    (hlabels : t.labels = s.labels) (hlabels' : t'.labels = s.labels)
    (hpending : t.pending = s.pending) (hpending' : t'.pending = s.pending)
    (hwindows : ∀ id, t.engine.window? id = none) (hwindows' : ∀ id, t'.engine.window? id = none) :
    Afresh R n s s' (.error cause, t) (.error cause, t')
  /-- Both get the same session, with windows that are made alike and the same calls of the
  initializers. -/
  | begun {session : Session} {t : Screen T Buffers} {t' : Screen T' Buffers}
    (hterminal : R t.terminal t'.terminal)
    (hphase : t.phase = .alive) (hphase' : t'.phase = .alive)
    (hsession : t.session = some session) (hsession' : t'.session = some (session.renumbered n))
    (hlabels : t'.labels = t.labels.renumbered n)
    (hpending : t.pending = []) (hpending' : t'.pending = [])
    (hmade : (s.interior.built session.layout).engine.Shifted 0 n
      (s'.interior.built session.layout).engine)
    (hserved : session.windows.reserved.length = s.pending.length)
    (hengine : t.engine = initialized s.pending session.windows.reserved
      session.layout.terminalCols (s.interior.built session.layout).engine)
    (hengine' : t'.engine = initialized s.pending (session.windows.renumbered n).reserved
      session.layout.terminalCols (s'.interior.built session.layout).engine)
    (hcontents : (∀ registration ∈ s.pending, UniformInit registration.init) →
      t.engine.Shifted 0 n t'.engine) :
    Afresh R n s s' (.ok session, t) (.ok (session.renumbered n), t')

variable [Terminal T] [Terminal T']

/-- Without a session there is nothing to be cleared away first. -/
theorem exec_create_of_idle (h : s.phase = .uncreated ∨ s.phase = .destroyed) (args : List String) :
    exec (create args) s = exec (do
      let (layout, windows) ← openAndBuild args
      begin layout windows) { s with events := s.events.push .creating } := by
  rw [create_eq, prepare]
  simp only [bind_assoc]
  rw [exec_bind_ok (exec_report ..), exec_bind_ok (exec_get _)]
  rcases h with h | h <;> simp only [h]

/-- A session that is begun in windows made just before. -/
theorem afresh_of_built (hR : AnswersAlike R) (h : Renewed R n s s') {l : Layout}
    (hl : ∃ rows cols, s.interior.allocate rows cols = .ok l)
    {t : Screen T Buffers} {t' : Screen T' Buffers} (hmatched : Matched R t t')
    (ht : t.interior = s.interior.built l) (ht' : t'.interior = s'.interior.built l) :
    Afresh R n s s' (exec (begin l (l.numbered s.engine.slots.size)) t)
      (exec (begin l (l.numbered s'.engine.slots.size)) t') := by
  have hsize : s'.engine.slots.size = s.engine.slots.size + n := by
    rw [show s'.engine = s.engine.bury n from h.buried.engine]
    simp [Buffers.bury]
  rw [hsize, Layout.numbered_add]
  obtain ⟨session, v, v', hbegin, hbegin', hterminal⟩ :=
    begin_alike hR hmatched l (l.numbered s.engine.slots.size) n
  obtain ⟨_, hsame, hlayout, hwindows, -, -, -, hv⟩ := of_begin_interior hbegin
  obtain ⟨_, hsame', -, -, -, -, -, hv'⟩ := of_begin_interior hbegin'
  cases hsame
  cases hsame'
  subst hlayout
  rw [ht] at hv
  rw [ht'] at hv'
  rw [hbegin, hbegin']
  have hmade := h.buried.built session.layout
  have hpending : s'.pending = s.pending := h.buried.pending
  have hengine : v.engine = initialized s.pending session.windows.reserved
      session.layout.terminalCols (s.interior.built session.layout).engine :=
    congrArg Interior.engine hv
  have hengine' : v'.engine = initialized s.pending (session.windows.renumbered n).reserved
      session.layout.terminalCols (s'.interior.built session.layout).engine :=
    hpending ▸ congrArg Interior.engine hv'
  have hlabels : v.labels = s.labels.placed session.layout.terminalCols
      (session.layout.numbered s.engine.slots.size).strip := congrArg Interior.labels hv
  have hlabels' : v'.labels = s'.labels.placed session.layout.terminalCols
      (session.layout.numbered s'.engine.slots.size).strip := congrArg Interior.labels hv'
  rw [show s.interior.engine.slots.size = 0 from h.size] at hmade
  refine .begun hterminal (congrArg Interior.phase hv) (congrArg Interior.phase hv')
    (congrArg Interior.session hv) (congrArg Interior.session hv') ?_
    (congrArg Interior.pending hv) (congrArg Interior.pending hv') hmade ?_ hengine hengine'
    fun huniform => ?_
  · have hsame : s'.labels = s.labels := h.buried.labels
    rw [hlabels, hlabels', hsize, Layout.numbered_add, hsame]
    exact SoftLabels.placed_renumbered h.labels _ _ n
  · obtain ⟨rows, cols, hl⟩ := hl
    rw [hwindows]
    exact s.interior.length_reserved_numbered hl _
  · rw [hengine, hengine']
    exact shifted_initialized huniform (fun id _ => Nat.zero_le id) _ hmade

theorem create_renewed (hR : AnswersAlike R) (h : Renewed R n s s') (args : List String) :
    Afresh R n s s' (exec (create args) s) (exec (create args) s') := by
  rw [exec_create_of_idle (.inl h.phase), exec_create_of_idle (.inr h.phase')]
  rcases hopen : exec (openAndBuild args) { s with events := s.events.push .creating }
    with ⟨r, t⟩
  rcases hopen' : exec (openAndBuild args) { s' with events := s'.events.push .creating }
    with ⟨r', t'⟩
  have hstart : Matched R { s with events := s.events.push .creating }
      { s' with events := s'.events.push .creating } := ⟨h.terminal, h.buried.config⟩
  obtain ⟨hmatched, halike⟩ := openAndBuild_alike hR hstart h.buried hopen hopen'
  generalize hi : t.interior = i at halike
  generalize hi' : t'.interior = i' at halike
  cases halike with
  | @failed cause count count' =>
    rw [exec_bind_error hopen, exec_bind_error hopen']
    have hempty (id : WindowId) : s.engine.window? id = none :=
      Buffers.window?_eq_none_of_size_le (h.size ▸ Nat.zero_le id)
    have hengine : t.engine = s.engine.bury count := congrArg Interior.engine hi
    have hengine' : t'.engine = s'.engine.bury count' := congrArg Interior.engine hi'
    have hburied : s'.engine = s.engine.bury n := h.buried.engine
    refine .failed hmatched.1 ((congrArg Interior.session hi).trans h.session)
      ((congrArg Interior.session hi').trans h.session') (congrArg Interior.labels hi)
      ((congrArg Interior.labels hi').trans h.buried.labels) (congrArg Interior.pending hi)
      ((congrArg Interior.pending hi').trans h.buried.pending) (fun id => ?_) fun id => ?_
    · rw [hengine, Buffers.window?_bury, hempty]
    · rw [hengine', Buffers.window?_bury, hburied, Buffers.window?_bury, hempty]
  | built hl =>
    rw [exec_bind_ok hopen, exec_bind_ok hopen']
    exact afresh_of_built hR h hl hmatched hi hi'

end Screen

/-- Whether a screen can be made depends on its configuration only. -/
theorem Screen.new_ok_of_new_ok {T T' E E' : Type} {terminal : T} {engine : E} {config : Config}
    {s : Screen T E} (h : Screen.new terminal engine config = .ok s) (terminal' : T')
    (engine' : E') : ∃ s' : Screen T' E', Screen.new terminal' engine' config = .ok s' ∧
      s'.terminal = terminal' := by
  unfold Screen.new at h ⊢
  split at h
  · rename_i henabled
    rw [if_pos henabled]
    split at h
    · exact ⟨_, rfl, rfl⟩
    · cases h
  · rename_i henabled
    rw [if_neg henabled]
    exact ⟨_, rfl, rfl⟩

/-! ## What a life leaves -/

namespace Life

/-- The application makes windows under ids of its own only. -/
def makesOnly (own : WindowId → Prop) : Rule := fun _ b b' =>
  ∀ id, ¬ own id → (b'.window? id).isSome → (b.window? id).isSome

theorem closed_makesOnly (own : WindowId → Prop) : Closed (makesOnly own) :=
  ⟨fun _ _ _ _ h => h, fun h h' id hown hid => h id hown (h' id hown hid)⟩

/-- An engine after a call, granted or not. -/
def called (c : EngineCall) (b : Buffers) : Buffers := (exec (Buffers.action c) b).2

/-- A call of the engine makes a window only if it asks for one, and under the next id. -/
theorem makesOnly_called {own : WindowId → Prop} {c : EngineCall} (b : Buffers)
    (h : ∀ area, c = .create area → own b.slots.size) (id : WindowId) (hown : ¬ own id)
    (hid : ((called c b).window? id).isSome) : (b.window? id).isSome := by
  rw [called, Buffers.exec_action] at hid
  split at hid
  · exact hid
  cases c with
  | create area =>
    rw [Buffers.after, Buffers.window?_push] at hid
    split at hid
    · rename_i heq
      exact absurd (heq ▸ h area rfl) hown
    · exact hid
  | edit id' e =>
    rw [Buffers.after, Buffers.window?_modifyWindow] at hid
    split at hid
    · rw [Option.isSome_map] at hid
      exact hid
    · exact hid
  | destroy id' =>
    rw [Buffers.after, Buffers.window?_discard] at hid
    split at hid
    · cases hid
    · exact hid
  | geometry id' => exact hid

/-- All windows are the session's or the application's own, and the configuration is the one the
screen was made with. -/
structure Attended (own : WindowId → Prop) (config : Config) (i : Interior Buffers) : Prop where
  live : ∀ id, (i.engine.window? id).isSome → id ∈ i.windowIds ∨ own id
  config : i.config = config

namespace Attended

variable {own : WindowId → Prop} {config : Config} {i i' : Interior Buffers}

theorem congr (h : Attended own config i) (hids : i'.windowIds = i.windowIds)
    (hconfig : i'.config = i.config)
    (hlive : ∀ id, ¬ own id → (i'.engine.window? id).isSome → (i.engine.window? id).isSome) :
    Attended own config i' := by
  refine ⟨fun id hid => ?_, hconfig.trans h.config⟩
  by_cases hown : own id
  · exact .inr hown
  · rw [hids]
    exact h.live id (hlive id hown hid)

theorem kept (h : Attended own config i) (hids : i'.windowIds = i.windowIds)
    (hconfig : i'.config = i.config)
    (hlive : ∀ id, (i'.engine.window? id).isSome = (i.engine.window? id).isSome) :
    Attended own config i' :=
  h.congr hids hconfig fun id _ hid => hlive id ▸ hid

/-- The windows that survive a session are the application's own. -/
theorem ended (h : Attended own config i) : Attended own config i.ended := by
  rw [Interior.ended]
  split
  · exact h
  · rename_i session hs
    refine ⟨fun id hid => .inr ?_, h.config⟩
    rw [Buffers.window?_discard] at hid
    split at hid
    · cases hid
    · rename_i hnot
      rw [← windowIds_of_some hs] at hnot
      exact (h.live id hid).resolve_left hnot

theorem cleared (h : Attended own config i) : Attended own config i.cleared := by
  rw [Interior.cleared]
  split
  · exact h.ended
  · exact h

theorem own_of_none (h : Attended own config i) (hs : i.session = none) {id : WindowId}
    (hid : (i.engine.window? id).isSome) : own id := by
  refine (h.live id hid).resolve_left ?_
  rw [windowIds_of_none hs]
  exact List.not_mem_nil

/-- What is left of a session, once the application has given up its own windows. -/
theorem interior_ended (h : Attended own config i) (hs : i.session ≠ none)
    (hgone : ∀ id, own id → i.ended.engine.window? id = none) :
    i.ended = ⟨({ budget := i.ended.engine.budget } : Buffers).bury i.ended.engine.slots.size,
      config, .ofConfig config, i.pending, none, .destroyed⟩ := by
  obtain ⟨session, hs⟩ := Option.ne_none_iff_exists'.mp hs
  have hended : i.ended = { i with
      engine := i.engine.discard session.windows.all
      labels := .ofConfig i.config
      session := none
      phase := .destroyed } := by rw [Interior.ended, hs]
  have hempty (id : WindowId) : i.ended.engine.window? id = none := by
    by_contra hid
    have hnone : i.ended.session = none := by rw [hended]
    exact hid (hgone id (h.ended.own_of_none hnone (Option.isSome_iff_ne_none.mpr hid)))
  rw [← Buffers.eq_bury hempty, hended, h.config]

/-- New windows are the session's, or the application has made them in an initializer. -/
theorem built {l : Layout} {session : Session} (h : Attended own config i) (hs : i.session = none)
    (hwindows : session.windows = l.numbered i.engine.slots.size)
    (hs' : i'.session = some session) (hconfig : i'.config = i.config)
    (hmade : makesOnly own session.windows.all (i.built l).engine i'.engine) :
    Attended own config i' := by
  refine ⟨fun id hid => ?_, hconfig.trans h.config⟩
  by_cases hown : own id
  · exact .inr hown
  refine .inl ?_
  rw [windowIds_of_some hs', hwindows]
  rcases (i.isSome_window?_built l id).mp (hmade id hown hid) with hold | hnew
  · exact absurd (h.own_of_none hs hold) hown
  · exact hnew

end Attended

variable {T T' : Type} [Terminal T] [Terminal T'] {own : WindowId → Prop} {config : Config}

omit [Terminal T] in
theorem Moved.attended {r r' : Life T Buffers} (h : Moved (makesOnly own) r r')
    (hc : Coherent r.screen.interior) (hr : Attended own config r.screen.interior) :
    Attended own config r'.screen.interior := by
  cases h with
  | quiet hsession hphase hconfig hwindow hformat hserved hengine =>
    have hids : r'.screen.interior.windowIds = r.screen.interior.windowIds :=
      windowIds_of_map_arrangement hsession
    rcases hengine with h | ⟨es, -, h⟩
    · exact hr.congr hids hconfig h
    · refine hr.kept hids hconfig fun id => ?_
      change (r'.screen.engine.window? id).isSome = _
      rw [h, Buffers.isSome_window?_changeAll]
      rfl
  | broken hphase hs hperformed hlabels hr' =>
    have hengine := congrArg Interior.engine hr'
    refine hr.kept ?_ (congrArg Interior.config hr' :) fun id => ?_
    · rw [windowIds_of_some (congrArg Interior.session hr'), windowIds_of_some hs]
    · rw [hengine, Buffers.isSome_window?_changeAll]
      rfl
  | resized hphase hs hl hperformed hserved hr' =>
    have hengine := congrArg Interior.engine hr'
    refine hr.kept ?_ (congrArg Interior.config hr' :) fun id => ?_
    · rw [windowIds_of_some (congrArg Interior.session hr'), windowIds_of_some hs]
    · rw [hengine, Buffers.isSome_window?_changeAll]
      rfl
  | ended hr' =>
    rw [hr']
    exact hr.ended
  | unbuilt hphase hr' =>
    rw [hr']
    refine hr.cleared.congr rfl rfl fun id _ hid => ?_
    rw [Buffers.window?_bury] at hid
    exact hid
  | created hphase hl hreserve hwindows hconsistent hserved hinit hr' =>
    exact hr.cleared.built (hc.session_cleared hphase) hwindows (congrArg Interior.session hr')
      (congrArg Interior.config hr' :) hinit

theorem attended_moves {terminal : T} {engine : Buffers} {s : Screen T Buffers}
    (hnew : Screen.new terminal engine config = .ok s)
    (hengine : ∀ id, (engine.window? id).isSome → own id) {ms : List (Move T Buffers)}
    (hobeys : Obeys (makesOnly own) ⟨s, []⟩ ms) :
    Attended own config (moves ⟨s, []⟩ ms).screen.interior := by
  have hstart : Coherent s.interior ∧ Attended own config s.interior := by
    refine ⟨coherent_new hnew, ?_⟩
    rw [Screen.interior_new hnew]
    exact ⟨fun id hid => .inr (hengine id hid), rfl⟩
  refine (hobeys.preserves
    (P := fun r => Coherent r.screen.interior ∧ Attended own config r.screen.interior)
    (fun r m hallows hr => ?_) hstart).2
  have hmoved := moved_of_allows hallows
  exact ⟨hmoved.coherent hr.1, hmoved.attended hr.1 hr.2⟩

theorem interior_move_destroy (r : Life T Buffers) :
    (r.move (.call .destroy)).screen.interior = r.screen.interior.ended :=
  Screen.interior_destroy r.screen

/-- **No state leaks from one session into the next.** When a session of any life has been destroyed
and the application has no windows of its own left, a create comes to what it comes to on a new
screen with the same configuration, the same lines waiting and the same budget, on a terminal that
answers alike. -/
theorem create_afresh {R : T → T' → Prop} (hR : AnswersAlike R) {terminal : T} {terminal' : T'}
    {engine : Buffers} {s used : Screen T' Buffers} {ms : List (Move T' Buffers)}
    (hnew : Screen.new terminal' engine config = .ok s)
    (hengine : ∀ id, (engine.window? id).isSome → own id)
    (hobeys : Obeys (makesOnly own) ⟨s, []⟩ ms)
    (hsession : (moves ⟨s, []⟩ ms).screen.session ≠ none)
    (hused : (moves ⟨s, []⟩ (ms ++ [.call .destroy])).screen = used)
    (hgone : ∀ id, own id → used.engine.window? id = none) (hterminal : R terminal used.terminal) :
    ∃ fresh : Screen T Buffers,
      Screen.new terminal { budget := used.engine.budget } config = .ok fresh ∧
      ∀ args, Screen.Afresh R used.engine.slots.size { fresh with pending := used.pending } used
        (exec (Screen.create args) { fresh with pending := used.pending })
        (exec (Screen.create args) used) := by
  have hdestroyed : used.interior = (moves ⟨s, []⟩ ms).screen.interior.ended := by
    rw [← hused, moves_concat, interior_move_destroy]
  have hended := (attended_moves hnew hengine hobeys).interior_ended hsession <| by
    rw [← hdestroyed]
    exact hgone
  rw [← hdestroyed] at hended
  obtain ⟨fresh, hfresh, hat⟩ :=
    Screen.new_ok_of_new_ok hnew terminal ({ budget := used.engine.budget } : Buffers)
  have hinterior := Screen.interior_new hfresh
  have hlabels : fresh.labels = .ofConfig config := congrArg Interior.labels hinterior
  have hempty : fresh.engine = { budget := used.engine.budget } :=
    congrArg Interior.engine hinterior
  have hbury : used.engine = fresh.engine.bury used.engine.slots.size := by
    rw [hempty]
    exact congrArg Interior.engine hended
  have hrenewed : Screen.Renewed R used.engine.slots.size
      { fresh with pending := used.pending } used := {
    terminal := by rw [hat]; exact hterminal
    phase := congrArg Interior.phase hinterior
    phase' := congrArg Interior.phase hended
    session := congrArg Interior.session hinterior
    session' := congrArg Interior.session hended
    labels := by rw [hlabels]; exact window_ofConfig config
    size := by rw [hempty]; rfl
    buried := {
      config := (congrArg Interior.config hended).trans (congrArg Interior.config hinterior).symm
      labels := (congrArg Interior.labels hended).trans hlabels.symm
      pending := rfl
      engine := hbury } }
  exact ⟨fresh, hfresh, Screen.create_renewed hR hrenewed⟩

end Life

/-! ## Headless terminals -/

namespace Headless

/-- Terminals that have the same size and the same cursor and fail alike, whatever calls they have
had. -/
def Agree (t t' : Headless) : Prop := t'.settings = t.settings ∧ t'.cursor = t.cursor

/-- Past calls do not show in what a headless terminal answers. -/
theorem answersAlike_agree : AnswersAlike Agree where
  acquire := acquire_coupled (fun _ _ h => h.1) fun h _ _ _ _ _ _ => h
  release := by
    refine .bind (guardCall_coupled (fun _ _ h => congrArg (·.2.2.2) h.1) _) fun _ => ?_
    exact .bind (.modify fun _ _ h => h) fun _ => .modify fun _ _ h => h
  setCursorShape shape := by
    refine .bind (guardCall_coupled (fun _ _ h => congrArg (·.2.2.2) h.1) _) fun _ => ?_
    exact .bind (.modify fun _ _ h => h) fun _ => .modify fun _ _ h => ⟨h.1, rfl⟩
  rows t t' h := ⟨congrArg (·.1) h.1, h⟩
  columns t t' h := ⟨congrArg (·.2.1) h.1, h⟩
  saveShellMode _ _ h := h
  forgetEvents _ _ h := h
  cursorShape _ _ h := h.2
  systemName _ _ _ := rfl

end Headless

namespace Life

/-- The labels of function keys are on, and the cursor is changed. -/
def keyed : Config where
  cursor := some .steadyBar
  labels := { enabled := true }

/-- A screen with those labels. -/
def keyedScreen : Screen Headless Buffers where
  terminal := { rows := 6, cols := 12 }
  engine := { budget := some 300 }
  config := keyed
  labels := .ofConfig keyed

/-- A line with a title in it. -/
def titling (engine : Buffers) (window : WindowId) (_ : Nat) : Buffers :=
  called (.edit window (.putText 0 0 "title")) engine

/-- The session gets a line, and labels of another format. -/
def beginnings : List (Move Headless Buffers) :=
  [.call (.initLabels 3), .call (.reserveLine .top titling), .call (.create [])]

/-- The session is changed in many ways, outgrows its windows, and another line is asked for. The
application has a window of its own for a while. -/
def endings : List (Move Headless Buffers) :=
  [.engine (called (.create ⟨1, 1, 2, 2⟩)), .modes { echo := false },
    .call (.setLabel 1 "help" .right), .call .suspend, .call .resume,
    .terminal ({ · with rows := 5 }), .call (.resize 0 0),
    .terminal ({ · with rows := 16 }), .call (.resize 0 0),
    .terminal ({ · with rows := 6 }),
    .engine (called (.destroy 5)), .call (.reserveLine .bottom titling)]

/-- The screen that session leaves. -/
def usedScreen : Screen Headless Buffers :=
  (moves ⟨keyedScreen, []⟩ ((beginnings ++ endings) ++ [.call .destroy])).screen

theorem obeys_keyed : Obeys (makesOnly (· = 5)) ⟨keyedScreen, []⟩ (beginnings ++ endings) := by
  have hconfines : ConfinesInit (makesOnly (· = 5)) titling := fun _ b _ _ =>
    makesOnly_called b fun _ h => nomatch h
  have hpending : (moves ⟨keyedScreen, []⟩ beginnings).screen.pending.isEmpty = true := by
    decide +kernel
  have hpending := List.isEmpty_iff.mp hpending
  have hsize : (moves ⟨keyedScreen, []⟩ beginnings).screen.engine.slots.size = 5 := by
    decide +kernel
  rw [obeys_append]
  refine ⟨obeys_of_confines (closed_makesOnly _) (List.forall_mem_nil _) ?_, ?_⟩
  · simp [beginnings, Confines, hconfines]
  generalize moves ⟨keyedScreen, []⟩ beginnings = r at hpending hsize ⊢
  have hwaiting : ∀ registration ∈ r.screen.pending,
      ConfinesInit (makesOnly (· = 5)) registration.init := by simp [hpending]
  refine ⟨makesOnly_called _ fun _ _ => hsize, obeys_of_confines (closed_makesOnly _) hwaiting ?_⟩
  suffices hdestroys : ∀ ids b, makesOnly (· = 5) ids b (called (.destroy 5) b) by
    simpa [Confines, hconfines] using hdestroys
  exact fun _ b => makesOnly_called b fun _ h => nomatch h

theorem create_afresh_used :
    Screen.new { rows := 6, cols := 12 } { budget := some 300 } keyed = .ok keyedScreen ∧
      (∀ id, (({ budget := some 300 } : Buffers).window? id).isSome → id = 5) ∧
      Obeys (makesOnly (· = 5)) ⟨keyedScreen, []⟩ (beginnings ++ endings) ∧
      (moves ⟨keyedScreen, []⟩ (beginnings ++ endings)).screen.session ≠ none ∧
      (∀ id, id = 5 → usedScreen.engine.window? id = none) ∧
      Headless.Agree { rows := 6, cols := 12 } usedScreen.terminal ∧
      (exec (Screen.create []) usedScreen).1.toOption.map (·.windows.all) = some [8, 9, 10, 6, 7] ∧
      ∃ fresh : Screen Headless Buffers,
        Screen.new { rows := 6, cols := 12 } { budget := usedScreen.engine.budget } keyed =
          .ok fresh ∧
        Screen.Afresh Headless.Agree usedScreen.engine.slots.size
          { fresh with pending := usedScreen.pending } usedScreen
          (exec (Screen.create []) { fresh with pending := usedScreen.pending })
          (exec (Screen.create []) usedScreen) := by
  have hnew : Screen.new { rows := 6, cols := 12 } { budget := some 300 } keyed =
      .ok keyedScreen := rfl
  have hempty : ∀ id, (({ budget := some 300 } : Buffers).window? id).isSome → id = 5 :=
    fun _ h => nomatch h
  have hsession :
      (moves ⟨keyedScreen, []⟩ (beginnings ++ endings)).screen.session.isSome = true := by
    decide +kernel
  have hsession := Option.isSome_iff_ne_none.mp hsession
  have hgone : usedScreen.engine.window? 5 = none := by decide +kernel
  have hgone : ∀ id, id = 5 → usedScreen.engine.window? id = none := fun _ h => h ▸ hgone
  have hsettings : usedScreen.terminal.settings = (6, 12, false, []) := by decide +kernel
  have hcursor : usedScreen.terminal.cursor = .default := by decide +kernel
  have hterminal : Headless.Agree { rows := 6, cols := 12 } usedScreen.terminal :=
    ⟨hsettings, hcursor⟩
  have hused : (moves ⟨keyedScreen, []⟩ ((beginnings ++ endings) ++ [.call .destroy])).screen =
      usedScreen := rfl
  have hcreated : (exec (Screen.create []) usedScreen).1.toOption.map (·.windows.all) =
      some [8, 9, 10, 6, 7] := by decide +kernel
  obtain ⟨fresh, hfresh, hafresh⟩ := create_afresh Headless.answersAlike_agree hnew hempty
    obeys_keyed hsession hused hgone hterminal
  exact ⟨hnew, hempty, obeys_keyed, hsession, hgone, hterminal, hcreated, fresh,
    hfresh, hafresh []⟩

end Life

end TerminalSession
