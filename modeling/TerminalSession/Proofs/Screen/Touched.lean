import TerminalSession.Proofs.Screen.Conduct

/-!
# What a move does to the windows of a session

While a session lasts, its windows are touched in few ways: the application acts, the labels are
drawn, the physical window asks for a wipe when the terminal is taken back, and all windows are
rearranged when the terminal has another size (`touched_move`). The last two are meant to have
everything drawn again (`Refreshes`).
-/

namespace TerminalSession.Life

open TerminalSession.Action

variable {T : Type} [Terminal T] {P : Conduct} {r : Life T Buffers} {m : Move T Buffers}
  {session session' : Session}

/-- Whether a move begins a session. -/
def Begins (r : Life T Buffers) : Move T Buffers → Prop
  | .call (.create args) => (exec (Call.create args).action r.screen).1 = .ok ()
  | _ => False

/-- Whether a move gives a session the terminal back, or another size. -/
def Refreshes (r : Life T Buffers) : Move T Buffers → Prop
  | .call (.resize rows cols) =>
    (exec (Call.resize rows cols : Call Buffers).action r.screen).1 = .ok ()
  | .call .resume =>
    r.screen.phase = .suspended ∧ (exec (Call.resume : Call Buffers).action r.screen).1 = .ok ()
  | _ => False

/-- What a move can do to the windows of a session that lasts, and what engine that leaves. -/
inductive Touched (P : Conduct) (r : Life T Buffers) (m : Move T Buffers) (windows : WindowSet)
    (consistent : Bool) : Buffers → Prop
  | acted {b : Buffers} (hm : ¬ Refreshes r m) (h : P windows r.screen.engine b) :
    Touched P r m windows consistent b
  | drawn {es : List (WindowId × Edit)} (hm : ¬ Refreshes r m)
    (h : ∀ p ∈ es, windows.strip = some p.1 ∧ p.2.isWriting = true) :
    Touched P r m windows consistent (r.screen.engine.changeAll es)
  | resumed (hm : Refreshes r m) : Touched P r m windows consistent
      (r.screen.engine.changeAll [(windows.physical, .setClear true)])
  | rearranged {l : Layout} (hm : Refreshes r m) : Touched P r m windows consistent
      (r.screen.engine.changeAll (windows.rearrangement l r.screen.labels))
  | broken {l : Layout} {done : List (WindowId × Edit)} (hm : ¬ Refreshes r m)
    (hconsistent : consistent = false)
    (h : done <+: windows.rearrangement l r.screen.labels) :
    Touched P r m windows consistent (r.screen.engine.changeAll done)

/-- A session lasts through a move that touches its windows. -/
structure Lasts (P : Conduct) (r : Life T Buffers) (m : Move T Buffers) (session' : Session)
    (b : Buffers) (session : Session) : Prop where
  before : r.screen.session = some session
  windows : session'.windows = session.windows
  consistent : session'.consistent = true → session.consistent = true
  touched : Touched P r m session.windows session'.consistent b

/-- At most the strip is drawn into. -/
theorem lasts_of_drawn {es : List (WindowId × Edit)} (hm : ¬ Refreshes r m)
    (hes : ∀ session, r.screen.session = some session →
      ∀ p ∈ es, session.windows.strip = some p.1 ∧ p.2.isWriting = true)
    {o : Option Session} (ho : o.map arrangement = r.screen.session.map arrangement)
    (hs : o = some session') :
    ∃ session, Lasts P r m session' (r.screen.engine.changeAll es) session := by
  rcases of_map_arrangement ho with ⟨hnone, -⟩ | ⟨s', s, hs', hs₀, hconsistent, -, hwindows⟩
  · cases hnone.symm.trans hs
  · cases hs'.symm.trans hs
    exact ⟨s, hs₀, hwindows, fun h => hconsistent ▸ h, .drawn hm (hes s hs₀)⟩

/-- Nothing is done to the windows. -/
theorem lasts_of_arrangement (hm : ¬ Refreshes r m) {o : Option Session}
    (ho : o.map arrangement = r.screen.session.map arrangement) (hs : o = some session') :
    ∃ session, Lasts P r m session' r.screen.engine session :=
  lasts_of_drawn hm (fun _ _ => List.forall_mem_nil _) ho hs

/-- What can become of the windows of a session in a call that begins none. -/
theorem lasts_call {c : Call Buffers} (hc : Coherent r.screen.interior)
    (hnew : ¬ Begins r (.call c)) (hs' : (r.move (.call c)).screen.session = some session') :
    ∃ session, Lasts P r (.call c) session' (r.move (.call c)).screen.engine session := by
  rcases hcall : exec c.action r.screen with ⟨result, s'⟩
  have hturned := c.turned hcall
  rw [move_call hcall] at hs' ⊢
  generalize hi : s'.interior = i at hturned
  have hengine : s'.engine = i.engine := congrArg Interior.engine hi
  have hsession : i.session = some session' := (congrArg Interior.session hi).symm.trans hs'
  rw [hengine]
  -- A call refreshes only if it succeeds.
  have hfails {cause : ScreenError} (hresult : result = .error cause) : ¬ Refreshes r (.call c) := by
    subst hresult
    cases c <;> simp [Refreshes, hcall]
  cases hturned with
  | lineRefused | labelsRefused | labelRefused | suspendRefused | resumeRefused | resizeRefused
  | createRefused | labelNotDrawn => exact lasts_of_arrangement (hfails rfl) rfl hsession
  | lineReserved | labelsChosen | labelKept => exact lasts_of_arrangement id rfl hsession
  | resumeNeedless hphase =>
    refine lasts_of_arrangement (fun hm => ?_) rfl hsession
    cases hphase.symm.trans hm.1
  | resizeReported | suspended =>
    refine lasts_of_arrangement id ?_ hsession
    rw [Option.map_map]
    rfl
  | notLaidOut hphase hs =>
    refine lasts_of_arrangement (hfails rfl) ?_ hsession
    exact (congrArg (Option.map arrangement) hs).symm
  | @labelDrawn index text justify labels _ hset =>
    refine lasts_of_drawn id (fun session hs p hp => ?_) rfl hsession
    obtain ⟨id, hid, hall⟩ := SoftLabels.of_redrawn_ne_nil (List.ne_nil_of_mem hp)
    refine ⟨?_, SoftLabels.isWriting_of_mem_redrawn hp⟩
    rw [hall p hp, ← hid, (SoftLabels.of_setLabel hset).1]
    exact (hc.window hs).symm
  | @resumed session hphase hs =>
    cases hsession
    have hrefreshes : Refreshes r (.call .resume) := by
      rw [Refreshes, hcall]
      exact ⟨hphase, rfl⟩
    exact ⟨session, hs, rfl, id, .resumed hrefreshes⟩
  | @broken rows cols cause session l done labels hphase hs hgranted hl hdone =>
    cases hsession
    exact ⟨session, hs, rfl, by simp, .broken (hfails rfl) rfl hdone⟩
  | @resized rows cols session l hphase hs =>
    cases hsession
    have hrefreshes : Refreshes r (.call (.resize rows cols)) := by
      rw [Refreshes, hcall]
    refine ⟨session, hs, rfl, id, ?_⟩
    dsimp only
    exact .rearranged hrefreshes
  | destroyed =>
    have hnone : r.screen.interior.ended.session = none := by
      rw [Interior.ended]
      split
      · assumption
      · rfl
    cases hnone.symm.trans hsession
  | notOpened hphase => cases (hc.session_cleared hphase).symm.trans hsession
  | notBuilt hphase => cases (hc.session_cleared hphase).symm.trans hsession
  | created =>
    refine absurd ?_ hnew
    rw [Begins, hcall]

/-- While a session lasts, its windows are touched in one of these ways. -/
theorem lasts_move (hc : Coherent r.screen.interior) (hpermits : Permits P r m)
    (hnew : ¬ Begins r m) (hs' : (r.move m).screen.session = some session') :
    ∃ session, Lasts P r m session' (r.move m).screen.engine session := by
  cases m with
  | call c => exact lasts_call hc hnew hs'
  | terminal f => exact lasts_of_arrangement id rfl hs'
  | engine f => exact ⟨session', hs', rfl, id, .acted id (hpermits session' hs')⟩
  | modes modes =>
    refine lasts_of_arrangement id ?_ hs'
    change (r.screen.session.map _).map _ = _
    rw [Option.map_map]
    rfl

/-- What holds of the windows of a consistent session, if there is one. -/
def Holds (I : WindowSet → Buffers → Prop) (r : Life T Buffers) : Prop :=
  ∀ session, r.screen.session = some session → session.consistent = true →
    I session.windows r.screen.engine

/-- What is kept however the windows are touched holds as long as the session lasts. -/
theorem Throughout.holds {I : WindowSet → Buffers → Prop}
    {Q : Life T Buffers → Move T Buffers → Prop} {ms : List (Move T Buffers)}
    (h : Throughout Q r ms) (hlasts : ∀ r m, Q r m → Permits P r m ∧ ¬ Begins r m)
    (htouched : ∀ r m windows b, Q r m → Touched P r m windows true b →
      I windows r.screen.engine → I windows b)
    (hc : Coherent r.screen.interior) (hr : Holds I r) : Holds I (r.moves ms) := by
  refine (h.preserves (I := fun r => Coherent r.screen.interior ∧ Holds I r)
    (fun r m hm hr => ⟨hr.1.move m, fun session' hs' hconsistent => ?_⟩) ⟨hc, hr⟩).2
  obtain ⟨hpermits, hnew⟩ := hlasts r m hm
  obtain ⟨session, hs, hwindows, hbefore, htouch⟩ := lasts_move hr.1 hpermits hnew hs'
  rw [hconsistent] at htouch
  rw [hwindows]
  exact htouched r m _ _ hm htouch (hr.2 session hs (hbefore hconsistent))

/-- A new session has the windows that were made for it, as the initializers have left them. -/
theorem of_begins (h : Begins r m) (hpermits : Permits P r m) :
    ∃ session, (r.move m).screen.session = some session ∧
      session.windows = session.layout.numbered r.screen.interior.cleared.engine.slots.size ∧
      P session.windows (r.screen.interior.cleared.built session.layout).engine
        (r.move m).screen.engine := by
  cases m with
  | call c =>
    cases c with
    | create args =>
      rcases hcall : exec (Call.create args : Call Buffers).action r.screen with ⟨result, s'⟩
      rw [Begins, hcall] at h
      obtain rfl : result = .ok () := h
      have hturned := (Call.create args).turned hcall
      rw [move_call hcall]
      generalize hi : s'.interior = i at hturned
      cases hturned with
      | @created _ session hphase hprospect hwindows =>
        have hs' : s'.session = some session := congrArg Interior.session hi
        exact ⟨session, hs', hwindows, hpermits s' session hcall hs'⟩
    | _ => cases h
  | _ => cases h

end TerminalSession.Life
