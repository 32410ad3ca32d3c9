import TerminalSession.Proofs.Screen.Life

/-!
# Who owns the windows

As long as the application makes and gives up no windows itself, the windows of an engine are those
of the session: none is left behind by a call that fails half way or by a session that ends, and
none stands for two things at once.
-/

namespace TerminalSession.Life

open TerminalSession.Action

/-- The application makes no windows and gives none up. -/
def keepsLive : Rule := fun _ b b' => ∀ id, (b'.window? id).isSome = (b.window? id).isSome

/-- The windows of the session are all there is. -/
structure Owned (i : Interior Buffers) : Prop where
  nodup : i.windowIds.Nodup
  live : ∀ id, (i.engine.window? id).isSome ↔ id ∈ i.windowIds

namespace Owned

variable {i i' : Interior Buffers}

theorem congr (h : Owned i) (hids : i'.windowIds = i.windowIds)
    (hlive : ∀ id, (i'.engine.window? id).isSome = (i.engine.window? id).isSome) : Owned i' := by
  refine ⟨hids ▸ h.nodup, fun id => ?_⟩
  rw [hlive, hids]
  exact h.live id

theorem window?_eq_none (h : Owned i) (hs : i.session = none) (id : WindowId) :
    i.engine.window? id = none := by
  have hnot : ¬ (i.engine.window? id).isSome := by simp [h.live, windowIds_of_none hs]
  simpa using hnot

theorem of_none (hs : i.session = none) (h : ∀ id, i.engine.window? id = none) : Owned i := by
  refine ⟨?_, fun id => ?_⟩
  · rw [windowIds_of_none hs]
    exact .nil
  · simp [h, windowIds_of_none hs]

/-- Destroying gives up exactly the windows there are. -/
theorem ended (h : Owned i) : Owned i.ended := by
  rw [Interior.ended]
  split
  · exact h
  · rename_i session hs
    refine of_none rfl fun id => ?_
    rw [Buffers.window?_discard]
    split
    · rfl
    · rename_i hid
      have hnot : ¬ (i.engine.window? id).isSome := by
        rw [h.live, windowIds_of_some hs]
        exact hid
      simpa using hnot

theorem cleared (h : Owned i) : Owned i.cleared := by
  rw [Interior.cleared]
  split
  · exact h.ended
  · exact h

/-- The windows made for a session are its windows, if there were none before. -/
theorem built {l : Layout} {session : Session} (h : Owned i) (hs : i.session = none)
    (hwindows : session.windows = l.numbered i.engine.slots.size)
    (hs' : i'.session = some session)
    (hlive : ∀ id, (i'.engine.window? id).isSome = ((i.built l).engine.window? id).isSome) :
    Owned i' := by
  have hids := windowIds_of_some hs'
  rw [hwindows] at hids
  refine ⟨hids ▸ l.nodup_all_numbered _, fun id => ?_⟩
  rw [hlive, hids, i.isSome_window?_built, h.window?_eq_none hs]
  simp

end Owned

variable {T : Type} [Terminal T] {r r' : Life T Buffers}

omit [Terminal T] in
theorem Moved.owned (h : Moved keepsLive r r') (hc : Coherent r.screen.interior)
    (hr : Owned r.screen.interior) : Owned r'.screen.interior := by
  cases h with
  | quiet hsession hphase hconfig hwindow hformat hserved hengine =>
    refine hr.congr (windowIds_of_map_arrangement hsession) fun id => ?_
    rcases hengine with h | ⟨es, -, h⟩
    · exact h id
    · change (r'.screen.engine.window? id).isSome = _
      rw [h, Buffers.isSome_window?_changeAll]
      rfl
  | broken hphase hs hperformed hlabels hr' =>
    have hengine := congrArg Interior.engine hr'
    refine hr.congr ?_ fun id => ?_
    · rw [windowIds_of_some (congrArg Interior.session hr'), windowIds_of_some hs]
    · rw [hengine, Buffers.isSome_window?_changeAll]
      rfl
  | resized hphase hs hl hperformed hserved hr' =>
    have hengine := congrArg Interior.engine hr'
    refine hr.congr ?_ fun id => ?_
    · rw [windowIds_of_some (congrArg Interior.session hr'), windowIds_of_some hs]
    · rw [hengine, Buffers.isSome_window?_changeAll]
      rfl
  | ended hr' =>
    rw [hr']
    exact hr.ended
  | unbuilt hphase hr' =>
    have hnone := hc.session_cleared hphase
    rw [hr']
    refine .of_none hnone fun id => ?_
    rw [Buffers.window?_bury]
    exact hr.cleared.window?_eq_none hnone id
  | created hphase hl hreserve hwindows hconsistent hserved hinit hr' =>
    exact hr.cleared.built (hc.session_cleared hphase) hwindows (congrArg Interior.session hr') hinit

theorem owned_moves {terminal : T} {engine : Buffers} {config : Config} {s : Screen T Buffers}
    (h : Screen.new terminal engine config = .ok s) (hempty : ∀ id, engine.window? id = none)
    {ms : List (Move T Buffers)} (hobeys : Obeys keepsLive ⟨s, []⟩ ms) :
    Owned (moves ⟨s, []⟩ ms).screen.interior := by
  have hnew : Coherent s.interior ∧ Owned s.interior := by
    refine ⟨coherent_new h, ?_⟩
    rw [Screen.interior_new h]
    exact .of_none rfl hempty
  refine (hobeys.preserves (P := fun r => Coherent r.screen.interior ∧ Owned r.screen.interior)
    (fun r m hallows hr => ?_) hnew).2
  have hmoved := moved_of_allows hallows
  exact ⟨hmoved.coherent hr.1, hmoved.owned hr.1 hr.2⟩

/-- **No window leaks and none is shared.** While there is a session, alive or suspended or broken
by a resize, its windows are distinct and are all windows of the engine, as many as the session
counts; without a session the engine has no window. -/
theorem windows_owned {terminal : T} {engine : Buffers} {config : Config} {s : Screen T Buffers}
    (h : Screen.new terminal engine config = .ok s) (hempty : ∀ id, engine.window? id = none)
    {ms : List (Move T Buffers)} (hobeys : Obeys keepsLive ⟨s, []⟩ ms) :
    (∀ session, (moves ⟨s, []⟩ ms).screen.session = some session →
      session.windows.all.Nodup ∧
        (∀ id, id ∈ session.windows.all ↔
          ((moves ⟨s, []⟩ ms).screen.engine.window? id).isSome) ∧
        session.windows.count = (moves ⟨s, []⟩ ms).screen.engine.live.length) ∧
    ((moves ⟨s, []⟩ ms).screen.session = none →
      ∀ id, (moves ⟨s, []⟩ ms).screen.engine.window? id = none) := by
  have howned := owned_moves h hempty hobeys
  refine ⟨fun session hs => ?_, howned.window?_eq_none⟩
  have hids := windowIds_of_some (i := (moves ⟨s, []⟩ ms).screen.interior) hs
  rw [← WindowSet.length_all, ← hids]
  exact ⟨howned.nodup, fun id => (howned.live id).symm,
    (Buffers.length_live howned.nodup howned.live).symm⟩

theorem closed_keepsLive : Closed keepsLive :=
  ⟨fun _ _ _ => rfl, fun h h' id => (h' id).trans (h id)⟩

/-- A screen with room for the windows of one session on a terminal of four rows. -/
def crowded : Screen Headless Buffers where
  terminal := { rows := 4, cols := 6 }
  engine := { budget := some 72 }

theorem new_crowded :
    Screen.new { rows := 4, cols := 6 } { budget := some 72 } {} = .ok crowded := rfl

/-- A session that takes the place of a suspended one, after one that did not fit. -/
def crowding : List (Move Headless Buffers) :=
  [.call (.reserveLine .top fun engine _ _ => engine),
    .terminal ({ · with rows := 5 }), .call (.create []),
    .terminal ({ · with rows := 4 }), .call (.create []), .call .suspend, .call (.create [])]

theorem owned_crowded :
    Screen.new { rows := 4, cols := 6 } { budget := some 72 } {} = .ok crowded ∧
      (∀ id, ({ budget := some 72 } : Buffers).window? id = none) ∧
      Obeys keepsLive ⟨crowded, []⟩ crowding ∧
      (moves ⟨crowded, []⟩ crowding).screen.session.map (·.windows.all) = some [9, 7, 8] ∧
      ∀ id, id ∈ [9, 7, 8] ↔
        ((moves ⟨crowded, []⟩ crowding).screen.engine.window? id).isSome := by
  have hobeys : Obeys keepsLive ⟨crowded, []⟩ crowding := by
    refine obeys_of_confines closed_keepsLive (List.forall_mem_nil _) ?_
    simp [crowding, Confines, ConfinesInit, keepsLive]
  have hall : (moves ⟨crowded, []⟩ crowding).screen.session.map (·.windows.all) =
      some [9, 7, 8] := by
    decide +kernel
  obtain ⟨session, hs, hids⟩ := Option.map_eq_some_iff.mp hall
  have howned := windows_owned new_crowded (fun _ => rfl) hobeys
  exact ⟨new_crowded, fun _ => rfl, hobeys, hall, hids ▸ (howned.1 session hs).2.1⟩

end TerminalSession.Life
