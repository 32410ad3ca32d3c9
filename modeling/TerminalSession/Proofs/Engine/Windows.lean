import TerminalSession.Engine.Buffers

/-!
# The windows after a call

An engine in memory is known by the windows it has under its ids. Each call that succeeds adds,
changes or removes the window under one id and leaves those under all other ids as they are.
-/

namespace TerminalSession.Buffers

variable {b b' : Buffers} {id : WindowId}

@[simp] theorem window?_empty (budget : Option Nat) (id : WindowId) :
    ({ budget } : Buffers).window? id = none := rfl

theorem window?_modifyWindow (b : Buffers) (id : WindowId) (f : Window → Window) (id' : WindowId) :
    (b.modifyWindow id f).window? id' =
      if id' = id then (b.window? id').map f else b.window? id' := by
  simp only [window?, modifyWindow, Array.getElem?_modify]
  by_cases h : id' = id
  · subst h
    simp only [if_true]
    rcases b.slots[id']? with _ | _ | _ <;> rfl
  · rw [if_neg (Ne.symm h), if_neg h]

/-! ## The windows there are -/

theorem mem_live {w : Window} : (id, w) ∈ b.live ↔ b.window? id = some w := by
  simp only [live, List.mem_filterMap, Prod.exists, List.mem_zipIdx_iff_getElem?,
    Array.getElem?_toList, Option.map_eq_some_iff, Prod.mk.injEq, window?, Option.join_eq_some_iff]
  constructor
  · rintro ⟨_, _, hslot, _, rfl, rfl, rfl⟩
    exact hslot
  · exact fun hslot => ⟨some w, id, hslot, w, rfl, rfl, rfl⟩

theorem nodup_live (b : Buffers) : (b.live.map Prod.fst).Nodup := by
  have hids : (b.slots.toList.zipIdx.map Prod.snd).Nodup := by
    rw [List.zipIdx_map_snd]
    exact List.nodup_range'
  rw [live, List.map_filterMap, List.Nodup, List.pairwise_filterMap]
  refine (List.pairwise_map.mp hids).imp ?_
  intro p q hne id hid id' hid'
  simp only [Option.map_map, Option.map_eq_some_iff, Function.comp_apply] at hid hid'
  obtain ⟨-, -, rfl⟩ := hid
  obtain ⟨-, -, rfl⟩ := hid'
  exact hne

/-- Ids of all windows there are, none of them twice, are as many as there are windows. -/
theorem length_live {ids : List WindowId} (hnodup : ids.Nodup)
    (hlive : ∀ id, (b.window? id).isSome ↔ id ∈ ids) : b.live.length = ids.length := by
  have hperm : ids.Perm (b.live.map Prod.fst) := by
    refine (List.perm_ext_iff_of_nodup hnodup b.nodup_live).mpr fun id => ?_
    simp only [← hlive, Option.isSome_iff_exists, List.mem_map, Prod.exists, mem_live,
      exists_and_right, exists_eq_right]
  rw [hperm.length_eq, List.length_map]

/-! ## Calls -/

/-- A new window has an id that no window has had before. -/
theorem of_create_ok {area : Rect} (h : b.create area = .ok (id, b')) :
    b.window? id = none ∧
      ∀ id', b'.window? id' = if id' = id then some (.blank area) else b.window? id' := by
  simp only [create, bind, Except.bind, pure, Except.pure] at h
  split at h
  · cases h
  split at h
  · cases h
  cases h
  refine ⟨by simp [window?], fun id' => ?_⟩
  simp only [window?, Array.getElem?_push]
  split <;> rfl

theorem ok_of_bind {ε α β : Type} {x : Except ε α} {f : α → Except ε β} {r : β}
    (h : x >>= f = .ok r) : ∃ a, x = .ok a ∧ f a = .ok r := by
  cases x with
  | error e => cases h
  | ok a => exact ⟨a, rfl, h⟩

theorem of_edit_ok {e : Edit} (h : b.edit id e = .ok ((), b')) :
    ∃ w, b.window? id = some w ∧ b' = b.modifyWindow id (·.edit e) := by
  unfold edit at h
  cases e with
  | resize rows cols =>
    obtain ⟨_, _, h⟩ := ok_of_bind (x := checkSize rows cols) h
    cases hw : b.window? id with
    | none =>
      simp only [hw] at h
      cases h
    | some w =>
      simp only [hw] at h
      obtain ⟨_, _, h⟩ := ok_of_bind (x := b.reserve (rows * cols) w.cellCount) h
      cases h
      exact ⟨w, rfl, rfl⟩
  | _ =>
    cases hw : b.window? id with
    | none =>
      simp only [hw] at h
      cases h
    | some w =>
      simp only [hw] at h
      cases h
      exact ⟨w, rfl, rfl⟩

theorem of_destroy_ok (h : b.destroy id = .ok ((), b')) :
    ∃ w, b.window? id = some w ∧
      ∀ id', b'.window? id' = if id' = id then none else b.window? id' := by
  unfold destroy at h
  cases hw : b.window? id with
  | none =>
    simp only [hw] at h
    cases h
  | some w =>
    simp only [hw] at h
    cases h
    refine ⟨w, rfl, fun id' => ?_⟩
    simp only [window?, Array.getElem?_setIfInBounds]
    by_cases hid : id' = id
    · subst hid
      rw [if_pos rfl, if_pos rfl]
      split <;> rfl
    · rw [if_neg (Ne.symm hid), if_neg hid]

end TerminalSession.Buffers
