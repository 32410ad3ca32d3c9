import TerminalSession.Proofs.Engine.Changes

/-!
# The same windows under other ids

Ids are given out in order and never twice, so an engine that has had windows in between gives the
next ones later ids. `Shifted first n b b'` says that this is the only difference: the windows that
`b` has from `first` on are those that `b'` has `n` ids later.
-/

namespace TerminalSession.Buffers

open TerminalSession.Action

variable {b b' : Buffers} {first n : Nat}

structure Shifted (first n : Nat) (b b' : Buffers) : Prop where
  budget : b'.budget = b.budget
  size : b'.slots.size = b.slots.size + n
  before : ∀ id : Nat, id < first → b'.window? id = b.window? id
  between : ∀ id : Nat, first ≤ id → id < first + n → b'.window? id = none
  after : ∀ id : Nat, first ≤ id → b'.window? (id + n) = b.window? id

theorem shifted_bury (b : Buffers) (n : Nat) : b.Shifted b.slots.size n (b.bury n) := by
  refine ⟨rfl, by simp [bury], fun id _ => b.window?_bury n id, fun id hid _ => ?_, fun id hid => ?_⟩
  · rw [window?_bury]
    exact window?_eq_none_of_size_le hid
  · rw [window?_bury, window?_eq_none_of_size_le hid,
      window?_eq_none_of_size_le (Nat.le_add_right_of_le hid)]

/-- New windows get ids that are later by as much. -/
theorem Shifted.addAll (h : b.Shifted first n b') (hfirst : first ≤ b.slots.size)
    (ws : List Window) : (b.addAll ws).Shifted first n (b'.addAll ws) := by
  have hsize := h.size
  refine ⟨h.budget, ?_, fun id hid => ?_, fun id hid hid' => ?_, fun id hid => ?_⟩
  · rw [size_addAll, size_addAll, hsize]
    omega
  · have hold : id < b.slots.size := by omega
    have hold' : id < b'.slots.size := by omega
    rw [window?_addAll, window?_addAll, if_pos hold, if_pos hold']
    exact h.before id hid
  · have hold' : id < b'.slots.size := by omega
    rw [window?_addAll, if_pos hold']
    exact h.between id hid hid'
  · rw [window?_addAll, window?_addAll]
    rcases Nat.lt_or_ge id b.slots.size with hold | hnew
    · have hold' : id + n < b'.slots.size := by omega
      rw [if_pos hold', if_pos hold]
      exact h.after id hid
    · have hnew' : ¬ id + n < b'.slots.size := by omega
      rw [if_neg hnew', if_neg (Nat.not_lt.mpr hnew), hsize, Nat.add_sub_add_right]

theorem Shifted.modifyWindow {id : Nat} (h : b.Shifted first n b') (hid : first ≤ id)
    (f : Window → Window) :
    (b.modifyWindow id f).Shifted first n (b'.modifyWindow (id + n) f) := by
  refine ⟨h.budget, ?_, fun id' hid' => ?_, fun id' hle hlt => ?_, fun id' hle => ?_⟩
  · simpa [Buffers.modifyWindow] using h.size
  · have hne : id' ≠ id := by omega
    have hne' : id' ≠ id + n := by omega
    rw [window?_modifyWindow, window?_modifyWindow, if_neg hne, if_neg hne']
    exact h.before id' hid'
  · have hne' : id' ≠ id + n := by omega
    rw [window?_modifyWindow, if_neg hne']
    exact h.between id' hle hlt
  · rw [window?_modifyWindow, window?_modifyWindow, h.after id' hle]
    by_cases heq : id' = id
    · rw [if_pos heq, if_pos (congrArg (· + n) heq)]
    · rw [if_neg heq, if_neg fun heq' => heq (Nat.add_right_cancel heq')]

/-- An edit that is no resize comes to the same under the other id. -/
theorem Shifted.edit {id : Nat} {e : Edit} (h : b.Shifted first n b') (hid : first ≤ id)
    (he : e.isResize = false) :
    (exec (WindowEngine.edit id e) b).2.Shifted first n
      (exec (WindowEngine.edit (id + n) e) b').2 := by
  have hafter := h.after id hid
  rw [exec_edit, exec_edit]
  cases hw : b.window? id with
  | none =>
    rw [edit_unknown he hw, edit_unknown he (hafter.trans hw)]
    exact h
  | some w =>
    rw [edit_eq he hw, edit_eq he (hafter.trans hw)]
    exact h.modifyWindow hid _

/-! ## Windows given up -/

theorem slots_discard (b : Buffers) (ids : List WindowId) (id : WindowId) :
    (b.discard ids).slots[id]? =
      if id ∈ ids then b.slots[id]?.map fun _ => none else b.slots[id]? := by
  induction ids generalizing b with
  | nil => rfl
  | cons id' ids ih =>
    rw [discard, List.foldl_cons]
    refine (ih _).trans ?_
    simp only [Array.getElem?_setIfInBounds]
    by_cases hid : id' = id
    · subst hid
      by_cases hlt : id' < b.slots.size <;> simp [hlt]
    · simp [hid, Ne.symm hid]

theorem ext_slots (hbudget : b'.budget = b.budget)
    (hslots : ∀ id : Nat, b'.slots[id]? = b.slots[id]?) : b' = b := by
  obtain ⟨slots, budget⟩ := b
  obtain ⟨slots', budget'⟩ := b'
  cases hbudget
  cases Array.ext_getElem? hslots
  rfl

theorem discard_comm (b : Buffers) (ids ids' : List WindowId) :
    (b.discard ids).discard ids' = (b.discard ids').discard ids := by
  refine ext_slots (by simp) fun id => ?_
  simp only [slots_discard]
  split <;> split <;> rfl

theorem discard_bury (b : Buffers) (ids : List WindowId) (n : Nat) :
    (b.bury n).discard ids = (b.discard ids).bury n := by
  refine ext_slots (by simp) fun id => ?_
  rw [slots_discard]
  simp only [bury, Array.getElem?_append, size_discard, slots_discard, Array.getElem?_replicate]
  by_cases hlt : id < b.slots.size
  · simp [hlt]
  · simp only [hlt, if_false]
    split
    · split <;> rfl
    · rfl

end TerminalSession.Buffers
