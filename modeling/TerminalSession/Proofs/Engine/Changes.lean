import TerminalSession.Proofs.Action.Keeps
import TerminalSession.Proofs.Engine.Room

/-!
# Engines after many calls

What is left of an engine by a series of calls: by new windows (`addAll`), by windows that have come
and gone (`bury`), by changes to windows (`changeAll`) and by windows given up (`discard`). A window
is found after changes with exactly the edits that were addressed to it, and a series of edits that
fails has made some first part of its changes (`of_performing_error`).
-/

namespace TerminalSession.Buffers

open TerminalSession.Action

variable {b b' : Buffers} {id : WindowId} {ws : List Window} {w : Window} {e : Edit}

/-! ## Windows added at the end -/

/-- An engine with more windows, which have the next ids. -/
def addAll (b : Buffers) (ws : List Window) : Buffers :=
  { b with slots := b.slots ++ (ws.map some).toArray }

/-- An engine that has had so many windows more, which are gone. -/
def bury (b : Buffers) (count : Nat) : Buffers :=
  { b with slots := b.slots ++ Array.replicate count none }

@[simp] theorem addAll_nil (b : Buffers) : b.addAll [] = b := by simp [addAll]

@[simp] theorem bury_zero (b : Buffers) : b.bury 0 = b := by simp [bury]

@[simp] theorem budget_addAll (b : Buffers) (ws : List Window) : (b.addAll ws).budget = b.budget :=
  rfl

@[simp] theorem budget_bury (b : Buffers) (count : Nat) : (b.bury count).budget = b.budget := rfl

@[simp] theorem size_addAll (b : Buffers) (ws : List Window) :
    (b.addAll ws).slots.size = b.slots.size + ws.length := by
  simp [addAll]

theorem push_addAll (b : Buffers) (ws : List Window) (w : Window) :
    (b.addAll ws).push w = b.addAll (ws ++ [w]) := by
  simp [addAll, push]

theorem window?_eq_none_of_size_le (h : b.slots.size ≤ id) : b.window? id = none := by
  simp [window?, Array.getElem?_eq_none h]

theorem lt_size_of_window? (h : b.window? id = some w) : id < b.slots.size := by
  rcases Nat.lt_or_ge id b.slots.size with hid | hid
  · exact hid
  · rw [window?_eq_none_of_size_le hid] at h
    cases h

theorem window?_addAll (b : Buffers) (ws : List Window) (id : WindowId) :
    (b.addAll ws).window? id =
      if id < b.slots.size then b.window? id else ws[id - b.slots.size]? := by
  simp only [window?, addAll, Array.getElem?_append]
  split
  · rfl
  · rw [List.getElem?_toArray, List.getElem?_map]
    cases ws[id - b.slots.size]? <;> rfl

theorem isSome_window?_addAll (b : Buffers) (ws : List Window) (id : WindowId) :
    ((b.addAll ws).window? id).isSome ↔
      (b.window? id).isSome ∨ b.slots.size ≤ id ∧ id < b.slots.size + ws.length := by
  rw [window?_addAll]
  split
  · rename_i hold
    exact ⟨.inl, fun h => h.resolve_right fun hnew => Nat.not_lt.mpr hnew.1 hold⟩
  · rename_i hnew
    have hnew := Nat.not_lt.mp hnew
    rw [window?_eq_none_of_size_le hnew]
    obtain ⟨k, rfl⟩ := Nat.exists_eq_add_of_le hnew
    simp

theorem window?_bury (b : Buffers) (count : Nat) (id : WindowId) :
    (b.bury count).window? id = b.window? id := by
  simp only [window?, bury, Array.getElem?_append, Array.getElem?_replicate]
  split
  · rfl
  · rename_i h
    rw [Array.getElem?_eq_none (by omega)]
    split <;> rfl

theorem inUse_addAll (b : Buffers) (ws : List Window) :
    (b.addAll ws).inUse = b.inUse + (ws.map Window.cellCount).sum := by
  simp [inUse_eq, addAll, slotCells, Function.comp_def]

theorem inUse_bury (b : Buffers) (count : Nat) : (b.bury count).inUse = b.inUse := by
  simp [inUse_eq, bury, slotCells]

theorem window?_addAll_of_lt {i : Nat} (h : i < ws.length) :
    (b.addAll ws).window? (b.slots.size + i) = some ws[i] := by
  rw [window?_addAll, if_neg (Nat.not_lt.mpr (Nat.le_add_right ..)), Nat.add_sub_cancel_left]
  exact List.getElem?_eq_getElem h

theorem modifyWindow_addAll (b : Buffers) (ws : List Window) (i : Nat) (f : Window → Window) :
    (b.addAll ws).modifyWindow (b.slots.size + i) f = b.addAll (ws.modify i f) := by
  have hslots : (b.slots ++ (ws.map some).toArray).modify (b.slots.size + i) (·.map f) =
      b.slots ++ ((ws.modify i f).map some).toArray := by
    apply Array.ext_getElem?
    intro j
    simp only [Array.getElem?_modify, Array.getElem?_append, List.getElem?_toArray,
      List.getElem?_map, List.getElem?_modify]
    by_cases hj : j < b.slots.size
    · simp [hj, show b.slots.size + i ≠ j by omega]
    · by_cases hi : b.slots.size + i = j
      · have hi' : i = j - b.slots.size := by omega
        have hj' : b.slots.size + (j - b.slots.size) = j := by omega
        simp [hj, hj', hi', Function.comp_def]
      · have hi' : i ≠ j - b.slots.size := by omega
        simp [hj, hi, hi']
  simp only [addAll, modifyWindow, hslots]

/-- The window made last is given up again. -/
theorem destroy_last (b : Buffers) (ws : List Window) (w : Window) (count : Nat) :
    ((b.addAll (ws ++ [w])).bury count).destroy (b.slots.size + ws.length) =
      .ok ((), (b.addAll ws).bury (count + 1)) := by
  have hw : ((b.addAll (ws ++ [w])).bury count).window? (b.slots.size + ws.length) = some w := by
    rw [window?_bury, window?_addAll_of_lt (by simp)]
    simp
  unfold destroy
  simp only [hw]
  have hslots : (b.slots ++ ((ws ++ [w]).map some).toArray ++ Array.replicate count none).setIfInBounds
      (b.slots.size + ws.length) none =
      b.slots ++ (ws.map some).toArray ++ Array.replicate (count + 1) none := by
    apply Array.ext'
    simp [List.replicate_succ]
  exact congrArg (fun slots => Except.ok ((), { b with slots })) hslots

/-! ## Changes -/

/-- An engine after changes to its windows, allowed or not. -/
def changeAll (b : Buffers) (es : List (WindowId × Edit)) : Buffers :=
  es.foldl (fun b p => b.modifyWindow p.1 (·.edit p.2)) b

/-- The edits among changes that concern one window. -/
def addressed (id : WindowId) (es : List (WindowId × Edit)) : List Edit :=
  es.filterMap fun p => if p.1 = id then some p.2 else none

theorem addressed_append (id : WindowId) (es es' : List (WindowId × Edit)) :
    addressed id (es ++ es') = addressed id es ++ addressed id es' := List.filterMap_append

theorem addressed_eq_nil {es : List (WindowId × Edit)} (h : ∀ p ∈ es, p.1 ≠ id) :
    addressed id es = [] :=
  List.filterMap_eq_nil_iff.mpr fun p hp => if_neg (h p hp)

theorem addressed_map (id : WindowId) (es : List Edit) : addressed id (es.map (id, ·)) = es := by
  simp only [addressed, List.filterMap_map, Function.comp_def, if_true, List.filterMap_some]

/-- Each window has been edited as was addressed to it. -/
theorem window?_changeAll (b : Buffers) (es : List (WindowId × Edit)) (id : WindowId) :
    (b.changeAll es).window? id = (b.window? id).map (·.edits (addressed id es)) := by
  induction es generalizing b with
  | nil => exact (Option.map_id').symm
  | cons p es ih =>
    have hrest := ih (b.modifyWindow p.1 (·.edit p.2))
    rw [window?_modifyWindow] at hrest
    rw [changeAll, List.foldl_cons]
    refine hrest.trans ?_
    by_cases hid : id = p.1
    · have haddressed : addressed id (p :: es) = p.2 :: addressed id es :=
        List.filterMap_cons_some (if_pos hid.symm)
      rw [if_pos hid, haddressed, Option.map_map]
      rfl
    · have haddressed : addressed id (p :: es) = addressed id es :=
        List.filterMap_cons_none (if_neg (Ne.symm hid))
      rw [if_neg hid, haddressed]

theorem isSome_window?_changeAll (b : Buffers) (es : List (WindowId × Edit)) (id : WindowId) :
    ((b.changeAll es).window? id).isSome = (b.window? id).isSome := by
  rw [window?_changeAll, Option.isSome_map]

theorem modifyWindow_id (b : Buffers) (id : WindowId) : b.modifyWindow id (fun w => w) = b := by
  have hslots : b.slots.modify id (·.map fun w => w) = b.slots := by
    apply Array.ext_getElem?
    intro i
    rw [Array.getElem?_modify]
    split <;> simp
  rw [modifyWindow, hslots]

theorem modifyWindow_modifyWindow (b : Buffers) (id : WindowId) (f g : Window → Window) :
    (b.modifyWindow id f).modifyWindow id g = b.modifyWindow id fun w => g (f w) := by
  have hslots : (b.slots.modify id (·.map f)).modify id (·.map g) =
      b.slots.modify id (·.map fun w => g (f w)) := by
    apply Array.ext_getElem?
    intro i
    simp only [Array.getElem?_modify]
    split <;> simp [Option.map_map, Function.comp_def]
  simp only [modifyWindow, hslots]

theorem slot_of_window?_none (h : b.window? id = none) :
    b.slots[id]? = none ∨ b.slots[id]? = some none := by
  rw [window?] at h
  rcases hslot : b.slots[id]? with _ | _ | w
  · exact .inl rfl
  · exact .inr rfl
  · rw [hslot] at h
    cases h

theorem modifyWindow_of_none (h : b.window? id = none) (f : Window → Window) :
    b.modifyWindow id f = b := by
  have hslots : b.slots.modify id (·.map f) = b.slots := by
    apply Array.ext_getElem?
    intro i
    rw [Array.getElem?_modify]
    split
    · rename_i hi
      subst hi
      rcases slot_of_window?_none h with hslot | hslot <;> rw [hslot] <;> rfl
    · rfl
  rw [modifyWindow, hslots]

theorem changeAll_map (b : Buffers) (id : WindowId) (es : List Edit) :
    b.changeAll (es.map (id, ·)) = b.modifyWindow id (·.edits es) := by
  induction es generalizing b with
  | nil => exact (b.modifyWindow_id id).symm
  | cons e es ih => exact (ih _).trans (b.modifyWindow_modifyWindow id _ _)

/-! ## Series of edits -/

theorem exec_edit (b : Buffers) (id : WindowId) (e : Edit) :
    exec (WindowEngine.edit id e) b = match b.edit id e with
      | .ok (_, b') => (.ok (), b')
      | .error cause => (.error cause, b) := by
  simp only [exec, WindowEngine.edit, ofStep, ofFn]
  rcases b.edit id e with _ | ⟨_, _⟩ <;> rfl

/-- Edits one after another, up to the first that is refused. -/
def performing (es : List (WindowId × Edit)) : Action Buffers WindowError Unit :=
  es.forM fun p => WindowEngine.edit p.1 p.2

theorem performing_cons (p : WindowId × Edit) (es : List (WindowId × Edit)) :
    performing (p :: es) = (do WindowEngine.edit p.1 p.2; performing es) := rfl

theorem performing_append (es es' : List (WindowId × Edit)) :
    performing (es ++ es') = (do performing es; performing es') := List.forM_append

theorem of_performing_ok {es : List (WindowId × Edit)}
    (h : exec (performing es) b = (.ok (), b')) : b' = b.changeAll es := by
  induction es generalizing b with
  | nil =>
    cases h
    rfl
  | cons p es ih =>
    obtain ⟨_, b₁, hfirst, hrest⟩ := of_exec_bind_ok h
    rw [exec_edit] at hfirst
    cases hedit : b.edit p.1 p.2 with
    | error cause => simp [hedit] at hfirst
    | ok r =>
      rw [hedit] at hfirst
      cases hfirst
      obtain ⟨w, -, hb₁⟩ := of_edit_ok hedit
      rw [ih hrest, hb₁]
      rfl

/-- A series of edits that fails has made some of its changes, in order. -/
theorem of_performing_error {es : List (WindowId × Edit)} {cause : WindowError}
    (h : exec (performing es) b = (.error cause, b')) :
    ∃ done, done <+: es ∧ b' = b.changeAll done := by
  induction es generalizing b with
  | nil => cases h
  | cons p es ih =>
    rw [performing_cons, exec_bind, exec_edit] at h
    cases hedit : b.edit p.1 p.2 with
    | error cause' =>
      rw [hedit] at h
      cases h
      exact ⟨[], List.nil_prefix, rfl⟩
    | ok r =>
      rw [hedit] at h
      obtain ⟨w, -, hb₁⟩ := of_edit_ok hedit
      obtain ⟨done, hdone, rfl⟩ := ih h
      refine ⟨p :: done, List.cons_prefix_cons.mpr ⟨rfl, hdone⟩, ?_⟩
      rw [hb₁]
      rfl

/-- Nothing but a resize is refused to windows that exist. -/
theorem exec_performing {es : List (WindowId × Edit)} (he : ∀ p ∈ es, p.2.isResize = false)
    (hlive : ∀ p ∈ es, (b.window? p.1).isSome) :
    exec (performing es) b = (.ok (), b.changeAll es) := by
  induction es generalizing b with
  | nil => rfl
  | cons p es ih =>
    obtain ⟨w, hw⟩ := Option.isSome_iff_exists.mp (hlive p (.head _))
    rw [performing_cons, exec_bind, exec_edit, edit_eq (he p (.head _)) hw]
    refine ih (fun q hq => he q (.tail _ hq)) fun q hq => ?_
    rw [window?_modifyWindow]
    split <;> simpa using hlive q (.tail _ hq)

/-- Edits of a window that does not exist do nothing. -/
theorem exec_performing_unknown {p : WindowId × Edit} (es : List (WindowId × Edit))
    (he : p.2.isResize = false) (hp : b.window? p.1 = none) :
    exec (performing (p :: es)) b = (.error (.unknownWindow p.1), b) := by
  rw [performing_cons, exec_bind, exec_edit, edit_unknown he hp]

/-! ## Windows given up -/

/-- An engine without some of its windows. -/
def discard (b : Buffers) (ids : List WindowId) : Buffers :=
  ids.foldl (fun b id => { b with slots := b.slots.setIfInBounds id none }) b

theorem window?_discard (b : Buffers) (ids : List WindowId) (id : WindowId) :
    (b.discard ids).window? id = if id ∈ ids then none else b.window? id := by
  induction ids generalizing b with
  | nil => rfl
  | cons id' ids ih =>
    rw [discard, List.foldl_cons]
    refine (ih _).trans ?_
    have hfirst : ({ b with slots := b.slots.setIfInBounds id' none } : Buffers).window? id =
        if id = id' then none else b.window? id := by
      simp only [window?, Array.getElem?_setIfInBounds]
      by_cases hid : id' = id
      · subst hid
        rw [if_pos rfl, if_pos rfl]
        split <;> rfl
      · rw [if_neg hid, if_neg (Ne.symm hid)]
    rw [hfirst]
    by_cases hmem : id ∈ ids
    · simp [hmem]
    · by_cases hid : id = id' <;> simp [hmem, hid]

theorem discard_of_none (h : b.window? id = none) : b.discard [id] = b := by
  have hslots : b.slots.setIfInBounds id none = b.slots := by
    apply Array.ext_getElem?
    intro i
    rw [Array.getElem?_setIfInBounds]
    split
    · rename_i hi
      subst hi
      rcases slot_of_window?_none h with hslot | hslot
      · rw [if_neg (Nat.not_lt.mpr (Array.getElem?_eq_none_iff.mp hslot)), hslot]
      · rw [if_pos (Array.getElem?_eq_some_iff.mp hslot).1, hslot]
    · rfl
  exact congrArg (fun slots => { b with slots }) hslots

/-- Whether the window exists or not, it is gone after it has been given up. -/
theorem exec_destroy (b : Buffers) (id : WindowId) :
    (exec (WindowEngine.destroy id) b).2 = b.discard [id] := by
  simp only [exec, WindowEngine.destroy, ofStep, ofFn, destroy]
  cases hw : b.window? id with
  | some w => rfl
  | none => exact (discard_of_none hw).symm

@[simp] theorem size_discard (b : Buffers) (ids : List WindowId) :
    (b.discard ids).slots.size = b.slots.size := by
  induction ids generalizing b with
  | nil => rfl
  | cons id ids ih => exact (ih _).trans (by simp)

@[simp] theorem budget_discard (b : Buffers) (ids : List WindowId) :
    (b.discard ids).budget = b.budget := by
  induction ids generalizing b with
  | nil => rfl
  | cons id ids ih => exact ih _

end TerminalSession.Buffers
