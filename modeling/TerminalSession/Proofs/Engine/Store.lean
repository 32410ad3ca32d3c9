import TerminalSession.Proofs.Engine.Changes

/-!
# An engine as a store of windows

What an engine in memory holds after any calls, told by the log of the calls and their answers
alone. The windows it has made have the numbers from zero on, those not given up are there, and each
is what it would be had it been made by itself and undergone the edits addressed to it
(`stores_windows`). A call that is refused leaves no trace, and `refusal` says which are refused.
-/

namespace TerminalSession

open TerminalSession.Action

/-- What can be asked of an engine. -/
inductive EngineCall
  | create (area : Rect)
  | edit (id : WindowId) (e : Edit)
  | destroy (id : WindowId)
  | geometry (id : WindowId)
  deriving DecidableEq, Repr

/-- What an engine answers to a call that it grants. -/
inductive EngineAnswer
  | made (id : WindowId)
  | done
  | found (area : Option Rect)
  deriving DecidableEq, Repr

abbrev LoggedEngineCall : Type := EngineCall × Except WindowError EngineAnswer

/-! ## What the log tells -/

/-- The windows made, with the areas they were asked for. -/
def made (log : List LoggedEngineCall) : List (WindowId × Rect) :=
  log.filterMap fun
    | (.create area, .ok (.made id)) => some (id, area)
    | _ => none

def givenUp (log : List LoggedEngineCall) : List WindowId :=
  log.filterMap fun
    | (.destroy id, .ok _) => some id
    | _ => none

/-- The edits made, with the windows they were addressed to. -/
def edited (log : List LoggedEngineCall) : List (WindowId × Edit) :=
  log.filterMap fun
    | (.edit id e, .ok _) => some (id, e)
    | _ => none

section

variable (log : List LoggedEngineCall) (x : LoggedEngineCall)

theorem made_concat : made (log ++ [x]) = made log ++ made [x] := List.filterMap_append

theorem givenUp_concat : givenUp (log ++ [x]) = givenUp log ++ givenUp [x] := List.filterMap_append

theorem edited_concat : edited (log ++ [x]) = edited log ++ edited [x] := List.filterMap_append

end

namespace Buffers

/-! ## One call -/

/-- What a call on an engine in memory does. -/
def action : EngineCall → Action Buffers WindowError EngineAnswer
  | .create area => return .made (← WindowEngine.create area)
  | .edit id e => do
    WindowEngine.edit id e
    return .done
  | .destroy id => do
    WindowEngine.destroy id
    return .done
  | .geometry id => do
    let b ← get
    return .found <| b.geometry? id

/-- Why a call is refused, if it is. -/
def refusal (b : Buffers) : EngineCall → Option WindowError
  | .create area =>
    if area.rows = 0 ∨ area.cols = 0 then some (.invalidSize area.rows area.cols)
    else if Fits b.budget (b.inUse + area.rows * area.cols) then none
    else some (.outOfMemory (area.rows * area.cols) (remaining b.budget b.inUse))
  | .edit id (.resize rows cols) =>
    if rows = 0 ∨ cols = 0 then some (.invalidSize rows cols)
    else if b.window? id = none then some (.unknownWindow id)
    else if Fits b.budget (b.inUse - b.cells id + rows * cols) then none
    else some (.outOfMemory (rows * cols) (remaining b.budget (b.inUse - b.cells id)))
  | .edit id _ | .destroy id => if b.window? id = none then some (.unknownWindow id) else none
  | .geometry _ => none

/-- The answer to a call that is granted. -/
def answer (b : Buffers) : EngineCall → EngineAnswer
  | .create _ => .made b.slots.size
  | .edit .. | .destroy _ => .done
  | .geometry id => .found <| b.geometry? id

/-- The engine after a call that is granted. -/
def after (b : Buffers) : EngineCall → Buffers
  | .create area => b.push (.blank area)
  | .edit id e => b.modifyWindow id (·.edit e)
  | .destroy id => b.discard [id]
  | .geometry _ => b

variable {b b' : Buffers} {log : List LoggedEngineCall} {c : EngineCall} {cause : WindowError}

theorem exec_create (b : Buffers) (area : Rect) :
    exec (WindowEngine.create area) b = match b.create area with
      | .ok (id, b') => (.ok id, b')
      | .error cause => (.error cause, b) := by
  simp only [exec, WindowEngine.create, ofStep, ofFn]
  rcases b.create area with _ | ⟨_, _⟩ <;> rfl

theorem exec_destroy_eq (b : Buffers) (id : WindowId) :
    exec (WindowEngine.destroy id) b =
      if b.window? id = none then (.error (.unknownWindow id), b) else (.ok (), b.discard [id]) := by
  simp only [exec, WindowEngine.destroy, ofStep, ofFn, destroy]
  cases b.window? id <;> rfl

theorem create_refusal (b : Buffers) (area : Rect) :
    b.create area = match b.refusal (.create area) with
      | some cause => .error cause
      | none => .ok (b.slots.size, b.after (.create area)) := by
  rw [create_eq, refusal]
  split
  · rfl
  · split <;> rfl

theorem edit_refusal (b : Buffers) (id : WindowId) (e : Edit) :
    b.edit id e = match b.refusal (.edit id e) with
      | some cause => .error cause
      | none => .ok ((), b.after (.edit id e)) := by
  by_cases he : e.isResize = false
  · cases hw : b.window? id with
    | none =>
      rw [edit_unknown he hw]
      cases e with
      | resize => cases he
      | _ => simp [refusal, hw]
    | some w =>
      rw [edit_eq he hw]
      cases e with
      | resize => cases he
      | _ => simp [refusal, after, hw]
  · obtain ⟨rows, cols, rfl⟩ := Edit.eq_resize he
    by_cases hsize : rows = 0 ∨ cols = 0
    · rw [resize_invalid hsize]
      simp [refusal, hsize]
    cases hw : b.window? id with
    | none =>
      rw [resize_unknown hsize hw]
      simp [refusal, hsize, hw]
    | some w =>
      obtain ⟨hrows, hcols⟩ := not_or.mp hsize
      rw [resize_eq hrows hcols hw]
      simp only [refusal, hsize, hw, if_false, reduceCtorEq]
      split <;> rfl

/-- No call on a window that does not exist is granted. -/
theorem window?_of_granted {id : WindowId} (hc : (∃ e, c = .edit id e) ∨ c = .destroy id)
    (hgranted : b.refusal c = none) : ∃ w, b.window? id = some w := by
  refine Option.ne_none_iff_exists'.mp fun hw => ?_
  rcases hc with ⟨e, rfl⟩ | rfl
  · have hrefused := b.edit_refusal id e
    rw [hgranted] at hrefused
    obtain ⟨w, hw', -⟩ := of_edit_ok hrefused
    rw [hw] at hw'
    cases hw'
  · rw [refusal, if_pos hw] at hgranted
    cases hgranted

/-- A call is refused, or it does all it is to do. -/
theorem exec_action (b : Buffers) (c : EngineCall) :
    exec (action c) b = match b.refusal c with
      | some cause => (.error cause, b)
      | none => (.ok (b.answer c), b.after c) := by
  cases c with
  | create area =>
    rw [action, exec_bind, exec_create, create_refusal]
    cases b.refusal (.create area) <;> rfl
  | edit id e =>
    rw [action, exec_bind, exec_edit, edit_refusal]
    cases b.refusal (.edit id e) <;> rfl
  | destroy id =>
    rw [action, exec_bind, exec_destroy_eq, refusal]
    by_cases hw : b.window? id = none
    · rw [if_pos hw, if_pos hw]
    · rw [if_neg hw, if_neg hw]
      rfl
  | geometry id => rfl

theorem result_eq_ok_iff {r : EngineAnswer} :
    (exec (action c) b).1 = .ok r ↔ b.refusal c = none ∧ r = b.answer c := by
  rw [exec_action]
  cases b.refusal c <;> simp [eq_comm]

theorem result_eq_error_iff : (exec (action c) b).1 = .error cause ↔ b.refusal c = some cause := by
  rw [exec_action]
  cases b.refusal c <;> simp

/-- A call that is refused leaves the engine as it was. -/
theorem eq_of_refused (h : exec (action c) b = (.error cause, b')) : b' = b := by
  rw [exec_action] at h
  split at h <;> cases h
  rfl

theorem refusal_create_eq_none {area : Rect} :
    b.refusal (.create area) = none ↔
      area.rows ≠ 0 ∧ area.cols ≠ 0 ∧ Fits b.budget (b.inUse + area.rows * area.cols) := by
  rw [refusal, ← and_assoc, ← not_or]
  by_cases hsize : area.rows = 0 ∨ area.cols = 0
  · simp [hsize]
  · simp [hsize]

theorem refusal_resize_eq_none {id : WindowId} {rows cols : Nat} :
    b.refusal (.edit id (.resize rows cols)) = none ↔
      (b.window? id).isSome ∧ rows ≠ 0 ∧ cols ≠ 0 ∧
        Fits b.budget (b.inUse - b.cells id + rows * cols) := by
  rw [refusal, ← and_assoc (a := rows ≠ 0), ← not_or]
  by_cases hsize : rows = 0 ∨ cols = 0
  · simp [hsize]
  · cases b.window? id <;> simp [hsize]

/-! ## Any calls -/

/-- An engine, and the calls made to it. -/
structure Usage where
  engine : Buffers
  log : List LoggedEngineCall := []

def Usage.call (u : Usage) (c : EngineCall) : Usage :=
  let (result, engine) := exec (action c) u.engine
  { engine, log := u.log ++ [(c, result)] }

def Usage.calls (u : Usage) (cs : List EngineCall) : Usage := cs.foldl call u

/-- The engine holds what the log of its calls tells. -/
structure Stores (log : List LoggedEngineCall) (b : Buffers) : Prop where
  ids : (made log).map Prod.fst = List.range b.slots.size
  gone : ∀ id ∈ givenUp log, id < b.slots.size ∧ b.window? id = none
  unmade : ∀ p ∈ edited log, p.1 < b.slots.size
  window : ∀ id area, (id, area) ∈ made log → id ∉ givenUp log →
    b.window? id = some ((Window.blank area).edits (addressed id (edited log)))

theorem stores_empty (budget : Option Nat) : Stores [] { budget } :=
  ⟨rfl, by simp [givenUp], by simp [edited], by simp [made]⟩

namespace Stores

variable (h : Stores log b)

include h

theorem lt_of_mem_made {id : WindowId} {area : Rect} (hmade : (id, area) ∈ made log) :
    id < b.slots.size := by
  have hid : id ∈ (made log).map Prod.fst := List.mem_map_of_mem hmade
  rwa [h.ids, List.mem_range] at hid

theorem mem_made_of_lt {id : WindowId} (hid : id < b.slots.size) : ∃ area, (id, area) ∈ made log := by
  have hmem : id ∈ (made log).map Prod.fst := by rwa [h.ids, List.mem_range]
  obtain ⟨⟨_, area⟩, hmade, rfl⟩ := List.mem_map.mp hmem
  exact ⟨area, hmade⟩

/-- The windows there are were made and not given up. -/
theorem isSome_window?_iff (id : WindowId) :
    (b.window? id).isSome ↔ (∃ area, (id, area) ∈ made log) ∧ id ∉ givenUp log := by
  constructor
  · intro hsome
    obtain ⟨w, hw⟩ := Option.isSome_iff_exists.mp hsome
    refine ⟨h.mem_made_of_lt (lt_size_of_window? hw), fun hgone => ?_⟩
    rw [(h.gone id hgone).2] at hw
    cases hw
  · rintro ⟨⟨area, hmade⟩, hgone⟩
    rw [h.window id area hmade hgone]
    rfl

theorem addressed_of_size_le {id : WindowId} (hid : b.slots.size ≤ id) :
    addressed id (edited log) = [] :=
  addressed_eq_nil fun p hp => Nat.ne_of_lt (Nat.lt_of_lt_of_le (h.unmade p hp) hid)

theorem congr {log' : List LoggedEngineCall} (hmade : made log' = made log)
    (hgone : givenUp log' = givenUp log) (hedited : edited log' = edited log) : Stores log' b where
  ids := hmade ▸ h.ids
  gone := hgone ▸ h.gone
  unmade := hedited ▸ h.unmade
  window := hmade ▸ hgone ▸ hedited ▸ h.window

/-- A call that is refused tells nothing. -/
theorem refused (c : EngineCall) (cause : WindowError) :
    Stores (log ++ [(c, .error cause)]) b := by
  refine h.congr ?_ ?_ ?_
  · rw [made_concat]
    cases c <;> exact List.append_nil _
  · rw [givenUp_concat]
    cases c <;> exact List.append_nil _
  · rw [edited_concat]
    cases c <;> exact List.append_nil _

theorem create (area : Rect) :
    Stores (log ++ [(.create area, .ok (.made b.slots.size))]) (b.push (.blank area)) := by
  have hmade : made (log ++ [(.create area, .ok (.made b.slots.size))]) =
      made log ++ [(b.slots.size, area)] := made_concat ..
  have hgone : givenUp (log ++ [(.create area, .ok (.made b.slots.size))]) = givenUp log :=
    (givenUp_concat ..).trans (List.append_nil _)
  have hedited : edited (log ++ [(.create area, .ok (.made b.slots.size))]) = edited log :=
    (edited_concat ..).trans (List.append_nil _)
  have hsize : (b.push (.blank area)).slots.size = b.slots.size + 1 := by simp [push]
  refine ⟨?_, fun id hid => ?_, fun p hp => ?_, fun id area' hmem hnot => ?_⟩
  · rw [hmade, hsize, List.range_succ, List.map_append, h.ids]
    rfl
  · rw [hgone] at hid
    obtain ⟨hlt, hnone⟩ := h.gone id hid
    rw [window?_push, if_neg (Nat.ne_of_lt hlt), hsize]
    exact ⟨Nat.lt_succ_of_lt hlt, hnone⟩
  · rw [hedited] at hp
    rw [hsize]
    exact Nat.lt_succ_of_lt (h.unmade p hp)
  · rw [hmade, List.mem_append, List.mem_singleton] at hmem
    rw [hgone] at hnot
    rw [hedited, window?_push]
    rcases hmem with hmem | hmem
    · rw [if_neg (Nat.ne_of_lt (h.lt_of_mem_made hmem))]
      exact h.window id area' hmem hnot
    · -- nothing can have been addressed to the window yet
      cases hmem
      rw [if_pos rfl, h.addressed_of_size_le (Nat.le_refl _)]
      rfl

theorem edit {id : WindowId} {w : Window} (hw : b.window? id = some w) (e : Edit) :
    Stores (log ++ [(.edit id e, .ok .done)]) (b.modifyWindow id (·.edit e)) := by
  have hmade : made (log ++ [(.edit id e, .ok .done)]) = made log :=
    (made_concat ..).trans (List.append_nil _)
  have hgone : givenUp (log ++ [(.edit id e, .ok .done)]) = givenUp log :=
    (givenUp_concat ..).trans (List.append_nil _)
  have hedited : edited (log ++ [(.edit id e, .ok .done)]) = edited log ++ [(id, e)] :=
    edited_concat ..
  have hsize : (b.modifyWindow id (·.edit e)).slots.size = b.slots.size := by simp [modifyWindow]
  refine ⟨by rw [hmade, hsize, h.ids], fun id' hid => ?_, fun p hp => ?_,
    fun id' area hmem hnot => ?_⟩
  · rw [hgone] at hid
    obtain ⟨hlt, hnone⟩ := h.gone id' hid
    refine ⟨hsize ▸ hlt, ?_⟩
    rw [window?_modifyWindow, hnone]
    split <;> rfl
  · rw [hsize]
    rw [hedited, List.mem_append, List.mem_singleton] at hp
    rcases hp with hp | rfl
    · exact h.unmade p hp
    · exact lt_size_of_window? hw
  · rw [hmade] at hmem
    rw [hgone] at hnot
    have hwindow := h.window id' area hmem hnot
    rw [hedited, window?_modifyWindow, hwindow, addressed_append, Window.edits_append]
    by_cases hid : id' = id
    · subst hid
      rw [if_pos rfl, show addressed id' [(id', e)] = [e] from addressed_map id' [e]]
      rfl
    · have hother : addressed id' [(id, e)] = [] := addressed_eq_nil (by simpa using Ne.symm hid)
      rw [if_neg hid, hother]
      rfl

theorem destroy {id : WindowId} {w : Window} (hw : b.window? id = some w) :
    Stores (log ++ [(.destroy id, .ok .done)]) (b.discard [id]) := by
  have hmade : made (log ++ [(.destroy id, .ok .done)]) = made log :=
    (made_concat ..).trans (List.append_nil _)
  have hgone : givenUp (log ++ [(.destroy id, .ok .done)]) = givenUp log ++ [id] :=
    givenUp_concat ..
  have hedited : edited (log ++ [(.destroy id, .ok .done)]) = edited log :=
    (edited_concat ..).trans (List.append_nil _)
  have hsize := b.size_discard [id]
  refine ⟨by rw [hmade, hsize, h.ids], fun id' hid => ?_, fun p hp => ?_,
    fun id' area hmem hnot => ?_⟩
  · rw [hgone, List.mem_append, List.mem_singleton] at hid
    rw [hsize, window?_discard]
    rcases hid with hid | rfl
    · obtain ⟨hlt, hnone⟩ := h.gone id' hid
      refine ⟨hlt, ?_⟩
      split
      · rfl
      · exact hnone
    · exact ⟨lt_size_of_window? hw, if_pos (.head _)⟩
  · rw [hedited] at hp
    rw [hsize]
    exact h.unmade p hp
  · rw [hmade] at hmem
    rw [hgone, List.mem_append, not_or] at hnot
    rw [hedited, window?_discard, if_neg hnot.2]
    exact h.window id' area hmem hnot.1

/-- A call that is granted does what the log tells of it. -/
theorem granted (hgranted : b.refusal c = none) :
    Stores (log ++ [(c, .ok (b.answer c))]) (b.after c) := by
  cases c with
  | create area => exact h.create area
  | edit id e =>
    obtain ⟨w, hw⟩ := window?_of_granted (.inl ⟨e, rfl⟩) hgranted
    exact h.edit hw e
  | destroy id =>
    obtain ⟨w, hw⟩ := window?_of_granted (.inr rfl) hgranted
    exact h.destroy hw
  | geometry id =>
    exact h.congr ((made_concat ..).trans (List.append_nil _))
      ((givenUp_concat ..).trans (List.append_nil _)) ((edited_concat ..).trans (List.append_nil _))

end Stores

theorem stores_call {u : Usage} (h : Stores u.log u.engine) (c : EngineCall) :
    Stores (u.call c).log (u.call c).engine := by
  rw [Usage.call, exec_action]
  cases hc : u.engine.refusal c with
  | some cause => exact h.refused c cause
  | none => exact h.granted hc

theorem stores_calls {u : Usage} (h : Stores u.log u.engine) (cs : List EngineCall) :
    Stores (u.calls cs).log (u.calls cs).engine := by
  induction cs generalizing u with
  | nil => exact h
  | cons c cs ih => exact ih (stores_call h c)

/-- Windows are numbered as they are made and are there until they are given up, each as if it were
alone; and what is refused is as if it had not been asked. -/
theorem stores_windows (budget : Option Nat) (cs : List EngineCall) :
    let u := Usage.calls { engine := { budget } } cs
    (made u.log).map Prod.fst = List.range (made u.log).length ∧
      (∀ id, (u.engine.window? id).isSome ↔
        (∃ area, (id, area) ∈ made u.log) ∧ id ∉ givenUp u.log) ∧
      (∀ id area, (id, area) ∈ made u.log → id ∉ givenUp u.log →
        u.engine.window? id =
          some ((Window.blank area).edits (addressed id (edited u.log)))) ∧
      ∀ c cause engine, exec (action c) u.engine = (.error cause, engine) → engine = u.engine := by
  have hstores := stores_calls (u := { engine := { budget } }) (stores_empty budget) cs
  refine ⟨?_, hstores.isSome_window?_iff, hstores.window, fun c cause engine => eq_of_refused⟩
  have hlength := congrArg List.length hstores.ids
  rw [List.length_map, List.length_range] at hlength
  rw [hstores.ids, hlength]

end Buffers

end TerminalSession
