import Mathlib.Algebra.Order.BigOperators.Group.List
import Mathlib.Algebra.Order.Group.Nat
import TerminalSession.Proofs.Engine.Changes

/-!
# Windows resized one after another

Windows that are resized in turn pass through mixtures of old and new sizes, and each of these has
to fit the budget. Whether they do is a matter of numbers, `Affordable`. While all sizes grow the
last mixture decides, and while all shrink none is in the way.
-/

namespace TerminalSession.Buffers

open TerminalSession.Action

variable {b : Buffers} {budget : Option Nat} {cells : WindowId → Nat} {used : Nat}

/-! ## The cells of all windows -/

theorem cells_of_geometry? {id : WindowId} {area : Rect} (h : b.geometry? id = some area) :
    b.cells id = area.rows * area.cols := by
  obtain ⟨w, hw, rfl⟩ := Option.map_eq_some_iff.mp h
  rw [cells_of_window? hw, Window.cellCount_eq]

theorem inUse_eq_sum_range (b : Buffers) :
    b.inUse = ((List.range b.slots.size).map b.cells).sum := by
  have hslots : b.slots.toList.map slotCells = (List.range b.slots.size).map b.cells := by
    apply List.ext_getElem
    · simp
    · intro i hi hi'
      have hlt : i < b.slots.size := by simpa using hi
      simp [cells, window?, hlt]
  rw [inUse_eq, hslots]

/-- The windows there are have all the cells that are in use. -/
theorem inUse_eq_sum {ids : List WindowId} (hnodup : ids.Nodup)
    (hlive : ∀ id, (b.window? id).isSome ↔ id ∈ ids) : b.inUse = (ids.map b.cells).sum := by
  have hperm : ids.Perm ((List.range b.slots.size).filter fun id => (b.window? id).isSome) := by
    refine (List.perm_ext_iff_of_nodup hnodup (List.nodup_range.filter _)).mpr fun id => ?_
    rw [List.mem_filter, List.mem_range, ← hlive]
    refine ⟨fun h => ⟨?_, h⟩, fun h => h.2⟩
    obtain ⟨w, hw⟩ := Option.isSome_iff_exists.mp h
    exact lt_size_of_window? hw
  have hgone (l : List WindowId) :
      (l.map b.cells).sum = ((l.filter fun id => (b.window? id).isSome).map b.cells).sum := by
    induction l with
    | nil => rfl
    | cons id l ih =>
      cases hw : b.window? id with
      | some w => simp [hw, ih]
      | none =>
        have hnone : b.cells id = 0 := by
          rw [cells, hw]
          rfl
        simp [hw, ih, hnone]
  rw [inUse_eq_sum_range, hgone, (hperm.map b.cells).sum_eq]

/-! ## One after another -/

/-- Whether windows with these cells can be given others in turn, where so many are in use. -/
def Affordable (budget : Option Nat) (cells : WindowId → Nat) : Nat → List (WindowId × Nat) → Prop
  | _, [] => True
  | used, (id, new) :: steps =>
    Fits budget (used - cells id + new) ∧ Affordable budget cells (used - cells id + new) steps

/-- What is in use once windows have been given other sizes. -/
def settled (cells : WindowId → Nat) (used : Nat) (steps : List (WindowId × Nat)) : Nat :=
  steps.foldl (fun used p => used - cells p.1 + p.2) used

theorem affordable_congr {cells' : WindowId → Nat} {steps : List (WindowId × Nat)}
    (h : ∀ p ∈ steps, cells' p.1 = cells p.1) :
    Affordable budget cells' used steps ↔ Affordable budget cells used steps := by
  induction steps generalizing used with
  | nil => rfl
  | cons p steps ih =>
    rw [Affordable, Affordable, h p (.head _), ih fun q hq => h q (.tail _ hq)]

theorem settled_add {steps : List (WindowId × Nat)}
    (h : (steps.map fun p => cells p.1).sum ≤ used) :
    settled cells used steps + (steps.map fun p => cells p.1).sum =
      used + (steps.map Prod.snd).sum := by
  induction steps generalizing used with
  | nil => simp [settled]
  | cons p steps ih =>
    rw [List.map_cons, List.sum_cons] at h ⊢
    have hrest : settled cells (used - cells p.1 + p.2) steps +
        (steps.map fun p => cells p.1).sum = used - cells p.1 + p.2 + (steps.map Prod.snd).sum :=
      ih (by omega)
    rw [settled] at hrest
    rw [settled, List.foldl_cons, List.map_cons, List.sum_cons]
    omega

/-- While windows shrink nothing is in the way. -/
theorem affordable_of_le {steps : List (WindowId × Nat)} (hused : Fits budget used)
    (hroom : (steps.map fun p => cells p.1).sum ≤ used) (h : ∀ p ∈ steps, p.2 ≤ cells p.1) :
    Affordable budget cells used steps := by
  induction steps generalizing used with
  | nil => trivial
  | cons p steps ih =>
    rw [List.map_cons, List.sum_cons] at hroom
    have hp := h p (.head _)
    have hfits : Fits budget (used - cells p.1 + p.2) := hused.mono (by omega)
    exact ⟨hfits, ih hfits (by omega) fun q hq => h q (.tail _ hq)⟩

/-- While windows grow the end decides. -/
theorem affordable_iff_of_ge {steps : List (WindowId × Nat)} (hused : Fits budget used)
    (hroom : (steps.map fun p => cells p.1).sum ≤ used) (h : ∀ p ∈ steps, cells p.1 ≤ p.2) :
    Affordable budget cells used steps ↔ Fits budget (settled cells used steps) := by
  induction steps generalizing used with
  | nil => exact iff_of_true trivial hused
  | cons p steps ih =>
    rw [List.map_cons, List.sum_cons] at hroom
    have hrest (hfits : Fits budget (used - cells p.1 + p.2)) :=
      ih hfits (by omega) fun q hq => h q (.tail _ hq)
    have hsum : settled cells (used - cells p.1 + p.2) steps +
        (steps.map fun p => cells p.1).sum = used - cells p.1 + p.2 + (steps.map Prod.snd).sum :=
      settled_add (by omega)
    have hgrow : (steps.map fun p => cells p.1).sum ≤ (steps.map Prod.snd).sum :=
      List.sum_le_sum fun q hq => h q (.tail _ hq)
    have hle : used - cells p.1 + p.2 ≤ settled cells used (p :: steps) := by
      change _ ≤ settled cells (used - cells p.1 + p.2) steps
      omega
    constructor
    · rintro ⟨hfits, haffordable⟩
      exact (hrest hfits).mp haffordable
    · intro hend
      exact ⟨hend.mono hle, (hrest (hend.mono hle)).mpr hend⟩

/-! ## Series of edits -/

/-- The windows that are given other sizes, with the cells they get. -/
def sizings (es : List (WindowId × Edit)) : List (WindowId × Nat) :=
  es.filterMap fun
    | (id, .resize rows cols) => some (id, rows * cols)
    | _ => none

theorem sizings_append (es es' : List (WindowId × Edit)) :
    sizings (es ++ es') = sizings es ++ sizings es' := List.filterMap_append

theorem sizings_of_not_isResize {es : List (WindowId × Edit)}
    (h : ∀ p ∈ es, p.2.isResize = false) : sizings es = [] := by
  refine List.filterMap_eq_nil_iff.mpr fun p hp => ?_
  obtain ⟨id, e⟩ := p
  have he := h _ hp
  cases e with
  | resize => cases he
  | _ => rfl

theorem cells_modifyWindow_of_ne {id id' : WindowId} (f : Window → Window) (h : id' ≠ id) :
    (b.modifyWindow id f).cells id' = b.cells id' := by
  rw [cells, cells, window?_modifyWindow, if_neg h]

theorem cells_modifyWindow_of_same {id : WindowId} {f : Window → Window}
    (hf : ∀ w, (f w).cellCount = w.cellCount) (id' : WindowId) :
    (b.modifyWindow id f).cells id' = b.cells id' := by
  rw [cells, cells, window?_modifyWindow]
  split
  · cases b.window? id' with
    | none => rfl
    | some w => exact hf w
  · rfl

theorem inUse_modifyWindow_resize {id : WindowId} {w : Window} (hw : b.window? id = some w)
    (rows cols : Nat) : (b.modifyWindow id (·.edit (.resize rows cols))).inUse =
      b.inUse - b.cells id + rows * cols := by
  have hsum := b.inUse_modifyWindow id (·.edit (.resize rows cols))
  have hle := b.cells_le_inUse id
  have hnew : slotCells ((b.window? id).map (·.edit (.resize rows cols))) = rows * cols := by
    rw [hw]
    change (w.edit (.resize rows cols)).cellCount = _
    rw [Window.cellCount_eq, Window.area_edit]
    rfl
  omega

/-- Edits of windows that exist are all made exactly if the new sizes can be afforded, as long as
no window is resized twice and none to a size without cells. -/
theorem performing_ok_iff {es : List (WindowId × Edit)} (hlive : ∀ p ∈ es, (b.window? p.1).isSome)
    (hsize : ∀ p ∈ sizings es, p.2 ≠ 0) (hnodup : ((sizings es).map Prod.fst).Nodup) :
    (exec (performing es) b).1 = .ok () ↔
      Affordable b.budget b.cells b.inUse (sizings es) := by
  induction es generalizing b with
  | nil => exact iff_of_true rfl trivial
  | cons p es ih =>
    obtain ⟨id, e⟩ := p
    obtain ⟨w, hw⟩ := Option.isSome_iff_exists.mp (hlive _ (.head _))
    have hlive' : ∀ p ∈ es, ((b.modifyWindow id (·.edit e)).window? p.1).isSome := by
      intro p hp
      rw [window?_modifyWindow]
      split <;> simpa using hlive p (.tail _ hp)
    rw [performing_cons, exec_bind, exec_edit]
    by_cases he : e.isResize = false
    · have hsizings : sizings ((id, e) :: es) = sizings es := by
        cases e with
        | resize => cases he
        | _ => rfl
      have hsame (w : Window) : (w.edit e).cellCount = w.cellCount := Window.cellCount_edit he
      rw [hsizings] at hsize hnodup ⊢
      have hrest := ih hlive' hsize hnodup
      rw [inUse_modifyWindow_of_same hsame,
        affordable_congr fun p _ => cells_modifyWindow_of_same hsame p.1] at hrest
      rw [edit_eq he hw]
      exact hrest
    · obtain ⟨rows, cols, rfl⟩ := Edit.eq_resize he
      have hsizings : sizings ((id, .resize rows cols) :: es) = (id, rows * cols) :: sizings es := rfl
      rw [hsizings, List.map_cons, List.nodup_cons] at hnodup
      rw [hsizings] at hsize ⊢
      obtain ⟨hrows, hcols⟩ := Nat.mul_ne_zero_iff.mp (hsize _ (.head _))
      rw [resize_eq hrows hcols hw, Affordable]
      by_cases hfits : Fits b.budget (b.inUse - b.cells id + rows * cols)
      · have hrest := ih hlive' (fun p hp => hsize p (.tail _ hp)) hnodup.2
        have hothers : ∀ p ∈ sizings es,
            (b.modifyWindow id (·.edit (.resize rows cols))).cells p.1 = b.cells p.1 := fun p hp =>
          cells_modifyWindow_of_ne _ fun heq => hnodup.1 (List.mem_map.mpr ⟨p, hp, heq⟩)
        rw [affordable_congr hothers, inUse_modifyWindow_resize hw] at hrest
        rw [if_pos hfits, and_iff_right hfits]
        exact hrest
      · rw [if_neg hfits]
        exact iff_of_false (by simp) fun h => hfits h.1

/-! ## Staying within the budget -/

/-- Whether the windows there are fit the budget. -/
def Roomy (b : Buffers) : Prop := Fits b.budget b.inUse

theorem Roomy.edit {id : WindowId} {e : Edit} {b' : Buffers} (hb : b.Roomy)
    (h : b.edit id e = .ok ((), b')) : b'.Roomy := by
  obtain ⟨w, hw, hb'⟩ := of_edit_ok h
  by_cases he : e.isResize = false
  · rw [hb', Roomy, inUse_modifyWindow_of_same fun w => Window.cellCount_edit he]
    exact hb
  · obtain ⟨rows, cols, rfl⟩ := Edit.eq_resize he
    have hsize : rows ≠ 0 ∧ cols ≠ 0 := by
      refine not_or.mp fun hzero => ?_
      simp [Buffers.edit, checkSize, hzero, bind, Except.bind, throw, throwThe,
        MonadExceptOf.throw] at h
    rw [resize_eq hsize.1 hsize.2 hw] at h
    split at h
    · rename_i hfits
      rw [hb', Roomy, inUse_modifyWindow_resize hw]
      exact hfits
    · cases h

/-- However far a series of edits gets, it stays within the budget. -/
theorem Roomy.performing {es : List (WindowId × Edit)} {b' : Buffers} {r : Except WindowError Unit}
    (hb : b.Roomy) (h : exec (performing es) b = (r, b')) : b'.Roomy := by
  induction es generalizing b with
  | nil =>
    cases h
    exact hb
  | cons p es ih =>
    rw [performing_cons, exec_bind, exec_edit] at h
    cases hedit : b.edit p.1 p.2 with
    | error cause =>
      rw [hedit] at h
      cases h
      exact hb
    | ok done =>
      rw [hedit] at h
      exact ih (hb.edit hedit) h

theorem Roomy.changeAll {es : List (WindowId × Edit)} (hb : b.Roomy)
    (h : ∀ p ∈ es, p.2.isResize = false) : (b.changeAll es).Roomy := by
  induction es generalizing b with
  | nil => exact hb
  | cons p es ih =>
    refine ih ?_ fun q hq => h q (.tail _ hq)
    rw [Roomy, inUse_modifyWindow_of_same fun w => Window.cellCount_edit (h p (.head _))]
    exact hb

theorem inUse_discard_le (b : Buffers) (ids : List WindowId) : (b.discard ids).inUse ≤ b.inUse := by
  have hcells (b : Buffers) (id : WindowId) :
      ({ b with slots := b.slots.setIfInBounds id none } : Buffers).inUse ≤ b.inUse := by
    rw [inUse_eq_sum_range, inUse_eq_sum_range, Array.size_setIfInBounds]
    refine List.sum_le_sum fun id' _ => ?_
    simp only [cells, window?, Array.getElem?_setIfInBounds]
    split
    · split <;> exact Nat.zero_le _
    · exact Nat.le_refl _
  induction ids generalizing b with
  | nil => exact Nat.le_refl _
  | cons id ids ih => exact Nat.le_trans (ih _) (hcells b id)

theorem Roomy.discard (hb : b.Roomy) (ids : List WindowId) : (b.discard ids).Roomy := by
  rw [Roomy, budget_discard]
  exact hb.mono (b.inUse_discard_le ids)

/-- Windows for which there was room fit the budget. -/
theorem Roomy.addAll {ws : List Window} (hb : b.Roomy)
    (h : reserveAll b.budget b.inUse (ws.map Window.area) = .ok ()) : (b.addAll ws).Roomy := by
  have hcells : (ws.map Window.cellCount).sum = areaCells (ws.map Window.area) := by
    rw [areaCells, List.map_map]
    rfl
  rw [Roomy, inUse_addAll, hcells]
  exact ((reserveAll_eq_ok_iff hb).mp h).2

end TerminalSession.Buffers
