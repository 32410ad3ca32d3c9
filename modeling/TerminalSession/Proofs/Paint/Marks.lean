import TerminalSession.Paint
import TerminalSession.Proofs.Engine.Changes
import TerminalSession.Proofs.Window.Tracking

/-!
# What is to be drawn

What is to be drawn of a window stays to be drawn whatever is done to the window, unless its damage
is forgotten, and a request to wipe the terminal stays unless it is taken back.
-/

namespace TerminalSession

namespace Window

variable {w : Window} {e : Edit} {es : List Edit} {row : Nat}

theorem isDirty_edit (he : e ≠ .markClean) (h : w.isDirty row = true) :
    (w.edit e).isDirty row = true :=
  isDirty_change (fun hc => he (Change.edit.inj hc)) h

theorem clear_edit (he : ∀ clear, e ≠ .setClear clear) : (w.edit e).clear = w.clear := by
  cases e with
  | move top left =>
    rw [edit, move]
    split <;> rfl
  | putText row col text =>
    rw [edit, putText]
    split <;> rfl
  | setClear clear => exact absurd rfl (he clear)
  | _ => rfl

theorem clear_edit_of_clear (he : e ≠ .setClear false) (h : w.clear = true) :
    (w.edit e).clear = true := by
  by_cases hset : e = .setClear true
  · rw [hset]
    rfl
  · rw [clear_edit, h]
    rintro (_ | _) heq
    · exact he heq
    · exact hset heq

theorem isDirty_edits (hes : ∀ e ∈ es, e ≠ .markClean) (h : w.isDirty row = true) :
    (w.edits es).isDirty row = true := by
  induction es generalizing w with
  | nil => exact h
  | cons e es ih => exact ih (fun e he => hes e (.tail _ he)) (isDirty_edit (hes e (.head _)) h)

theorem clear_edits (hes : ∀ e ∈ es, e.isWriting = true) : (w.edits es).clear = w.clear := by
  induction es generalizing w with
  | nil => rfl
  | cons e es ih =>
    rw [edits_cons, ih fun e he => hes e (.tail _ he), clear_edit]
    rintro clear rfl
    cases hes _ (.head _)

/-- Whether a window asks for a wipe is settled by the edits that say so. -/
theorem clear_edits_of_clear (hes : ∀ e ∈ es, e ≠ .setClear false)
    (h : w.clear = true ∨ .setClear true ∈ es) : (w.edits es).clear = true := by
  induction es generalizing w with
  | nil => exact h.resolve_right List.not_mem_nil
  | cons e es ih =>
    refine ih (fun e he => hes e (.tail _ he)) ?_
    rcases h with h | h
    · exact .inl (clear_edit_of_clear (hes e (.head _)) h)
    · rcases List.mem_cons.mp h with rfl | h
      · exact .inl rfl
      · exact .inr h

end Window

namespace Buffers

open Painting

variable {b : Buffers} {id : WindowId} {es : List (WindowId × Edit)} {row : Nat}

/-- Whether a line of a window waits to be drawn. -/
def isDirty (b : Buffers) (id : WindowId) (row : Nat) : Bool := (b.window? id).any (·.isDirty row)

theorem forall_addressed {P : Edit → Prop} (h : ∀ p ∈ es, P p.2) : ∀ e ∈ addressed id es, P e := by
  intro e he
  obtain ⟨p, hp, he⟩ := List.mem_filterMap.mp he
  split at he <;> cases he
  exact h p hp

theorem isDirty_changeAll (hes : ∀ p ∈ es, p.2 ≠ .markClean) (h : b.isDirty id row = true) :
    (b.changeAll es).isDirty id row = true := by
  obtain ⟨w, hw, hdirty⟩ := (Option.any_eq_true ..).mp h
  rw [isDirty, window?_changeAll, hw]
  exact Window.isDirty_edits (forall_addressed hes) hdirty

theorem asksForClear_changeAll (hes : ∀ p ∈ es, p.2.isWriting = true) :
    asksForClear (b.changeAll es) id = asksForClear b id := by
  rw [asksForClear, asksForClear, window?_changeAll]
  cases b.window? id with
  | none => rfl
  | some w => exact Window.clear_edits (forall_addressed hes)

theorem asksForClear_changeAll_of_clear (hes : ∀ p ∈ es, p.2 ≠ .setClear false)
    (h : asksForClear b id = true ∨ (id, .setClear true) ∈ es ∧ (b.window? id).isSome) :
    asksForClear (b.changeAll es) id = true := by
  have hwindow : ∃ w, b.window? id = some w ∧ (w.clear = true ∨ .setClear true ∈ addressed id es) := by
    rcases h with h | ⟨hmem, hlive⟩
    · obtain ⟨w, hw, hclear⟩ := (Option.any_eq_true ..).mp h
      exact ⟨w, hw, .inl hclear⟩
    · obtain ⟨w, hw⟩ := Option.isSome_iff_exists.mp hlive
      exact ⟨w, hw, .inr (List.mem_filterMap.mpr ⟨_, hmem, if_pos rfl⟩)⟩
  obtain ⟨w, hw, hclear⟩ := hwindow
  rw [asksForClear, window?_changeAll, hw]
  exact Window.clear_edits_of_clear (forall_addressed hes) hclear

end Buffers

end TerminalSession
