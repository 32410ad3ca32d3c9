import TerminalSession.Action

/-!
# What an action leaves alone

`Keeps view x` says that the action `x` leaves the part `view` of the state as it finds it, whether
it succeeds or fails. The ways of building actions keep what their parts keep, so that an action is
seen to keep a part of the state without being run.
-/

namespace TerminalSession.Action

variable {σ ε δ α β γ : Type}

@[simp] theorem exec_ite (c : Prop) [Decidable c] (x y : Action σ ε α) (s : σ) :
    exec (if c then x else y) s = if c then exec x s else exec y s := by
  split <;> rfl

theorem exec_bind_unit (x : Action σ ε α) (s : σ) :
    exec (x >>= fun _ => pure () : Action σ ε Unit) s =
      ((exec x s).1.map fun _ => (), (exec x s).2) := by
  rw [exec_bind]
  rcases exec x s with ⟨_ | _, _⟩ <;> rfl

/-- An action that succeeds has run through all its parts. -/
theorem of_exec_bind_ok {x : Action σ ε α} {f : α → Action σ ε β} {s s' : σ} {b : β}
    (h : exec (x >>= f) s = (.ok b, s')) :
    ∃ a t, exec x s = (.ok a, t) ∧ exec (f a) t = (.ok b, s') := by
  rw [exec_bind] at h
  rcases hx : exec x s with ⟨_ | a, t⟩
  · rw [hx] at h
    cases h
  · rw [hx] at h
    exact ⟨a, t, rfl, h⟩

/-- Nothing is done to the part `view` of the state. -/
def Keeps (view : σ → γ) (x : Action σ ε α) : Prop := ∀ s, view (exec x s).2 = view s

namespace Keeps

variable {view : σ → γ}

/-- What is kept is found again after a run. -/
theorem of_exec {x : Action σ ε α} (h : Keeps view x) {s s' : σ} {r : Except ε α}
    (hx : exec x s = (r, s')) : view s' = view s := by
  have := h s
  rwa [hx] at this

theorem pure (a : α) : Keeps view (pure a : Action σ ε α) := fun _ => rfl

theorem throw_bind (e : ε) (f : α → Action σ ε β) :
    Keeps view ((throw e : Action σ ε α) >>= f) := fun _ => rfl

theorem throw (e : ε) : Keeps view (throw e : Action σ ε α) := fun _ => rfl

theorem modify {f : σ → σ} (h : ∀ s, view (f s) = view s) :
    Keeps view (modify f : Action σ ε PUnit) := h

theorem bind {x : Action σ ε α} {f : α → Action σ ε β} (hx : Keeps view x)
    (hf : ∀ a, Keeps view (f a)) : Keeps view (x >>= f) := by
  intro s
  have h := hx s
  rw [exec_bind]
  rcases hr : exec x s with ⟨_ | a, s'⟩ <;> rw [hr] at h
  · exact h
  · exact (hf a s').trans h

theorem get_bind {f : σ → Action σ ε α} (h : ∀ s, view (exec (f s) s).2 = view s) :
    Keeps view (get >>= f) := by
  intro s
  rw [exec_bind_ok (exec_get s)]
  exact h s

theorem get : Keeps view (get : Action σ ε σ) := fun _ => rfl

theorem ite (c : Prop) [Decidable c] {x y : Action σ ε α} (hx : Keeps view x)
    (hy : Keeps view y) : Keeps view (if c then x else y) := by
  split
  · exact hx
  · exact hy

theorem mapError {x : Action σ ε α} (h : Keeps view x) (f : ε → δ) :
    Keeps view (mapError f x) := h

theorem attempt {x : Action σ ε α} (h : Keeps view x) :
    Keeps view (attempt x : Action σ δ (Except ε α)) := h

theorem attempt_bind {x : Action σ ε α} {f : Except ε α → Action σ δ β} (hx : Keeps view x)
    (hok : ∀ a, Keeps view (f (.ok a))) (herror : ∀ e, Keeps view (f (.error e))) :
    Keeps view (Action.attempt x >>= f) := by
  refine .bind (.attempt hx) fun r => ?_
  cases r with
  | ok a => exact hok a
  | error e => exact herror e

theorem onFailure {x : Action σ ε α} {undo : σ → σ} (hx : Keeps view x)
    (hundo : ∀ s, view (undo s) = view s) : Keeps view (onFailure x undo) := by
  intro s
  have h := hx s
  simp only [Action.onFailure, exec_ofFn]
  rcases hr : exec x s with ⟨_ | a, s'⟩ <;> rw [hr] at h
  · exact (hundo s').trans h
  · exact h

theorem forM {f : α → Action σ ε PUnit} (h : ∀ a, Keeps view (f a)) (l : List α) :
    Keeps view (l.forM f) := by
  induction l with
  | nil => exact .pure _
  | cons a l ih => exact .bind (h a) fun _ => ih

end Keeps

end TerminalSession.Action
