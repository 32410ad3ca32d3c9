import TerminalSession.Proofs.Action.Keeps

/-!
# Doing the same on another state

`Follows w y x` says that `y` does on the image of a state under `w` what `x` does on the state: it
comes to the same outcome, and leaves the image of what `x` leaves. The ways of building actions
follow if their parts do.
-/

namespace TerminalSession.Action

variable {σ τ ε δ α β : Type}

def Follows (w : σ → τ) (y : Action τ ε α) (x : Action σ ε α) : Prop :=
  ∀ s, exec y (w s) = ((exec x s).1, w (exec x s).2)

namespace Follows

variable {w : σ → τ}

/-- What a run comes to is found again on the image. -/
theorem of_exec {y : Action τ ε α} {x : Action σ ε α} (h : Follows w y x) {s s' : σ}
    {r : Except ε α} (hx : exec x s = (r, s')) : exec y (w s) = (r, w s') := by
  rw [h s, hx]

theorem pure (a : α) : Follows w (pure a : Action τ ε α) (pure a) := fun _ => rfl

theorem throw_bind (e : ε) (g : α → Action τ ε β) (f : α → Action σ ε β) :
    Follows w ((throw e : Action τ ε α) >>= g) ((throw e : Action σ ε α) >>= f) := fun _ => rfl

theorem throw (e : ε) : Follows w (throw e : Action τ ε α) (throw e) := fun _ => rfl

theorem modify {g : τ → τ} {f : σ → σ} (h : ∀ s, g (w s) = w (f s)) :
    Follows w (modify g : Action τ ε PUnit) (modify f) := by
  intro s
  rw [exec_modify, exec_modify, h]

theorem bind {y : Action τ ε α} {x : Action σ ε α} {g : α → Action τ ε β} {f : α → Action σ ε β}
    (hx : Follows w y x) (hf : ∀ a, Follows w (g a) (f a)) : Follows w (y >>= g) (x >>= f) := by
  intro s
  rw [exec_bind, exec_bind, hx s]
  rcases exec x s with ⟨_ | a, t⟩
  · rfl
  · exact hf a t

/-- What goes by the state as a whole follows if it does so at each state. -/
theorem get_bind {g : τ → Action τ ε α} {f : σ → Action σ ε α}
    (h : ∀ s, exec (g (w s)) (w s) = ((exec (f s) s).1, w (exec (f s) s).2)) :
    Follows w (get >>= g) (get >>= f) := by
  intro s
  rw [exec_bind_ok (exec_get _), exec_bind_ok (exec_get s)]
  exact h s

theorem ite (c : Prop) [Decidable c] {y y' : Action τ ε α} {x x' : Action σ ε α}
    (h : Follows w y x) (h' : Follows w y' x') :
    Follows w (if c then y else y') (if c then x else x') := by
  split
  · exact h
  · exact h'

theorem mapError {y : Action τ ε α} {x : Action σ ε α} (h : Follows w y x) (f : ε → δ) :
    Follows w (mapError f y) (mapError f x) := by
  intro s
  rw [exec_mapError, h s]
  rfl

theorem attempt {y : Action τ ε α} {x : Action σ ε α} (h : Follows w y x) :
    Follows w (attempt y : Action τ δ (Except ε α)) (attempt x) := by
  intro s
  rw [exec_attempt, h s]
  rfl

theorem attempt_bind {y : Action τ ε α} {x : Action σ ε α} {g : Except ε α → Action τ δ β}
    {f : Except ε α → Action σ δ β} (hx : Follows w y x) (hok : ∀ a, Follows w (g (.ok a)) (f (.ok a)))
    (herror : ∀ e, Follows w (g (.error e)) (f (.error e))) :
    Follows w (Action.attempt y >>= g) (Action.attempt x >>= f) := by
  refine .bind (.attempt hx) fun r => ?_
  cases r with
  | ok a => exact hok a
  | error e => exact herror e

theorem onFailure {y : Action τ ε α} {x : Action σ ε α} {undo' : τ → τ} {undo : σ → σ}
    (hx : Follows w y x) (hundo : ∀ s, undo' (w s) = w (undo s)) :
    Follows w (onFailure y undo') (onFailure x undo) := by
  intro s
  simp only [Action.onFailure, exec_ofFn, hx s]
  rcases exec x s with ⟨_ | a, t⟩
  · simp only [hundo]
  · rfl

theorem forM {g : α → Action τ ε PUnit} {f : α → Action σ ε PUnit} (h : ∀ a, Follows w (g a) (f a))
    (l : List α) : Follows w (l.forM g) (l.forM f) := by
  induction l with
  | nil => exact .pure _
  | cons a l ih => exact .bind (h a) fun _ => ih

end Follows

end TerminalSession.Action
