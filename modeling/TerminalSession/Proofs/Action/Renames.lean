import TerminalSession.Action

/-!
# Failures in other words

`Renames f x y` says that the action `y` does what `x` does, and names the cause of a failure by `f`.
Actions that are built from such parts in one way do the same as well.
-/

namespace TerminalSession.Action

variable {σ ε δ α β : Type}

def Renames (f : ε → δ) (x : Action σ ε α) (y : Action σ δ α) : Prop :=
  ∀ s, exec y s = ((exec x s).1.mapError f, (exec x s).2)

namespace Renames

variable {f : ε → δ}

theorem modify (g : σ → σ) :
    Renames f (modify g : Action σ ε PUnit) (modify g : Action σ δ PUnit) := fun _ => rfl

theorem bind {x : Action σ ε α} {y : Action σ δ α} {g : α → Action σ ε β} {h : α → Action σ δ β}
    (hxy : Renames f x y) (hgh : ∀ a, Renames f (g a) (h a)) :
    Renames f (x >>= g) (y >>= h) := by
  intro s
  have hy := hxy s
  rcases hx : exec x s with ⟨e | a, s'⟩
  all_goals rw [hx] at hy
  · rw [exec_bind_error hx, exec_bind_error hy]
    rfl
  · rw [exec_bind_ok hx, exec_bind_ok hy]
    exact hgh a s'

theorem get_bind {g : σ → Action σ ε α} {h : σ → Action σ δ α} (hgh : ∀ s, Renames f (g s) (h s)) :
    Renames f (get >>= g) (get >>= h) := fun s => hgh s s

theorem forM {g : α → Action σ ε PUnit} {h : α → Action σ δ PUnit}
    (hgh : ∀ a, Renames f (g a) (h a)) (l : List α) : Renames f (l.forM g) (l.forM h) := by
  induction l with
  | nil => exact fun _ => rfl
  | cons a l ih => exact .bind (hgh a) fun _ => ih

end Renames

end TerminalSession.Action
