import TerminalSession.Proofs.Action.Keeps

/-!
# Two actions on two states

`Coupled R x y` says that the actions `x` and `y`, each run on a state of its own, come to the same
outcome if their states are related by `R`, and leave states that are. The ways of building actions
are coupled if their parts are.
-/

namespace TerminalSession.Action

variable {σ τ ε δ α β : Type}

def Coupled (R : σ → τ → Prop) (x : Action σ ε α) (y : Action τ ε α) : Prop :=
  ∀ s t, R s t → (exec y t).1 = (exec x s).1 ∧ R (exec x s).2 (exec y t).2

namespace Coupled

variable {R : σ → τ → Prop}

/-- What one run comes to, the other one comes to as well. -/
theorem of_exec {x : Action σ ε α} {y : Action τ ε α} (h : Coupled R x y) {s s' : σ} {t : τ}
    (hst : R s t) {r : Except ε α} (hx : exec x s = (r, s')) :
    ∃ t', exec y t = (r, t') ∧ R s' t' := by
  obtain ⟨hresult, hrelated⟩ := h s t hst
  rw [hx] at hresult hrelated
  exact ⟨_, Prod.ext hresult rfl, hrelated⟩

theorem pure (a : α) : Coupled R (pure a : Action σ ε α) (pure a) := fun _ _ h => ⟨rfl, h⟩

theorem throw_bind (e : ε) (f : α → Action σ ε β) (g : α → Action τ ε β) :
    Coupled R ((throw e : Action σ ε α) >>= f) ((throw e : Action τ ε α) >>= g) :=
  fun _ _ h => ⟨rfl, h⟩

theorem throw (e : ε) : Coupled R (throw e : Action σ ε α) (throw e) := fun _ _ h => ⟨rfl, h⟩

theorem modify {f : σ → σ} {g : τ → τ} (h : ∀ s t, R s t → R (f s) (g t)) :
    Coupled R (modify f : Action σ ε PUnit) (modify g) := fun s t hst => ⟨rfl, h s t hst⟩

theorem bind {x : Action σ ε α} {y : Action τ ε α} {f : α → Action σ ε β} {g : α → Action τ ε β}
    (hx : Coupled R x y) (hf : ∀ a, Coupled R (f a) (g a)) : Coupled R (x >>= f) (y >>= g) := by
  intro s t hst
  rcases hr : exec x s with ⟨e | a, s'⟩
  all_goals obtain ⟨t', ht', hrelated⟩ := hx.of_exec hst hr
  · rw [exec_bind_error hr, exec_bind_error ht']
    exact ⟨rfl, hrelated⟩
  · rw [exec_bind_ok hr, exec_bind_ok ht']
    exact hf a s' t' hrelated

/-- What goes by the state as a whole has to be coupled at related states only. -/
theorem get_bind {f : σ → Action σ ε α} {g : τ → Action τ ε α}
    (h : ∀ s t, R s t → Coupled R (f s) (g t)) : Coupled R (get >>= f) (get >>= g) := by
  intro s t hst
  rw [exec_bind_ok (exec_get s), exec_bind_ok (exec_get t)]
  exact h s t hst s t hst

theorem ite (c : Prop) [Decidable c] {x x' : Action σ ε α} {y y' : Action τ ε α} (h : Coupled R x y)
    (h' : Coupled R x' y') : Coupled R (if c then x else x') (if c then y else y') := by
  split
  · exact h
  · exact h'

theorem mapError {x : Action σ ε α} {y : Action τ ε α} (h : Coupled R x y) (f : ε → δ) :
    Coupled R (mapError f x) (mapError f y) := by
  intro s t hst
  obtain ⟨hresult, hrelated⟩ := h s t hst
  exact ⟨congrArg (Except.mapError f) hresult, hrelated⟩

theorem attempt_bind {x : Action σ ε α} {y : Action τ ε α} {f : Except ε α → Action σ δ β}
    {g : Except ε α → Action τ δ β} (hx : Coupled R x y)
    (hok : ∀ a, Coupled R (f (.ok a)) (g (.ok a)))
    (herror : ∀ e, Coupled R (f (.error e)) (g (.error e))) :
    Coupled R (Action.attempt x >>= f) (Action.attempt y >>= g) := by
  have hattempt : Coupled R (Action.attempt x : Action σ δ _) (Action.attempt y) := by
    intro s t hst
    obtain ⟨hresult, hrelated⟩ := hx s t hst
    exact ⟨congrArg Except.ok hresult, hrelated⟩
  refine .bind hattempt fun r => ?_
  cases r with
  | ok a => exact hok a
  | error e => exact herror e

end Coupled

end TerminalSession.Action
