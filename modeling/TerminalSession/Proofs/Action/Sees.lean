import TerminalSession.Proofs.Action.Coupled

/-!
# What an action goes by

`Sees view x` says that the action `x` goes by nothing but the part `view` of the state: from states
that agree there it comes to the same outcome, and it leaves states that agree there. So it is
coupled with itself at such states.
-/

namespace TerminalSession.Action

variable {σ ε δ α β γ : Type}

def Sees (view : σ → γ) (x : Action σ ε α) : Prop :=
  ∀ s s', view s' = view s →
    (exec x s').1 = (exec x s).1 ∧ view (exec x s').2 = view (exec x s).2

namespace Sees

variable {view : σ → γ}

theorem pure (a : α) : Sees view (pure a : Action σ ε α) := Coupled.pure a

theorem throw_bind (e : ε) (f : α → Action σ ε β) :
    Sees view ((throw e : Action σ ε α) >>= f) := Coupled.throw_bind e f f

theorem bind {x : Action σ ε α} {f : α → Action σ ε β} (hx : Sees view x)
    (hf : ∀ a, Sees view (f a)) : Sees view (x >>= f) := Coupled.bind hx hf

theorem ite (c : Prop) [Decidable c] {x y : Action σ ε α} (hx : Sees view x) (hy : Sees view y) :
    Sees view (if c then x else y) := Coupled.ite c hx hy

theorem mapError {x : Action σ ε α} (h : Sees view x) (f : ε → δ) : Sees view (mapError f x) :=
  Coupled.mapError h f

end Sees

end TerminalSession.Action
