import TerminalSession.Proofs.Action.Keeps

/-!
# How an action can fail

`Fails P x` says that the action `x`, if it fails at all, does so for a cause of which `P` holds. An
action that fails for no cause at all succeeds (`Fails.exec_ok`).
-/

namespace TerminalSession.Action

variable {σ ε δ α β : Type}

/-- All failures have causes of one kind. -/
def Fails (P : ε → Prop) (x : Action σ ε α) : Prop :=
  ∀ s s' e, exec x s = (.error e, s') → P e

namespace Fails

variable {P Q : ε → Prop}

theorem pure (a : α) : Fails P (pure a : Action σ ε α) := fun _ _ _ h => by cases h

theorem modify (f : σ → σ) : Fails P (modify f : Action σ ε PUnit) := fun _ _ _ h => by cases h

theorem set (s : σ) : Fails P (set s : Action σ ε PUnit) := fun _ _ _ h => by cases h

theorem attempt (x : Action σ δ α) : Fails P (attempt x : Action σ ε (Except δ α)) :=
  fun _ _ _ h => by cases h

theorem throw {e : ε} (h : P e) : Fails P (throw e : Action σ ε α) := by
  intro s s' e' he
  cases he
  exact h

theorem bind {x : Action σ ε α} {f : α → Action σ ε β} (hx : Fails P x)
    (hf : ∀ a, Fails P (f a)) : Fails P (x >>= f) := by
  intro s s' e h
  rw [exec_bind] at h
  rcases hr : exec x s with ⟨e' | a, t⟩ <;> rw [hr] at h
  · cases h
    exact hx s s' e hr
  · exact hf a t s' e h

theorem get_bind {f : σ → Action σ ε α} (h : ∀ s, Fails P (f s)) : Fails P (get >>= f) :=
  .bind (fun _ _ _ h => by cases h) h

theorem attempt_bind {x : Action σ δ α} {f : Except δ α → Action σ ε β}
    (hok : ∀ a, Fails P (f (.ok a))) (herror : ∀ e, Fails P (f (.error e))) :
    Fails P (Action.attempt x >>= f) := by
  refine .bind (.attempt x) fun r => ?_
  cases r with
  | ok a => exact hok a
  | error e => exact herror e

theorem ite (c : Prop) [Decidable c] {x y : Action σ ε α} (hx : Fails P x) (hy : Fails P y) :
    Fails P (if c then x else y) := by
  split
  · exact hx
  · exact hy

theorem mapError {Q : δ → Prop} {x : Action σ ε α} {f : ε → δ} (h : ∀ e, Q (f e)) :
    Fails Q (mapError f x) := by
  intro s s' e he
  rw [exec_mapError] at he
  cases hr : (exec x s).1 with
  | ok a =>
    rw [hr] at he
    cases he
  | error e' =>
    rw [hr] at he
    cases he
    exact h e'

theorem forM {f : α → Action σ ε PUnit} (h : ∀ a, Fails P (f a)) (l : List α) :
    Fails P (l.forM f) := by
  induction l with
  | nil => exact .pure _
  | cons a l ih => exact .bind (h a) fun _ => ih

theorem mono {x : Action σ ε α} (h : Fails P x) (hPQ : ∀ e, P e → Q e) : Fails Q x :=
  fun s s' e he => hPQ e (h s s' e he)

/-- An action that cannot fail succeeds. -/
theorem exec_ok {x : Action σ ε α} (h : Fails (fun _ => False) x) (s : σ) :
    ∃ a s', exec x s = (.ok a, s') := by
  rcases hr : exec x s with ⟨e | a, s'⟩
  · exact (h s s' e hr).elim
  · exact ⟨a, s', rfl⟩

theorem of_bind {x : Action σ ε α} {f : α → Action σ ε β} (hx : Fails (fun _ => False) x)
    {s s' : σ} {r : Except ε β} (h : exec (x >>= f) s = (r, s')) :
    ∃ a t, exec x s = (.ok a, t) ∧ exec (f a) t = (r, s') := by
  obtain ⟨a, t, ht⟩ := hx.exec_ok s
  rw [exec_bind_ok ht] at h
  exact ⟨a, t, ht, h⟩

end Fails

end TerminalSession.Action
