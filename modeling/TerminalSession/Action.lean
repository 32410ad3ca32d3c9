/-!
# Actions

An `Action σ ε α` works on a state `σ` and either answers with an `α` or fails with a cause `ε`.
What it has done to the state before a failure stays done: a failed call on a terminal or on a set
of windows is visible afterwards, so a failure does not wind the state back.

`Action.exec` runs an action, and the lemmas below say what it gives for each way of building one.
-/

namespace TerminalSession

/-- A computation on a state that may fail; its effects up to the failure stay. -/
abbrev Action (σ ε α : Type) : Type := ExceptT ε (StateM σ) α

namespace Action

variable {σ τ ε δ α β : Type}

/-- The outcome of an action and the state it leaves. -/
def exec (x : Action σ ε α) (s : σ) : Except ε α × σ := x s

/-- The action that computes an outcome and a new state from the state it finds. -/
def ofFn (f : σ → Except ε α × σ) : Action σ ε α := f

/-- A step that leaves the state as it was when it fails. -/
def ofStep (f : σ → Except ε (α × σ)) : Action σ ε α :=
  ofFn fun s => match f s with
    | .ok (a, s') => (.ok a, s')
    | .error e => (.error e, s)

/-- Runs an action on a part of the state: `get` reads the part and `put` writes it back. -/
def zoom (get : τ → σ) (put : σ → τ → τ) (x : Action σ ε α) : Action τ ε α :=
  ofFn fun t => let (r, s) := exec x (get t); (r, put s t)

/-- Names the cause of a failure in the words of the caller. -/
def mapError (f : ε → δ) (x : Action σ ε α) : Action σ δ α :=
  ofFn fun s => let (r, s') := exec x s; (r.mapError f, s')

/-- Turns a failure into an answer, so that the caller can go on. -/
def attempt (x : Action σ ε α) : Action σ δ (Except ε α) :=
  ofFn fun s => let (r, s') := exec x s; (.ok r, s')

/-- Runs `x`; if it fails, runs `undo` on what it left and fails with the same cause. -/
def onFailure (x : Action σ ε α) (undo : σ → σ) : Action σ ε α :=
  ofFn fun s => match exec x s with
    | (.ok a, s') => (.ok a, s')
    | (.error e, s') => (.error e, undo s')

@[simp] theorem exec_ofFn (f : σ → Except ε α × σ) (s : σ) : exec (ofFn f) s = f s := rfl

@[simp] theorem exec_pure (a : α) (s : σ) : exec (pure a : Action σ ε α) s = (.ok a, s) := rfl

@[simp] theorem exec_throw (e : ε) (s : σ) :
    exec (throw e : Action σ ε α) s = (.error e, s) := rfl

@[simp] theorem exec_get (s : σ) : exec (get : Action σ ε σ) s = (.ok s, s) := rfl

@[simp] theorem exec_set (s' s : σ) : exec (set s' : Action σ ε PUnit) s = (.ok ⟨⟩, s') := rfl

@[simp] theorem exec_modify (f : σ → σ) (s : σ) :
    exec (modify f : Action σ ε PUnit) s = (.ok ⟨⟩, f s) := rfl

theorem exec_bind (x : Action σ ε α) (f : α → Action σ ε β) (s : σ) :
    exec (x >>= f) s = match exec x s with
      | (.ok a, s') => exec (f a) s'
      | (.error e, s') => (.error e, s') := by
  show (ExceptT.bind x f) s = _
  simp only [ExceptT.bind, ExceptT.mk, bind, StateT.bind, exec]
  rcases x s with ⟨_ | _, _⟩ <;> rfl

/-- An action after one that succeeds goes on from the state it left. -/
theorem exec_bind_ok {x : Action σ ε α} {f : α → Action σ ε β} {s s' : σ} {a : α}
    (h : exec x s = (.ok a, s')) : exec (x >>= f) s = exec (f a) s' := by
  rw [exec_bind, h]

/-- Nothing runs after a failure. -/
theorem exec_bind_error {x : Action σ ε α} {f : α → Action σ ε β} {s s' : σ} {e : ε}
    (h : exec x s = (.error e, s')) : exec (x >>= f) s = (.error e, s') := by
  rw [exec_bind, h]

@[simp] theorem exec_zoom (get : τ → σ) (put : σ → τ → τ) (x : Action σ ε α) (t : τ) :
    exec (zoom get put x) t = ((exec x (get t)).1, put (exec x (get t)).2 t) := rfl

@[simp] theorem exec_mapError (f : ε → δ) (x : Action σ ε α) (s : σ) :
    exec (mapError f x) s = ((exec x s).1.mapError f, (exec x s).2) := rfl

@[simp] theorem exec_attempt (x : Action σ ε α) (s : σ) :
    exec (attempt x : Action σ δ (Except ε α)) s = (.ok (exec x s).1, (exec x s).2) := rfl

end Action

end TerminalSession
