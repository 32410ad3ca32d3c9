import TerminalSession.Proofs.Screen.Life

/-!
# The conduct of an application

A `Rule` knows the windows of a session by their ids alone. A `Conduct` knows which window is which,
so it can say that an application draws into some of them and leaves others alone. `Conducts` says
that it does so in all of a life, as `Obeys` does for a rule.
-/

namespace TerminalSession

open TerminalSession.Action

/-- Which changes the application makes to an engine with these windows of the session. -/
abbrev Conduct : Type := WindowSet → Buffers → Buffers → Prop

namespace Life

variable {T : Type} [Terminal T] {P P' : Conduct} {r : Life T Buffers} {ms ms' : List (Move T Buffers)}

/-- Whether what the application does in a move is as the conduct has it. What it does to an engine
without a session is free. -/
def Permits (P : Conduct) (r : Life T Buffers) : Move T Buffers → Prop
  | .call (.create args) =>
    ∀ s session, exec (Call.create args).action r.screen = (.ok (), s) → s.session = some session →
      P session.windows (r.screen.interior.cleared.built session.layout).engine s.engine
  | .engine f =>
    ∀ session, r.screen.session = some session →
      P session.windows r.screen.engine (f r.screen.engine)
  | _ => True

/-- Whether all moves of a life are as asked for, each where it is made. -/
def Throughout (Q : Life T Buffers → Move T Buffers → Prop) :
    Life T Buffers → List (Move T Buffers) → Prop
  | _, [] => True
  | r, m :: ms => Q r m ∧ Throughout Q (r.move m) ms

/-- Whether the application behaves in all moves as the conduct has it. -/
abbrev Conducts (P : Conduct) : Life T Buffers → List (Move T Buffers) → Prop :=
  Throughout (Permits P)

section

variable {Q : Life T Buffers → Move T Buffers → Prop}

theorem throughout_append :
    Throughout Q r (ms ++ ms') ↔ Throughout Q r ms ∧ Throughout Q (r.moves ms) ms' := by
  induction ms generalizing r with
  | nil => exact ⟨fun h => ⟨trivial, h⟩, And.right⟩
  | cons m ms ih => exact (and_congr_right fun _ => ih).trans and_assoc.symm

/-- What every such move preserves holds in the end. -/
theorem Throughout.preserves {I : Life T Buffers → Prop} (h : Throughout Q r ms)
    (hmove : ∀ r m, Q r m → I r → I (r.move m)) (hr : I r) : I (r.moves ms) := by
  induction ms generalizing r with
  | nil => exact hr
  | cons m ms ih => exact ih h.2 (hmove r m h.1 hr)

end

/-- An application that obeys a rule behaves as the rule has it. -/
theorem conducts_of_obeys {R : Rule} (hR : ∀ windows b b', R windows.all b b' → P windows b b')
    (h : Obeys R r ms) : Conducts P r ms := by
  induction ms generalizing r with
  | nil => trivial
  | cons m ms ih =>
    refine ⟨?_, ih h.2⟩
    have hfirst := h.1
    cases m with
    | call c =>
      cases c with
      | create args => exact fun s session hc hs => hR _ _ _ (hfirst s session hc hs)
      | _ => trivial
    | engine f =>
      intro session hs
      rw [Allows, windowIds_of_some (i := r.screen.interior) hs] at hfirst
      exact hR _ _ _ hfirst
    | _ => trivial

end Life

end TerminalSession
