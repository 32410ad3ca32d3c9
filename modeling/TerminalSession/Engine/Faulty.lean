import TerminalSession.Engine.Basic

/-!
# Engines that fail on purpose

An engine that fails once, at a chosen call from now, and otherwise passes every call on. It shows
what a screen does when the owner of its windows lets it down half way.
-/

namespace TerminalSession

/-- An engine with a failure in store. -/
structure Faulty (E : Type) where
  engine : E
  /-- How many calls still pass before one fails; none if no failure is in store. -/
  countdown : Option Nat := none
  deriving Repr

namespace Faulty

variable {E : Type}

/-- The window that the failing call complains about. -/
def missing : WindowId := 4242

/-- Passes a call on, or fails if its turn has come. Every call counts, also one that the engine
itself refuses. -/
def call {α : Type} (x : Action E WindowError α) : Action (Faulty E) WindowError α :=
  .ofFn fun s =>
    match s.countdown with
    | some 0 => (.error (.unknownWindow missing), { s with countdown := none })
    | countdown =>
      let (r, engine) := x.exec s.engine
      (r, { engine, countdown := countdown.map (· - 1) })

instance [WindowEngine E] : WindowEngine (Faulty E) where
  create area := call (WindowEngine.create area)
  edit id e := call (WindowEngine.edit id e)
  destroy id := call (WindowEngine.destroy id)

end Faulty

end TerminalSession
