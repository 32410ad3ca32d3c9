import TerminalSession.Action
import TerminalSession.Window.Edit

/-!
# Window engines

An engine owns windows and hands out ids for them. The screen works with any engine; `Buffers` is
the one that keeps its windows in memory, and `Faulty` makes any engine fail at a chosen call.
-/

namespace TerminalSession

abbrev WindowId : Type := Nat

/-- Why an engine refuses a call. -/
inductive WindowError
  | invalidSize (rows cols : Nat)
  | unknownWindow (id : WindowId)
  | outOfMemory (requested available : Nat)
  deriving DecidableEq, Repr

def WindowError.message : WindowError → String
  | .invalidSize rows cols => s!"invalid window size {rows}x{cols}"
  | .unknownWindow id => s!"unknown window {id}"
  | .outOfMemory requested available =>
    s!"out of buffer memory: {requested} cells requested, {available} available"

/-- What a screen needs of the owner of its windows. -/
class WindowEngine (E : Type) where
  /-- Makes a window and answers its id. -/
  create : Rect → Action E WindowError WindowId
  /-- Changes a window. -/
  edit : WindowId → Edit → Action E WindowError Unit
  /-- Releases a window. -/
  destroy : WindowId → Action E WindowError Unit

end TerminalSession
