import TerminalSession.Action
import TerminalSession.Terminal.Event

/-!
# Terminals

What a screen needs of a terminal: taking it over and giving it back, its size, the modes it was in
before, and the shape of its cursor. `Headless` is a terminal that exists in memory only, `Tty` is
one driven by control sequences.
-/

namespace TerminalSession

/-- The shape of the cursor. -/
inductive CursorShape
  | default
  | blinkingBlock
  | steadyBlock
  | blinkingUnderline
  | steadyUnderline
  | blinkingBar
  | steadyBar
  deriving DecidableEq, Repr, Inhabited

namespace CursorShape

def all : List CursorShape :=
  [.default, .blinkingBlock, .steadyBlock, .blinkingUnderline, .steadyUnderline, .blinkingBar,
    .steadyBar]

def name : CursorShape → String
  | .default => "default"
  | .blinkingBlock => "blinking-block"
  | .steadyBlock => "steady-block"
  | .blinkingUnderline => "blinking-underline"
  | .steadyUnderline => "steady-underline"
  | .blinkingBar => "blinking-bar"
  | .steadyBar => "steady-bar"

def ofName? (name : String) : Option CursorShape := all.find? (·.name == name)

theorem ofName?_name (shape : CursorShape) : ofName? shape.name = some shape := by
  cases shape <;> rfl

end CursorShape

/-- A terminal that a screen can run on. -/
class Terminal (T : Type) where
  /-- Takes the terminal over and puts it into the program's mode. -/
  acquire : List String → Action T TerminalError Unit
  /-- Takes the terminal over again after `release`. -/
  reacquire : Action T TerminalError Unit
  /-- Gives the terminal back. -/
  release : Action T TerminalError Unit
  /-- The number of rows. Anything below 1 means that the terminal does not know. -/
  rows : StateM T Int
  /-- The number of columns. Anything below 1 means that the terminal does not know. -/
  columns : StateM T Int
  /-- Asks for another size; the terminal may grant a different one. -/
  resize : Nat → Nat → Action T TerminalError Unit
  /-- Remembers the mode the shell had. -/
  saveShellMode : T → T
  /-- Remembers the mode the program uses. -/
  saveProgramMode : T → T
  /-- The shape of the cursor. -/
  cursorShape : T → CursorShape
  /-- Gives the cursor a shape. -/
  setCursorShape : CursorShape → Action T TerminalError Unit
  /-- The name of the platform. -/
  systemName : T → String
  /-- What the terminal has reported and nobody has collected yet. -/
  events : T → Array TerminalEvent
  /-- Forgets what has been reported. -/
  forgetEvents : T → T

end TerminalSession
