import TerminalSession.Layout
import TerminalSession.Terminal.Basic

/-!
# Configuration

What a user can choose about screens. Every field has a default, so a configuration that says
nothing is `{}`.
-/

namespace TerminalSession

/-- The choices about soft labels. -/
structure LabelConfig where
  enabled : Bool := false
  /-- The code of the label format. -/
  format : UInt8 := 1
  anchor : Side := .bottom
  deriving DecidableEq, Repr, Inhabited

/-- The choices about a screen. -/
structure Config where
  /-- Whether what is on the terminal stays when a session starts. -/
  preserveScreen : Bool := false
  alternateScreen : Bool := true
  /-- The shape of the cursor during a session, if it is to change. -/
  cursor : Option CursorShape := none
  labels : LabelConfig := {}
  deriving DecidableEq, Repr, Inhabited

/-- Where a label strip of so many rows goes. -/
def Config.stripPlacement (c : Config) (rows : Nat) : StripPlacement where
  rows := rows
  anchor := c.labels.anchor

end TerminalSession
