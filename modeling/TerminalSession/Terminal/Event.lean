import TerminalSession.Terminal.Error
import TerminalSession.Text.Quoted

/-!
# Log entries

A log entry has a level, a text and named fields. Terminals and screens report what happens to them
as events of their own types, and each such type says how its events read in a log.
-/

namespace TerminalSession

/-- How much an entry matters. -/
inductive Level
  | debug
  | info
  | warn
  deriving DecidableEq, Repr

/-- One line of a log. -/
structure LogEntry where
  level : Level
  text : String
  fields : List (String × String) := []
  deriving DecidableEq, Repr

/-- What a terminal reports. -/
inductive TerminalEvent
  | opening (args : List String) (alternateScreen : Bool)
  | reopening
  | sizeUnknown (cause : SystemError)
  | sizeNotSet (cause : SystemError)
  deriving DecidableEq, Repr

def TerminalEvent.entry : TerminalEvent → LogEntry
  | .opening args alternateScreen =>
    { level := .debug
      text := "opening terminal"
      fields := [("args", Quoted.encodeList args), ("alternate_screen", toString alternateScreen)] }
  | .reopening => { level := .debug, text := "reopening terminal" }
  | .sizeUnknown cause =>
    { level := .warn, text := "failed to query terminal size: " ++ cause.message }
  | .sizeNotSet cause => { level := .debug, text := "SetSize failed: " ++ cause.message }

end TerminalSession
