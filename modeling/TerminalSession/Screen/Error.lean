import TerminalSession.Label.Strip
import TerminalSession.Layout
import TerminalSession.Terminal.Error

/-!
# Screen errors

Why a screen refuses a call. A cause that comes from a terminal, an engine or the soft labels is
kept inside, so that the chain of causes can be told.
-/

namespace TerminalSession

/-- The most reserved lines that may be waiting for a session. -/
def maxReservedLines : Nat := 5

/-- Why a screen refuses a call. -/
inductive ScreenError
  | platformOpen (cause : TerminalError)
  | terminalTooSmall (rows cols : Nat)
  | bufferAllocation (cause : WindowError)
  | resizeUnsupported (cause : TerminalError)
  | noActiveSession
  | alreadyActive
  | tooManyReservedLines
  | softLabels (cause : LabelError)
  deriving DecidableEq, Repr

namespace ScreenError

def message : ScreenError → String
  | .platformOpen cause => "unable to open terminal: " ++ cause.message
  | .terminalTooSmall rows cols => s!"terminal too small: {rows}x{cols} (need at least 2x2)"
  | .bufferAllocation cause => "failed to allocate screen buffer: " ++ cause.message
  | .resizeUnsupported cause => "terminal cannot be resized: " ++ cause.message
  | .noActiveSession => "no active session"
  | .alreadyActive => "a session is already active"
  | .tooManyReservedLines => s!"at most {maxReservedLines} lines can be ripped off"
  | .softLabels cause => "soft label keys: " ++ cause.message

/-- A terminal that cannot be shared out is too small. -/
def ofLayout : LayoutError → ScreenError
  | .tooSmall rows cols => .terminalTooSmall rows cols

end ScreenError

def TerminalError.causes : TerminalError → List String
  | .io cause => [cause.message]
  | _ => []

/-- The messages of the causes behind a screen error, the nearest first. -/
def ScreenError.causes : ScreenError → List String
  | .platformOpen cause | .resizeUnsupported cause => cause.message :: cause.causes
  | .bufferAllocation cause => [cause.message]
  | .softLabels cause => [cause.message]
  | _ => []

end TerminalSession
