/-!
# Terminal errors

What can go wrong between a program and the system it runs on, and between a screen and its
terminal. Causes are values; their wording is in `message`.
-/

namespace TerminalSession

/-- Why the system refuses an operation on a file or a device. -/
inductive SystemError
  | notFound
  | noSuchDevice
  | fileExists
  | notDirectory
  | isDirectory
  | noSpace
  | malformedText
  /-- A failure arranged beforehand for the named call. -/
  | scripted (call : String)
  deriving DecidableEq, Repr

def SystemError.message : SystemError → String
  | .notFound => "No such file or directory (os error 2)"
  | .noSuchDevice => "No such device or address (os error 6)"
  | .fileExists => "File exists (os error 17)"
  | .notDirectory => "Not a directory (os error 20)"
  | .isDirectory => "Is a directory (os error 21)"
  | .noSpace => "No space left on device (os error 28)"
  | .malformedText => "stream did not contain valid UTF-8"
  | .scripted call => s!"scripted {call} failure"

/-- Why a terminal cannot be had. -/
inductive Refusal
  | alreadyOpen
  | refused
  deriving DecidableEq, Repr

def Refusal.message : Refusal → String
  | .alreadyOpen => "terminal already open"
  | .refused => "headless terminal refused"

/-- Why a terminal refuses a call. -/
inductive TerminalError
  | io (cause : SystemError)
  | unavailable (why : Refusal)
  | invalidSize (rows cols : Int)
  | resizeUnsupported
  deriving DecidableEq, Repr

def TerminalError.message : TerminalError → String
  | .io cause => "terminal I/O failed: " ++ cause.message
  | .unavailable why => "terminal unavailable: " ++ why.message
  | .invalidSize rows cols => s!"terminal reported invalid size {rows}x{cols}"
  | .resizeUnsupported => "programmatic resize is not supported"

end TerminalSession
