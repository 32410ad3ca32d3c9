import TerminalSession.Version

/-!
# The command line of the demo

What is asked for on the command line, and how a run reports its end. Of several options the first
one counts; anything else is left to the session.
-/

namespace TerminalSession.Demo

/-- What is asked for. -/
inductive Request
  | help
  | version
  | run
  deriving DecidableEq, Repr

def Request.ofArg? (arg : String) : Option Request :=
  if arg = "-h" ∨ arg = "--help" then some .help
  else if arg = "-v" ∨ arg = "--version" then some .version
  else none

def Request.ofArgs (args : List String) : Request := (args.findSome? ofArg?).getD .run

/-- How a run ended. -/
structure Outcome where
  code : Nat := 0
  stdout : String := ""
  stderr : String := ""
  deriving DecidableEq, Repr

def helpLines : List String := [
  version ++ " - terminal session lifecycle demo",
  "",
  "Usage: termscreen [OPTIONS]",
  "",
  "Options:",
  "  -v, --version         Show version",
  "  -h, --help            Show this help",
  "",
  "Keys:",
  "  s                     Suspend for two seconds, then resume",
  "  q                     Quit",
  "",
  "Configuration: ~/.termscreen/config.toml",
  "Log file:      ~/.termscreen/termscreen.log (filter with TERMSCREEN_LOG)"]

def unlines (lines : List String) : String := String.join (lines.map (· ++ "\n"))

/-- The causes of a failure as lines. Several are numbered from 0. -/
def causeLines : List String → List String
  | [] => []
  | [cause] => ["", "Caused by:", "    " ++ cause]
  | causes => "" :: "Caused by:" :: causes.zipIdx.map fun (cause, i) => s!"    {i}: " ++ cause

def failureReport (message : String) (causes : List String) : String :=
  unlines (("Error: " ++ message) :: causeLines causes)

end TerminalSession.Demo
