import TerminalSession.Config.Home
import TerminalSession.Demo.Run

/-!
# The demo program

The terminal is described by the variables `LINES` and `COLUMNS`: with both, the demo runs on a
terminal of that size on which the standard input is typed, and what it writes to the terminal goes
to the standard output. Without them there is no terminal.
-/

namespace TerminalSession

def userConfig : IO (Option ConfigPlace) := do
  match Config.directory? (← IO.getEnv "USERPROFILE") (← IO.getEnv "HOME") with
  | none => return none
  | some directory =>
    match ← (IO.FS.readBinFile (Config.join directory "config.toml")).toBaseIO with
    | .ok bytes => return some (.file bytes.toList)
    | .error _ => return some .missing

def userDevice : IO (Option Device) := do
  let number (name : String) : IO (Option Nat) := return (← IO.getEnv name).bind String.toNat?
  match ← number "LINES", ← number "COLUMNS" with
  | some rows, some cols => return some { rows, cols }
  | _, _ => return none

end TerminalSession

open TerminalSession

def main (args : List String) : IO UInt32 := do
  let config := Config.load (← userConfig)
  let device ← userDevice
  let typed ← if device.isSome then (← IO.getStdin).readToEnd else pure ""
  let outcome := Demo.run args config device typed
  IO.print outcome.stdout
  IO.eprint outcome.stderr
  return outcome.code.toUInt32
