import TerminalSession.Demo.CommandLine
import TerminalSession.Input.Recognize
import TerminalSession.Paint
import TerminalSession.Screen.Create
import TerminalSession.Screen.Resize
import TerminalSession.Terminal.Tty

/-!
# The demo

A session on a terminal with a title in a reserved line, a few lines about the session in the
display, and two soft labels if labels are enabled. It is drawn once for everything the terminal
reports, until the press of a key that quits.
-/

namespace TerminalSession.Demo

abbrev DemoScreen : Type := Screen Tty Buffers

/-- Why the demo fails. -/
inductive Failure
  | screen (cause : ScreenError)
  | window (cause : WindowError)
  deriving DecidableEq, Repr

namespace Failure

def message : Failure → String
  | .screen cause => cause.message
  | .window cause => cause.message

def causes : Failure → List String
  | .screen cause => cause.causes
  | .window _ => []

end Failure

def title (cols : Nat) : String := s!" {version} ({cols} columns)"

def titleEdits (cols : Nat) : List Edit := [
  .setAttrs { styles := { inverse := true, bold := true } },
  .erase,
  .putText 0 0 (title cols)]

/-- Draws the title line. If that fails, it stays as it is. -/
def drawTitle (engine : Buffers) (window : WindowId) (cols : Nat) : Buffers :=
  (Action.exec ((titleEdits cols).forM (WindowEngine.edit window)) engine).2

def statusLines (session : Session) : List String :=
  let layout := session.layout
  [s!"terminal     {layout.terminalRows}x{layout.terminalCols}",
    s!"display      {layout.usableRows}x{layout.usableCols}",
    s!"reserved     {layout.topCount} top, {layout.bottomCount} bottom, " ++
      s!"{layout.strip.rows} soft-label rows",
    "description  " ++ session.description,
    "",
    "s: suspend   q: quit"]

def drawStatus : Action DemoScreen Failure Unit := do
  if let some session := (← get).session then
    let lines := (statusLines session).zipIdx
    let edits := .erase :: lines.map fun (line, row) => .putText (row + 1) 2 line
    (edits.forM (Screen.edit session.windows.display)).mapError .window

def refresh : Action DemoScreen Failure Unit :=
  modify fun s =>
    match s.session with
    | none => s
    | some session =>
      let (_, painting) := (paint session.windows).exec { sink := {}, buffers := s.engine }
      let (_, terminal) := (Tty.write painting.sink.taken.toList).exec s.terminal
      { s with engine := painting.buffers, terminal }

/-- Leaves the terminal for a while and comes back to it at the size it has then. -/
def pause : Action DemoScreen Failure Unit := do
  Screen.suspend.mapError .screen
  let note := "Suspended. Resuming in two seconds...\n".toList
  Action.mapError .screen (Screen.onTerminal (discard (Tty.tryWrite [.text note]).attempt))
  Screen.resume.mapError .screen
  match ← (Screen.resize 0 0).attempt with
  | .ok _ | .error (.terminalTooSmall ..) => drawStatus
  | .error cause => throw (.screen cause)

def serve : List Input.Report → Action DemoScreen Failure Unit
  | [] => pure ()
  | .press (.char 'q') :: _ | .press (.function 2) :: _ => pure ()
  | .press (.char 's') :: reports | .press (.function 1) :: reports => do
    pause
    refresh
    serve reports
  | _ :: reports => do
    refresh
    serve reports

/-- Sets the screen up, and runs a session until a key quits it or something fails. -/
def session (args : List String) (reports : List Input.Report) : Action DemoScreen Failure Unit := do
  (Screen.reserveLine .top drawTitle).mapError .screen
  if (← get).labels.isInitialized then
    (Screen.setLabel 1 "Suspend" .center).mapError .screen
    (Screen.setLabel 2 "Quit" .center).mapError .screen
  discard ((Screen.create args).mapError .screen)
  let result ← (do drawStatus; refresh; serve reports : Action DemoScreen Failure Unit).attempt
  Screen.destroy
  match result with
  | .ok () => return
  | .error cause => throw cause

def writtenText (t : Tty) : String := String.ofList (Sequence.encodeAll t.device.output.toList)

def runOn (device : Device) (config : Config) (args : List String)
    (reports : List Input.Report) : Outcome :=
  let terminal : Tty := { device, alternateScreen := config.alternateScreen }
  match Screen.new terminal {} config with
  | .error cause => { code := 1, stderr := failureReport cause.message cause.causes }
  | .ok screen =>
    let (result, screen) := (session args reports).exec screen
    let stdout := writtenText screen.dropped.terminal.drop
    match result with
    | .ok () => { stdout }
    | .error cause => { code := 1, stdout, stderr := failureReport cause.message cause.causes }

/-- What stands for a terminal when there is none: nothing can be switched to raw mode. -/
def noDevice : Device := { rows := 0, cols := 0, modeLost := true }

/-- A run of the demo: `device` is the terminal, if there is one, and `typed` what is typed on
it. -/
def run (args : List String) (config : Config) (device : Option Device) (typed : String) :
    Outcome :=
  match Request.ofArgs args with
  | .help => { stderr := unlines helpLines }
  | .version => { stderr := version ++ "\n" }
  | .run =>
    runOn (device.getD noDevice) config (programName :: args) (Input.reports (Utf8.encode typed.toList))

end TerminalSession.Demo
