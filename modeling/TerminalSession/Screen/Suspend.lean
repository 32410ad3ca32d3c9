import TerminalSession.Screen.Basic

/-!
# Leaving a session

`suspend` gives the terminal back for a while and keeps every window, `resume` returns, and
`destroy` ends the session for good. Destroying never fails: what cannot be undone is reported and
left.
-/

namespace TerminalSession

namespace Screen

variable {T E ε : Type} [Terminal T] [WindowEngine E]

/-- Leaves the terminal for a while. -/
def suspend : Action (Screen T E) ScreenError Unit := do
  report .suspending
  if (← get).phase != .alive then throw .noActiveSession
  modify fun s => { s with terminal := Terminal.saveProgramMode s.terminal }
  releaseTerminal
  modify fun s =>
    { s with session := s.session.map ({ · with alive := false }), phase := .suspended }

/-- Takes the terminal over again for a session and has it drawn from scratch, since something else
was shown meanwhile. -/
def returnTo (session : Session) : Action (Screen T E) ScreenError Unit := do
  (onTerminal Terminal.reacquire).mapError .platformOpen
  if let .error cause ← (edit session.windows.physical (.setClear true)).attempt then
    report (.redrawNotScheduled cause)
  modify fun s => { s with session := some { session with alive := true }, phase := .alive }

/-- Returns to a suspended session, unless a failed resize has made it unusable. -/
def resume : Action (Screen T E) ScreenError Unit := do
  report .resuming
  let s ← get
  match s.phase, s.session with
  | .alive, _ => return
  | .suspended, some session =>
    if session.consistent then returnTo session else throw .noActiveSession
  | _, _ => throw .noActiveSession

/-- Gives up one window. A failure to do so is only reported. -/
def discardWindow (id : WindowId) : Action (Screen T E) ε Unit := do
  if let .error cause ← (onEngine (WindowEngine.destroy id)).attempt then
    report (.windowNotDestroyed id cause)

/-- Gives the cursor back the shape it had. A failure to do so is only reported. -/
def restoreCursor (shape : CursorShape) : Action (Screen T E) ε Unit := do
  if let .error cause ← (onTerminal (Terminal.setCursorShape shape)).attempt then
    report (.cursorNotRestored cause)

/-- Labels belong to a session; the next one starts with those of the configuration. -/
def resetLabels : Action (Screen T E) ε Unit := do
  let s ← get
  if s.config.labels.enabled then
    match s.labels.init s.config.labels.format with
    | .ok labels => set { s with labels }
    | .error cause => report (.labelsNotReset cause)

def destroy : Action (Screen T E) ε Unit := do
  report .destroying
  let s ← get
  if let some session := s.session then
    set { s with session := none, labels := s.labels.free }
    session.windows.all.forM discardWindow
    restoreCursor session.cursorBefore
    if session.alive then releaseTerminal
    resetLabels
    modify ({ · with phase := .destroyed })
    report .destroyed

def dropped (s : Screen T E) : Screen T E := ((destroy : Action (Screen T E) Empty Unit).exec s).2

end Screen

end TerminalSession
