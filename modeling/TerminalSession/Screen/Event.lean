import TerminalSession.Screen.Error
import TerminalSession.Terminal.Event

/-!
# What a screen reports

The events of a screen, in the order in which they happen, with those of its terminal among them.
-/

namespace TerminalSession

/-- What a screen reports. -/
inductive ScreenEvent
  | terminal (event : TerminalEvent)
  | creating
  | createFailed (cause : ScreenError)
  | cursorNotSet (cause : TerminalError)
  | created (rows cols usableRows reserved stripRows : Nat)
  | suspending
  | resuming
  | redrawNotScheduled (cause : WindowError)
  | resizing (rows cols : Nat)
  | layoutKept (cause : ScreenError)
  | resizeFailed (rows cols : Nat) (cause : WindowError)
  | resized (rows cols usableRows : Nat)
  | destroying
  | windowNotDestroyed (id : WindowId) (cause : WindowError)
  | cursorNotRestored (cause : TerminalError)
  | terminalNotReleased (cause : TerminalError)
  | labelsNotReset (cause : LabelError)
  | destroyed
  deriving DecidableEq, Repr

def ScreenEvent.entry : ScreenEvent → LogEntry
  | .terminal event => event.entry
  | .creating => { level := .debug, text := "create() called" }
  | .createFailed cause => { level := .warn, text := "create failed: " ++ cause.message }
  | .cursorNotSet cause =>
    { level := .warn, text := "failed to set cursor shape: " ++ cause.message }
  | .created rows cols usableRows reserved stripRows =>
    { level := .info
      text := "session created"
      fields := [("rows", toString rows), ("cols", toString cols),
        ("usable_rows", toString usableRows), ("reserved", toString reserved),
        ("slk_rows", toString stripRows)] }
  | .suspending => { level := .debug, text := "suspend() called" }
  | .resuming => { level := .debug, text := "resume() called" }
  | .redrawNotScheduled cause =>
    { level := .warn, text := "failed to schedule redraw after resume: " ++ cause.message }
  | .resizing rows cols =>
    { level := .debug
      text := "resize() called"
      fields := [("new_rows", toString rows), ("new_cols", toString cols)] }
  | .layoutKept cause =>
    { level := .warn
      text := "terminal size cannot be laid out, keeping previous layout: " ++ cause.message }
  | .resizeFailed rows cols cause =>
    { level := .warn
      text := s!"resize to {rows}x{cols} failed, session unusable: " ++ cause.message }
  | .resized rows cols usableRows =>
    { level := .info
      text := "session resized"
      fields := [("rows", toString rows), ("cols", toString cols),
        ("usable_rows", toString usableRows)] }
  | .destroying => { level := .debug, text := "destroy() called" }
  | .windowNotDestroyed id cause =>
    { level := .warn, text := s!"failed to destroy window {id}: " ++ cause.message }
  | .cursorNotRestored cause =>
    { level := .warn, text := "failed to restore cursor shape: " ++ cause.message }
  | .terminalNotReleased cause =>
    { level := .warn, text := "failed to close terminal: " ++ cause.message }
  | .labelsNotReset cause =>
    { level := .warn, text := "failed to reinitialize soft labels: " ++ cause.message }
  | .destroyed => { level := .info, text := "session destroyed" }

end TerminalSession
