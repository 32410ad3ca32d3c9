import TerminalSession.Action
import TerminalSession.Cell
import TerminalSession.Config.Basic
import TerminalSession.Config.Decode
import TerminalSession.Config.Home
import TerminalSession.Demo.CommandLine
import TerminalSession.Demo.Run
import TerminalSession.Engine.Basic
import TerminalSession.Engine.Buffers
import TerminalSession.Engine.Faulty
import TerminalSession.Input.Basic
import TerminalSession.Input.Parameters
import TerminalSession.Input.Recognize
import TerminalSession.Label.Fit
import TerminalSession.Label.Format
import TerminalSession.Label.Strip
import TerminalSession.Layout
import TerminalSession.Main
import TerminalSession.Paint
import TerminalSession.Proofs.Action.Coupled
import TerminalSession.Proofs.Action.Fails
import TerminalSession.Proofs.Action.Follows
import TerminalSession.Proofs.Action.Keeps
import TerminalSession.Proofs.Action.Renames
import TerminalSession.Proofs.Action.Sees
import TerminalSession.Proofs.Config.Describing
import TerminalSession.Proofs.Config.RoundTrip
import TerminalSession.Proofs.Engine.Budget
import TerminalSession.Proofs.Engine.Changes
import TerminalSession.Proofs.Engine.Printable
import TerminalSession.Proofs.Engine.Resizing
import TerminalSession.Proofs.Engine.Room
import TerminalSession.Proofs.Engine.Shifted
import TerminalSession.Proofs.Engine.Store
import TerminalSession.Proofs.Engine.Windows
import TerminalSession.Proofs.Label.Drawing
import TerminalSession.Proofs.Label.Justifying
import TerminalSession.Proofs.Label.Legible
import TerminalSession.Proofs.Label.Spacing
import TerminalSession.Proofs.Label.Storing
import TerminalSession.Proofs.Layout.Areas
import TerminalSession.Proofs.Layout.Partition
import TerminalSession.Proofs.Layout.Words
import TerminalSession.Proofs.Paint.Agreement
import TerminalSession.Proofs.Paint.Delivery
import TerminalSession.Proofs.Paint.Due
import TerminalSession.Proofs.Paint.Emission
import TerminalSession.Proofs.Paint.Grid
import TerminalSession.Proofs.Paint.Lines
import TerminalSession.Proofs.Paint.Marks
import TerminalSession.Proofs.Paint.ReadBack
import TerminalSession.Proofs.Paint.Room
import TerminalSession.Proofs.Paint.Shown
import TerminalSession.Proofs.Paint.Spelling
import TerminalSession.Proofs.Paint.Words
import TerminalSession.Proofs.Paint.Writing
import TerminalSession.Proofs.Screen.Addressed
import TerminalSession.Proofs.Screen.Afresh
import TerminalSession.Proofs.Screen.Answering
import TerminalSession.Proofs.Screen.Building
import TerminalSession.Proofs.Screen.Call
import TerminalSession.Proofs.Screen.Conduct
import TerminalSession.Proofs.Screen.Deciding
import TerminalSession.Proofs.Screen.Failing
import TerminalSession.Proofs.Screen.Failures
import TerminalSession.Proofs.Screen.FirstPaint
import TerminalSession.Proofs.Screen.Fitting
import TerminalSession.Proofs.Screen.Granting
import TerminalSession.Proofs.Screen.Held
import TerminalSession.Proofs.Screen.Injection
import TerminalSession.Proofs.Screen.Interior
import TerminalSession.Proofs.Screen.Labelled
import TerminalSession.Proofs.Screen.LaidOut
import TerminalSession.Proofs.Screen.Life
import TerminalSession.Proofs.Screen.Outcome
import TerminalSession.Proofs.Screen.Outline
import TerminalSession.Proofs.Screen.Ownership
import TerminalSession.Proofs.Screen.Queue
import TerminalSession.Proofs.Screen.Rearranging
import TerminalSession.Proofs.Screen.Record
import TerminalSession.Proofs.Screen.Redraw
import TerminalSession.Proofs.Screen.Regrown
import TerminalSession.Proofs.Screen.Retrying
import TerminalSession.Proofs.Screen.Serving
import TerminalSession.Proofs.Screen.Touched
import TerminalSession.Proofs.Screen.Turn
import TerminalSession.Proofs.Screen.Watching
import TerminalSession.Proofs.Terminal.Encoding
import TerminalSession.Proofs.Terminal.Scanning
import TerminalSession.Proofs.Terminal.Transcript
import TerminalSession.Proofs.Text.Encoding
import TerminalSession.Proofs.Text.Fitting
import TerminalSession.Proofs.Text.Trimming
import TerminalSession.Proofs.Toml.Decimals
import TerminalSession.Proofs.Toml.Lines
import TerminalSession.Proofs.Tty.Balance
import TerminalSession.Proofs.Tty.Entry
import TerminalSession.Proofs.Tty.ProgramMode
import TerminalSession.Proofs.Tty.Reading
import TerminalSession.Proofs.Tty.ShellMode
import TerminalSession.Proofs.Tty.Use
import TerminalSession.Proofs.Window.Bounds
import TerminalSession.Proofs.Window.Change
import TerminalSession.Proofs.Window.Dirty
import TerminalSession.Proofs.Window.Pairs
import TerminalSession.Proofs.Window.Pieces
import TerminalSession.Proofs.Window.Regrown
import TerminalSession.Proofs.Window.Shape
import TerminalSession.Proofs.Window.Tracking
import TerminalSession.Proofs.Window.Whole
import TerminalSession.Proofs.Window.WholeLine
import TerminalSession.Proofs.Window.Writing
import TerminalSession.Screen.Basic
import TerminalSession.Screen.Create
import TerminalSession.Screen.Error
import TerminalSession.Screen.Event
import TerminalSession.Screen.Resize
import TerminalSession.Screen.Suspend
import TerminalSession.Session
import TerminalSession.Sink
import TerminalSession.Terminal.Basic
import TerminalSession.Terminal.Error
import TerminalSession.Terminal.Event
import TerminalSession.Terminal.Headless
import TerminalSession.Terminal.Sequence
import TerminalSession.Terminal.Tty
import TerminalSession.Text.Blank
import TerminalSession.Text.Columns
import TerminalSession.Text.Quoted
import TerminalSession.Text.Unseen
import TerminalSession.Text.Utf8
import TerminalSession.Toml.Character
import TerminalSession.Toml.Document
import TerminalSession.Toml.Literal
import TerminalSession.Toml.Number
import TerminalSession.Toml.Table
import TerminalSession.Toml.Text
import TerminalSession.Toml.Time
import TerminalSession.Toml.Value
import TerminalSession.Version
import TerminalSession.Window.Basic
import TerminalSession.Window.Damage
import TerminalSession.Window.Edit
