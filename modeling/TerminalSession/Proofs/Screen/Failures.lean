import TerminalSession.Proofs.Action.Fails
import TerminalSession.Screen.Create
import TerminalSession.Screen.Resize

/-!
# The causes a screen fails for

Measuring a terminal and making windows fail for few causes (`SizeError`, `BuildError`), and what
only reports its failures cannot fail at all.
-/

namespace TerminalSession.Screen

open TerminalSession.Action

/-- The causes for which a terminal cannot be shared out. -/
inductive SizeError : ScreenError → Prop
  | invalid (rows cols : Int) : SizeError (.platformOpen (.invalidSize rows cols))
  | tooSmall (rows cols : Nat) : SizeError (.terminalTooSmall rows cols)

theorem SizeError.ofLayout (cause : LayoutError) : SizeError (.ofLayout cause) := by
  cases cause
  exact .tooSmall ..

/-- The causes for which the windows of a session cannot be made. -/
inductive BuildError : ScreenError → Prop
  | size {cause : ScreenError} (h : SizeError cause) : BuildError cause
  | windows (cause : WindowError) : BuildError (.bufferAllocation cause)

variable {T E ε δ α : Type} {P : ε → Prop}

theorem report_fails (event : ScreenEvent) :
    Fails P (report event : Action (Screen T E) ε Unit) := .modify _

theorem resetLabels_fails : Fails P (resetLabels : Action (Screen T E) ε Unit) := by
  refine .get_bind fun s => .ite _ ?_ (.pure ())
  split
  · exact .set _
  · exact report_fails _

theorem discardWindow_fails [WindowEngine E] (id : WindowId) :
    Fails P (discardWindow id : Action (Screen T E) ε Unit) :=
  .attempt_bind (fun _ => .pure ()) fun _ => report_fails _

section Terminal

variable [Terminal T]

theorem onTerminal_fails {x : Action T ε α} (h : Fails P x) :
    Fails P (onTerminal x : Action (Screen T E) ε α) := by
  intro s s' e he
  simp only [onTerminal, exec_ofFn] at he
  exact h s.terminal (exec x s.terminal).2 e (Prod.ext (Prod.mk.inj he).1 rfl)

theorem releaseTerminal_fails : Fails P (releaseTerminal : Action (Screen T E) ε Unit) :=
  .attempt_bind (fun _ => .pure ()) fun _ => report_fails _

theorem restoreCursor_fails (shape : CursorShape) :
    Fails P (restoreCursor shape : Action (Screen T E) ε Unit) :=
  .attempt_bind (fun _ => .pure ()) fun _ => report_fails _

theorem shapeCursor_fails {P : ScreenError → Prop} :
    Fails P (shapeCursor : Action (Screen T E) ScreenError Unit) := by
  refine .get_bind fun s => ?_
  split
  · exact .attempt_bind (fun _ => .pure ()) fun _ => report_fails _
  · exact .pure ()

theorem measure_fails :
    Fails SizeError (measure : Action (Screen T E) ScreenError (Nat × Nat)) := by
  refine .bind (onTerminal_fails fun _ _ _ h => by cases h) fun rows => ?_
  refine .bind (onTerminal_fails fun _ _ _ h => by cases h) fun cols => ?_
  refine .ite _ (.bind (.throw (.invalid rows cols)) fun _ => ?_) ?_
  all_goals exact .ite _ (.bind (.throw (.tooSmall ..)) fun _ => .pure _) (.pure _)

theorem relayOut_fails (session : Session) :
    Fails SizeError (relayOut session : Action (Screen T E) ScreenError Layout) := by
  refine .bind measure_fails fun (rows, cols) => ?_
  dsimp only
  split
  · exact .pure _
  · exact .throw (.ofLayout _)

theorem build_fails [WindowEngine E] :
    Fails BuildError (build : Action (Screen T E) ScreenError (Layout × WindowSet)) := by
  refine .bind (measure_fails.mono fun _ => .size) fun (rows, cols) => .get_bind fun s => ?_
  dsimp only
  split
  · exact .throw (.size (.ofLayout _))
  · exact .bind (.mapError .windows) fun _ => .pure _

/-- A request for a size is refused as too small or by the terminal. -/
theorem requestSize_fails (rows cols : Nat) :
    Fails (fun e => e = .terminalTooSmall rows cols ∨ ∃ cause, e = .resizeUnsupported cause)
      (requestSize rows cols : Action (Screen T E) ScreenError Unit) := by
  have hask : Fails
      (fun e => e = .terminalTooSmall rows cols ∨ ∃ cause, e = .resizeUnsupported cause)
      (mapError .resizeUnsupported (onTerminal (Terminal.resize rows cols)) :
        Action (Screen T E) ScreenError Unit) :=
    .mapError fun cause => .inr ⟨cause, rfl⟩
  exact .ite _ (.bind (.throw (.inl rfl)) fun _ => hask) hask

variable [WindowEngine E]

/-- Destroying a session never fails. -/
theorem destroy_fails : Fails P (destroy : Action (Screen T E) ε Unit) := by
  refine .bind (report_fails _) fun _ => .get_bind fun s => ?_
  split
  · refine .bind (.set _) fun _ => .bind (.forM discardWindow_fails _) fun _ => ?_
    refine .bind (restoreCursor_fails _) fun _ => ?_
    have hrest : Fails P (do
        resetLabels
        modify ({ · with phase := .destroyed })
        report .destroyed : Action (Screen T E) ε Unit) :=
      .bind resetLabels_fails fun _ => .bind (.modify _) fun _ => report_fails _
    exact .ite _ (.bind releaseTerminal_fails fun _ => hrest) hrest
  · exact .pure ()

end Terminal

end TerminalSession.Screen
