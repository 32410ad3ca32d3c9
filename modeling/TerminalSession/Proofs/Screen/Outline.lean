import TerminalSession.Proofs.Action.Keeps
import TerminalSession.Screen.Create
import TerminalSession.Screen.Resize

/-!
# The outline of a screen

Most of what a screen does concerns its windows, its labels and its reports. The `outline` leaves
all that out: it has the session, the phase, and as much of the terminal as `look` shows. If `look`
shows nothing that is changed by measuring, resizing and cursors (`Steady`), then the parts that the
calls of a screen are made of keep the outline.
-/

namespace TerminalSession

open TerminalSession.Action

/-- A view of terminals that shows who holds them, and not what is done with them. -/
structure Steady {T γ : Type} [Terminal T] (look : T → γ) : Prop where
  rows : ∀ t, look (Terminal.rows (T := T) t).2 = look t
  columns : ∀ t, look (Terminal.columns (T := T) t).2 = look t
  resize : ∀ rows cols, Keeps look (Terminal.resize rows cols)
  setCursorShape : ∀ shape, Keeps look (Terminal.setCursorShape shape)
  saveShellMode : ∀ t, look (Terminal.saveShellMode t) = look t
  saveProgramMode : ∀ t, look (Terminal.saveProgramMode t) = look t
  forgetEvents : ∀ t, look (Terminal.forgetEvents t) = look t

namespace Screen

variable {T E γ ε α : Type} {look : T → γ}

/-- Session, phase and what is seen of the terminal. -/
def outline (look : T → γ) (s : Screen T E) : Option Session × Phase × γ :=
  (s.session, s.phase, look s.terminal)

theorem outline_eq_iff {s s' : Screen T E} :
    outline look s' = outline look s ↔
      s'.session = s.session ∧ s'.phase = s.phase ∧ look s'.terminal = look s.terminal := by
  simp only [outline, Prod.mk.injEq]

/-- A new screen has no session. -/
theorem outline_new {terminal : T} {engine : E} {config : Config} {s : Screen T E}
    (h : Screen.new terminal engine config = .ok s) :
    outline look s = (none, .uncreated, look terminal) := by
  unfold Screen.new at h
  split at h
  · split at h <;> cases h
    rfl
  · cases h
    rfl

/-! ## Reports and windows -/

@[simp] theorem exec_report (event : ScreenEvent) (s : Screen T E) :
    exec (report event : Action (Screen T E) ε Unit) s =
      (.ok (), { s with events := s.events.push event }) := rfl

theorem report_keeps (event : ScreenEvent) :
    Keeps (outline look) (report event : Action (Screen T E) ε Unit) := fun _ => rfl

theorem onEngine_keeps (x : Action E ε α) :
    Keeps (outline look) (onEngine x : Action (Screen T E) ε α) := fun _ => rfl

section Windows

variable [WindowEngine E]

theorem edit_keeps (id : WindowId) (e : Edit) :
    Keeps (outline look) (edit id e : Action (Screen T E) WindowError Unit) :=
  onEngine_keeps _

theorem drawLabels_keeps :
    Keeps (outline look) (drawLabels : Action (Screen T E) WindowError Unit) :=
  .get_bind fun s => onEngine_keeps _ s

theorem withWindow_keeps (area : Rect) {use : WindowId → Action (Screen T E) WindowError α}
    (h : ∀ id, Keeps (outline look) (use id)) : Keeps (outline look) (withWindow area use) :=
  .bind (onEngine_keeps _) fun id => .onFailure (h id) fun s => onEngine_keeps _ s

theorem withStrip_keeps (layout : Layout)
    {use : Option WindowId → Action (Screen T E) WindowError α}
    (h : ∀ id, Keeps (outline look) (use id)) : Keeps (outline look) (withStrip layout use) := by
  unfold withStrip
  split
  · exact h none
  · exact withWindow_keeps _ fun id => h (some id)

theorem withReserved_keeps (cols : Nat) (lines : List ReservedLine)
    {use : List ReservedWindow → Action (Screen T E) WindowError α}
    (h : ∀ windows, Keeps (outline look) (use windows)) :
    Keeps (outline look) (withReserved cols lines use) := by
  induction lines generalizing use with
  | nil => exact h []
  | cons line lines ih =>
    exact withWindow_keeps _ fun window => ih fun windows => h (⟨line.side, window⟩ :: windows)

theorem preserveContent_keeps (physical display : WindowId) :
    Keeps (outline look)
      (preserveContent physical display : Action (Screen T E) WindowError Unit) :=
  .bind (edit_keeps _ _) fun _ => .bind (edit_keeps _ _) fun _ =>
    .bind (edit_keeps _ _) fun _ => edit_keeps _ _

theorem placeLabels_keeps (window : WindowId) (cols : Nat) :
    Keeps (outline look) (placeLabels window cols : Action (Screen T E) WindowError Unit) :=
  .bind (.modify fun _ => rfl) fun _ => drawLabels_keeps

theorem placeLabelsIn_keeps (strip : Option WindowId) (cols : Nat) (windows : WindowSet) :
    Keeps (outline look) (do
      if let some window := strip then placeLabels window cols
      return windows : Action (Screen T E) WindowError WindowSet) := by
  cases strip with
  | none => exact .pure _
  | some window => exact .bind (placeLabels_keeps _ _) fun _ => .pure _

theorem buildWindows_keeps (layout : Layout) :
    Keeps (outline look) (buildWindows layout : Action (Screen T E) WindowError WindowSet) := by
  refine withWindow_keeps _ fun physical => withWindow_keeps _ fun snapshot => ?_
  refine .bind (edit_keeps _ _) fun _ => .bind (edit_keeps _ _) fun _ => ?_
  refine withStrip_keeps _ fun strip => withReserved_keeps _ _ fun reserved => ?_
  refine withWindow_keeps _ fun display => .bind (edit_keeps _ _) fun _ => .bind .get fun s => ?_
  exact .ite _ (.bind (preserveContent_keeps _ _) fun _ => placeLabelsIn_keeps _ _ _)
    (.bind (edit_keeps _ _) fun _ => placeLabelsIn_keeps _ _ _)

theorem place_keeps (id : WindowId) (area : Rect) :
    Keeps (outline look) (place id area : Action (Screen T E) WindowError Unit) :=
  .bind (edit_keeps _ _) fun _ => edit_keeps _ _

theorem placeStrip_keeps (windows : WindowSet) (layout : Layout) :
    Keeps (outline look) (placeStrip windows layout : Action (Screen T E) WindowError Unit) := by
  unfold placeStrip
  split
  · exact .bind (place_keeps _ _) fun _ => .bind (.modify fun _ => rfl) fun _ => drawLabels_keeps
  · exact .pure ()

theorem rearrange_keeps (windows : WindowSet) (layout : Layout) :
    Keeps (outline look) (rearrange windows layout : Action (Screen T E) WindowError Unit) := by
  refine .bind (edit_keeps _ _) fun _ => .bind (place_keeps _ _) fun _ => ?_
  refine .bind (edit_keeps _ _) fun _ => .bind (placeStrip_keeps _ _) fun _ => ?_
  refine .bind (.forM (fun _ => place_keeps _ _) _) fun _ => .bind (edit_keeps _ _) fun _ => ?_
  exact .bind (edit_keeps _ _) fun _ => .bind (edit_keeps _ _) fun _ => edit_keeps _ _

theorem discardWindow_keeps (id : WindowId) :
    Keeps (outline look) (discardWindow id : Action (Screen T E) ε Unit) :=
  .attempt_bind (onEngine_keeps _) (fun _ => .pure ()) fun _ => report_keeps _

end Windows

theorem resetLabels_keeps :
    Keeps (outline look) (resetLabels : Action (Screen T E) ε Unit) := by
  refine .get_bind fun s => ?_
  rw [exec_ite]
  split
  · split <;> rfl
  · rfl

/-! ## The terminal -/

variable [Terminal T]

theorem outline_onTerminal (hlook : Steady look) (x : Action T ε α) (s : Screen T E) :
    outline look (exec (onTerminal x) s).2 = (s.session, s.phase, look (exec x s.terminal).2) := by
  simp only [onTerminal, exec_ofFn, outline, hlook.forgetEvents]

theorem onTerminal_keeps (hlook : Steady look) {x : Action T ε α} (hx : Keeps look x) :
    Keeps (outline look) (onTerminal x : Action (Screen T E) ε α) := by
  intro s
  rw [outline_onTerminal hlook, hx]
  rfl

theorem measure_keeps (hlook : Steady look) :
    Keeps (outline look) (measure : Action (Screen T E) ScreenError (Nat × Nat)) := by
  refine .bind (onTerminal_keeps hlook hlook.rows) fun rows => ?_
  refine .bind (onTerminal_keeps hlook hlook.columns) fun cols => ?_
  exact .ite _ (.throw_bind _ _) (.ite _ (.throw_bind _ _) (.pure _))

theorem build_keeps [WindowEngine E] (hlook : Steady look) :
    Keeps (outline look) (build : Action (Screen T E) ScreenError (Layout × WindowSet)) := by
  refine .bind (measure_keeps hlook) fun (rows, cols) => .bind .get fun s => ?_
  dsimp only
  split
  · exact .throw _
  · exact .bind (.mapError (buildWindows_keeps _) _) fun _ => .pure _

theorem shapeCursor_keeps (hlook : Steady look) :
    Keeps (outline look) (shapeCursor : Action (Screen T E) ScreenError Unit) := by
  refine .bind .get fun s => ?_
  split
  · exact .attempt_bind (onTerminal_keeps hlook (hlook.setCursorShape _)) (fun _ => .pure ())
      fun _ => report_keeps _
  · exact .pure ()

theorem restoreCursor_keeps (hlook : Steady look) (shape : CursorShape) :
    Keeps (outline look) (restoreCursor shape : Action (Screen T E) ε Unit) :=
  .attempt_bind (onTerminal_keeps hlook (hlook.setCursorShape shape)) (fun _ => .pure ())
    fun _ => report_keeps _

theorem relayOut_keeps (hlook : Steady look) (session : Session) :
    Keeps (outline look) (relayOut session : Action (Screen T E) ScreenError Layout) := by
  refine .bind (measure_keeps hlook) fun (rows, cols) => ?_
  dsimp only
  split
  · exact .pure _
  · exact .throw _

theorem requestSize_keeps (hlook : Steady look) (rows cols : Nat) :
    Keeps (outline look) (requestSize rows cols : Action (Screen T E) ScreenError Unit) :=
  .ite _ (.throw_bind _ _) (.mapError (onTerminal_keeps hlook (hlook.resize rows cols)) _)

end Screen

end TerminalSession
