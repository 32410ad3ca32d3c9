import TerminalSession.Proofs.Action.Follows
import TerminalSession.Proofs.Screen.Call

/-!
# Watching the initializers

Which initializers a screen calls cannot be told from the engine that is left. So the engine is
watched: it keeps a record, and each initializer is wrapped so that a call of it is noted there with
the number that the initializer was given, its arguments, and the engine that it found.

Nothing else is changed by watching: each part of a screen's calls does on a watched screen what it
does on the screen itself, and leaves the record as it is (`Follows`).
-/

namespace TerminalSession

open TerminalSession.Action

/-- A call of an initializer. -/
structure Serving (E : Type) where
  number : Nat
  window : WindowId
  cols : Nat
  /-- The engine as the initializer found it. -/
  found : E

/-- An engine with a record of the initializers that were called. -/
structure Watched (E : Type) where
  engine : E
  served : List (Serving E)

namespace Watched

variable {E ε α : Type}

/-- Acts on an engine that is watched. -/
def lift (x : Action E ε α) : Action (Watched E) ε α :=
  .zoom Watched.engine (fun engine v => { v with engine }) x

instance [WindowEngine E] : WindowEngine (Watched E) where
  create area := lift (WindowEngine.create area)
  edit id e := lift (WindowEngine.edit id e)
  destroy id := lift (WindowEngine.destroy id)

end Watched

/-- A reserved line whose initializer has a number and is watched. -/
def Registration.watched {E : Type} (line : Registration E) (number : Nat) :
    Registration (Watched E) where
  side := line.side
  init v window cols :=
    ⟨line.init v.engine window cols, v.served ++ [⟨number, window, cols, v.engine⟩]⟩

/-- Reserved lines with their numbers. -/
def watchAll {E : Type} : List Nat → List (Registration E) → List (Registration (Watched E))
  | _, [] => []
  | numbers, line :: lines => line.watched (numbers.headD 0) :: watchAll numbers.tail lines

theorem map_side_watchAll {E : Type} (numbers : List Nat) (lines : List (Registration E)) :
    (watchAll numbers lines).map Registration.side = lines.map Registration.side := by
  induction lines generalizing numbers with
  | nil => rfl
  | cons line lines ih => exact congrArg (line.side :: ·) (ih numbers.tail)

theorem length_watchAll {E : Type} (numbers : List Nat) (lines : List (Registration E)) :
    (watchAll numbers lines).length = lines.length := by
  have hmap := congrArg List.length (map_side_watchAll numbers lines)
  rwa [List.length_map, List.length_map] at hmap

theorem watchAll_concat {E : Type} {numbers : List Nat} {lines : List (Registration E)}
    (h : numbers.length = lines.length) (number : Nat) (line : Registration E) :
    watchAll (numbers ++ [number]) (lines ++ [line]) =
      watchAll numbers lines ++ [line.watched number] := by
  induction lines generalizing numbers with
  | nil =>
    obtain rfl := List.eq_nil_of_length_eq_zero h
    rfl
  | cons line' lines ih =>
    cases numbers with
    | nil => cases h
    | cons number' numbers => exact congrArg (line'.watched number' :: ·) (ih (Nat.succ.inj h))

namespace Screen

variable {T E ε δ α : Type} {served : List (Serving E)} {numbers : List Nat}

/-- A screen whose engine has a record and whose waiting lines have numbers. -/
def watched (served : List (Serving E)) (numbers : List Nat) (s : Screen T E) :
    Screen T (Watched E) where
  terminal := s.terminal
  engine := ⟨s.engine, served⟩
  config := s.config
  labels := s.labels
  pending := watchAll numbers s.pending
  session := s.session
  phase := s.phase
  events := s.events

section

variable (served : List (Serving E)) (numbers : List Nat) (s : Screen T E)

@[simp] theorem config_watched : (watched served numbers s).config = s.config := rfl

@[simp] theorem labels_watched : (watched served numbers s).labels = s.labels := rfl

@[simp] theorem session_watched : (watched served numbers s).session = s.session := rfl

@[simp] theorem phase_watched : (watched served numbers s).phase = s.phase := rfl

@[simp] theorem pending_watched :
    (watched served numbers s).pending = watchAll numbers s.pending := rfl

end

/-! ## Reports, labels and the terminal -/

theorem report_follows (event : ScreenEvent) :
    Follows (watched served numbers) (report event : Action (Screen T _) ε Unit) (report event) :=
  fun _ => rfl

theorem initLabels_follows (code : UInt8) :
    Follows (watched served numbers) (initLabels code : Action (Screen T _) ScreenError Unit)
      (initLabels code) := by
  refine .get_bind fun s => ?_
  by_cases hs : s.session.isSome = true
  · simp only [session_watched, hs, if_true]
    rfl
  · simp only [labels_watched, session_watched, hs]
    cases s.labels.init code <;> rfl

theorem resetLabels_follows :
    Follows (watched served numbers) (resetLabels : Action (Screen T _) ε Unit) resetLabels := by
  refine .get_bind fun s => ?_
  by_cases henabled : s.config.labels.enabled = true
  · simp only [config_watched, labels_watched, henabled, if_true]
    cases s.labels.init s.config.labels.format <;> rfl
  · simp only [config_watched, henabled]
    rfl

theorem onEngine_follows {y : Action (Watched E) ε α} {x : Action E ε α}
    (h : Follows (⟨·, served⟩) y x) :
    Follows (watched served numbers) (onEngine y : Action (Screen T _) ε α) (onEngine x) := by
  intro s
  have hengine : exec y (watched served numbers s).engine =
      ((exec x s.engine).1, ⟨(exec x s.engine).2, served⟩) := h s.engine
  simp only [onEngine, exec_zoom, hengine]
  rfl

section Terminal

variable [Terminal T]

theorem onTerminal_follows (x : Action T ε α) :
    Follows (watched served numbers) (onTerminal x : Action (Screen T _) ε α) (onTerminal x) :=
  fun _ => rfl

theorem releaseTerminal_follows :
    Follows (watched served numbers) (releaseTerminal : Action (Screen T _) ε Unit)
      releaseTerminal :=
  .attempt_bind (onTerminal_follows _) (fun _ => .pure ()) fun _ => report_follows _

theorem measure_follows :
    Follows (watched served numbers) (measure : Action (Screen T _) ScreenError (Nat × Nat))
      measure := by
  refine .bind (onTerminal_follows _) fun rows => .bind (onTerminal_follows _) fun cols => ?_
  exact .ite _ (.throw_bind _ _ _) (.ite _ (.throw_bind _ _ _) (.pure _))

theorem restoreCursor_follows (shape : CursorShape) :
    Follows (watched served numbers) (restoreCursor shape : Action (Screen T _) ε Unit)
      (restoreCursor shape) :=
  .attempt_bind (onTerminal_follows _) (fun _ => .pure ()) fun _ => report_follows _

theorem reportCursor_follows (shape : CursorShape) :
    Follows (watched served numbers)
      (do
        if let .error cause ← (onTerminal (Terminal.setCursorShape shape)).attempt then
          report (.cursorNotSet cause) : Action (Screen T (Watched E)) ScreenError Unit)
      (do
        if let .error cause ← (onTerminal (Terminal.setCursorShape shape)).attempt then
          report (.cursorNotSet cause)) :=
  .attempt_bind (onTerminal_follows _) (fun _ => .pure ()) fun _ => report_follows _

theorem shapeCursor_follows :
    Follows (watched served numbers) (shapeCursor : Action (Screen T _) ScreenError Unit)
      shapeCursor := by
  refine .get_bind fun s => ?_
  simp only [config_watched]
  cases s.config.cursor with
  | none => rfl
  | some shape => exact reportCursor_follows shape s

theorem relayOut_follows (session : Session) :
    Follows (watched served numbers) (relayOut session : Action (Screen T _) ScreenError Layout)
      (relayOut session) := by
  refine .bind measure_follows fun (rows, cols) => ?_
  dsimp only
  split
  · exact .pure _
  · exact .throw _

theorem requestSize_follows (rows cols : Nat) :
    Follows (watched served numbers) (requestSize rows cols : Action (Screen T _) ScreenError Unit)
      (requestSize rows cols) :=
  .ite _ (.throw_bind _ _ _) (.mapError (onTerminal_follows _) _)

theorem suspend_follows :
    Follows (watched served numbers) (suspend : Action (Screen T _) ScreenError Unit) suspend := by
  refine .bind (report_follows _) fun _ => .get_bind fun s => ?_
  have hrest : Follows (watched served numbers)
      (do
        modify fun s => { s with terminal := Terminal.saveProgramMode s.terminal }
        releaseTerminal
        modify fun s =>
          { s with session := s.session.map ({ · with alive := false }), phase := .suspended } :
          Action (Screen T (Watched E)) ScreenError Unit)
      (do
        modify fun s => { s with terminal := Terminal.saveProgramMode s.terminal }
        releaseTerminal
        modify fun s =>
          { s with session := s.session.map ({ · with alive := false }), phase := .suspended }) :=
    .bind (.modify fun _ => rfl) fun _ => .bind releaseTerminal_follows fun _ =>
      .modify fun _ => rfl
  exact Follows.ite (s.phase != .alive) (.throw_bind _ _ _) hrest s

end Terminal

/-! ## Windows -/

section Windows

variable [WindowEngine E]

theorem edit_follows (id : WindowId) (e : Edit) :
    Follows (watched served numbers) (edit id e : Action (Screen T _) WindowError Unit)
      (edit id e) :=
  onEngine_follows fun _ => rfl

theorem drawLabels_follows :
    Follows (watched served numbers) (drawLabels : Action (Screen T _) WindowError Unit)
      drawLabels := by
  refine .get_bind fun s => ?_
  have hdraw : Follows (⟨·, served⟩) (s.labels.draw : Action (Watched E) WindowError Unit)
      s.labels.draw := by
    unfold SoftLabels.draw
    split
    · exact .forM (fun _ _ => rfl) _
    · exact .pure ()
  exact onEngine_follows hdraw s

theorem discardWindow_follows (id : WindowId) :
    Follows (watched served numbers) (discardWindow id : Action (Screen T _) ε Unit)
      (discardWindow id) :=
  .attempt_bind (onEngine_follows fun _ => rfl) (fun _ => .pure ()) fun _ => report_follows _

theorem withWindow_follows (area : Rect)
    {use' : WindowId → Action (Screen T (Watched E)) WindowError α}
    {use : WindowId → Action (Screen T E) WindowError α}
    (h : ∀ id, Follows (watched served numbers) (use' id) (use id)) :
    Follows (watched served numbers) (withWindow area use') (withWindow area use) :=
  .bind (onEngine_follows fun _ => rfl) fun id => .onFailure (h id) fun _ => rfl

theorem withStrip_follows (layout : Layout)
    {use' : Option WindowId → Action (Screen T (Watched E)) WindowError α}
    {use : Option WindowId → Action (Screen T E) WindowError α}
    (h : ∀ id, Follows (watched served numbers) (use' id) (use id)) :
    Follows (watched served numbers) (withStrip layout use') (withStrip layout use) := by
  unfold withStrip
  split
  · exact h none
  · exact withWindow_follows _ fun id => h (some id)

theorem withReserved_follows (cols : Nat) (lines : List ReservedLine)
    {use' : List ReservedWindow → Action (Screen T (Watched E)) WindowError α}
    {use : List ReservedWindow → Action (Screen T E) WindowError α}
    (h : ∀ windows, Follows (watched served numbers) (use' windows) (use windows)) :
    Follows (watched served numbers) (withReserved cols lines use')
      (withReserved cols lines use) := by
  induction lines generalizing use' use with
  | nil => exact h []
  | cons line lines ih =>
    exact withWindow_follows _ fun window => ih fun windows => h (⟨line.side, window⟩ :: windows)

theorem preserveContent_follows (physical display : WindowId) :
    Follows (watched served numbers)
      (preserveContent physical display : Action (Screen T _) WindowError Unit)
      (preserveContent physical display) :=
  .bind (edit_follows _ _) fun _ => .bind (edit_follows _ _) fun _ =>
    .bind (edit_follows _ _) fun _ => edit_follows _ _

theorem placeLabels_follows (window : WindowId) (cols : Nat) :
    Follows (watched served numbers)
      (placeLabels window cols : Action (Screen T _) WindowError Unit) (placeLabels window cols) :=
  .bind (.modify fun _ => rfl) fun _ => drawLabels_follows

theorem placeLabelsIn_follows (strip : Option WindowId) (cols : Nat) (windows : WindowSet) :
    Follows (watched served numbers)
      (do
        if let some window := strip then placeLabels window cols
        return windows : Action (Screen T (Watched E)) WindowError WindowSet)
      (do
        if let some window := strip then placeLabels window cols
        return windows) := by
  cases strip with
  | none => exact .pure _
  | some window => exact .bind (placeLabels_follows _ _) fun _ => .pure _

theorem buildWindows_follows (layout : Layout) :
    Follows (watched served numbers)
      (buildWindows layout : Action (Screen T _) WindowError WindowSet) (buildWindows layout) := by
  refine withWindow_follows _ fun physical => withWindow_follows _ fun snapshot => ?_
  refine .bind (edit_follows _ _) fun _ => .bind (edit_follows _ _) fun _ => ?_
  refine withStrip_follows _ fun strip => withReserved_follows _ _ fun reserved => ?_
  refine withWindow_follows _ fun display => .bind (edit_follows _ _) fun _ => .get_bind fun s => ?_
  have hfinish : Follows (watched served numbers)
      (do
        if s.config.preserveScreen then preserveContent physical display
        else edit physical (.setClear true)
        if let some window := strip then placeLabels window layout.terminalCols
        return { display, physical, snapshot, reserved, strip } :
          Action (Screen T (Watched E)) WindowError WindowSet)
      (do
        if s.config.preserveScreen then preserveContent physical display
        else edit physical (.setClear true)
        if let some window := strip then placeLabels window layout.terminalCols
        return { display, physical, snapshot, reserved, strip }) :=
    .ite _ (.bind (preserveContent_follows _ _) fun _ => placeLabelsIn_follows _ _ _)
      (.bind (edit_follows _ _) fun _ => placeLabelsIn_follows _ _ _)
  exact hfinish s

theorem place_follows (id : WindowId) (area : Rect) :
    Follows (watched served numbers) (place id area : Action (Screen T _) WindowError Unit)
      (place id area) :=
  .bind (edit_follows _ _) fun _ => edit_follows _ _

theorem placeStrip_follows (windows : WindowSet) (layout : Layout) :
    Follows (watched served numbers)
      (placeStrip windows layout : Action (Screen T _) WindowError Unit)
      (placeStrip windows layout) := by
  unfold placeStrip
  split
  · exact .bind (place_follows _ _) fun _ => .bind (.modify fun _ => rfl) fun _ =>
      drawLabels_follows
  · exact .pure ()

theorem rearrange_follows (windows : WindowSet) (layout : Layout) :
    Follows (watched served numbers)
      (rearrange windows layout : Action (Screen T _) WindowError Unit)
      (rearrange windows layout) := by
  refine .bind (edit_follows _ _) fun _ => .bind (place_follows _ _) fun _ => ?_
  refine .bind (edit_follows _ _) fun _ => .bind (placeStrip_follows _ _) fun _ => ?_
  refine .bind (.forM (fun _ => place_follows _ _) _) fun _ => .bind (edit_follows _ _) fun _ => ?_
  exact .bind (edit_follows _ _) fun _ => .bind (edit_follows _ _) fun _ => edit_follows _ _

end Windows

/-! ## Calls -/

variable [WindowEngine E]

theorem setLabel_follows (index : Nat) (text : String) (justify : Justify) :
    Follows (watched served numbers)
      (setLabel index text justify : Action (Screen T _) ScreenError Unit)
      (setLabel index text justify) := by
  refine .get_bind fun s => ?_
  simp only [labels_watched, session_watched]
  cases s.labels.setLabel index text justify with
  | error cause => rfl
  | ok labels =>
    have hdraw : Follows (watched served numbers)
        (if s.session.isSome then drawLabels.mapError .bufferAllocation else pure () :
          Action (Screen T (Watched E)) ScreenError Unit)
        (if s.session.isSome then drawLabels.mapError .bufferAllocation else pure ()) :=
      .ite _ (drawLabels_follows.mapError _) (.pure ())
    exact hdraw { s with labels }

variable [Terminal T]

theorem returnTo_follows (session : Session) :
    Follows (watched served numbers) (returnTo session : Action (Screen T _) ScreenError Unit)
      (returnTo session) :=
  .bind (.mapError (onTerminal_follows _) _) fun _ =>
    .attempt_bind (edit_follows _ _) (fun _ => .modify fun _ => rfl) fun _ =>
      .bind (report_follows _) fun _ => .modify fun _ => rfl

theorem resume_follows :
    Follows (watched served numbers) (resume : Action (Screen T _) ScreenError Unit) resume := by
  refine .bind (report_follows _) fun _ => .get_bind fun s => ?_
  simp only [phase_watched, session_watched]
  cases s.phase <;> cases s.session
  case suspended.some session =>
    exact Follows.ite (session.consistent = true) (returnTo_follows session) (.throw _) s
  all_goals rfl

theorem follow_follows (session : Session) :
    Follows (watched served numbers) (follow session : Action (Screen T _) ScreenError Session)
      (follow session) := by
  refine .attempt_bind (relayOut_follows session) (fun layout => ?_) fun cause => ?_
  · refine .attempt_bind (rearrange_follows _ _) (fun _ => ?_) fun cause => ?_
    · exact .bind (.modify fun _ => rfl) fun _ => .bind (report_follows _) fun _ => .pure _
    · exact .bind (.modify fun _ => rfl) fun _ => .bind (report_follows _) fun _ => .throw _
  · exact .bind (.modify fun _ => rfl) fun _ => .bind (report_follows _) fun _ => .throw _

theorem followSession_follows :
    Follows (watched served numbers)
      (do
        let some session := (← get).session | throw .noActiveSession
        follow session : Action (Screen T (Watched E)) ScreenError Session)
      (do
        let some session := (← get).session | throw .noActiveSession
        follow session) := by
  refine .get_bind fun s => ?_
  simp only [session_watched]
  cases s.session with
  | none => rfl
  | some session => exact follow_follows session s

theorem resize_follows (rows cols : Nat) :
    Follows (watched served numbers) (resize rows cols : Action (Screen T _) ScreenError Session)
      (resize rows cols) := by
  refine .bind (report_follows _) fun _ => .get_bind fun s => ?_
  exact Follows.ite (s.phase != .alive) (.throw_bind _ _ _)
    (.ite _ (.bind (requestSize_follows _ _) fun _ => followSession_follows)
      followSession_follows) s

theorem destroy_follows :
    Follows (watched served numbers) (destroy : Action (Screen T _) ε Unit) destroy := by
  refine .bind (report_follows _) fun _ => .get_bind fun s => ?_
  simp only [session_watched]
  cases s.session with
  | none => rfl
  | some session =>
    have hlast : Follows (watched served numbers)
        (do
          resetLabels
          modify ({ · with phase := .destroyed })
          report .destroyed : Action (Screen T (Watched E)) ε Unit)
        (do
          resetLabels
          modify ({ · with phase := .destroyed })
          report .destroyed) :=
      .bind resetLabels_follows fun _ => .bind (.modify fun _ => rfl) fun _ => report_follows _
    have hrest : Follows (watched served numbers)
        (do
          session.windows.all.forM discardWindow
          restoreCursor session.cursorBefore
          if session.alive then releaseTerminal
          resetLabels
          modify ({ · with phase := .destroyed })
          report .destroyed : Action (Screen T (Watched E)) ε Unit)
        (do
          session.windows.all.forM discardWindow
          restoreCursor session.cursorBefore
          if session.alive then releaseTerminal
          resetLabels
          modify ({ · with phase := .destroyed })
          report .destroyed) :=
      .bind (.forM discardWindow_follows _) fun _ => .bind (restoreCursor_follows _) fun _ =>
        .ite _ (.bind releaseTerminal_follows fun _ => hlast) hlast
    exact hrest { s with session := none, labels := s.labels.free }

/-- What lies between the sides of the lines and their initializers is the same. -/
theorem build_follows :
    Follows (watched served numbers)
      (build : Action (Screen T _) ScreenError (Layout × WindowSet)) build := by
  refine .bind measure_follows fun (rows, cols) => .get_bind fun s => ?_
  simp only [config_watched, labels_watched, pending_watched, map_side_watchAll]
  cases Layout.allocate rows cols (s.pending.map Registration.side)
      (s.config.stripPlacement s.labels.lineCount) with
  | error cause => rfl
  | ok layout =>
    have hbuild : Follows (watched served numbers)
        (do
          let windows ← (buildWindows layout).mapError .bufferAllocation
          return (layout, windows) :
            Action (Screen T (Watched E)) ScreenError (Layout × WindowSet))
        (do
          let windows ← (buildWindows layout).mapError .bufferAllocation
          return (layout, windows)) :=
      .bind (.mapError (buildWindows_follows _) _) fun _ => .pure _
    exact hbuild s

end Screen

end TerminalSession
