import TerminalSession.Proofs.Screen.Turn

/-!
# What a failed call leaves

`Left` has a case for each way in which a screen can be left by a call that fails. In most of them
nothing has changed; the others say what has.
-/

namespace TerminalSession

open TerminalSession.Action

/-- Session, windows, labels and waiting lines are the same. -/
structure Interior.Same (i i' : Interior Buffers) : Prop where
  session : i'.session = i.session
  phase : i'.phase = i.phase
  config : i'.config = i.config
  labels : i'.labels = i.labels
  pending : i'.pending = i.pending
  windows : ∀ id, i'.engine.window? id = i.engine.window? id

theorem Interior.Same.refl (i : Interior Buffers) : i.Same i :=
  ⟨rfl, rfl, rfl, rfl, rfl, fun _ => rfl⟩

namespace Screen

variable {T : Type} [Terminal T] {s s' : Screen T Buffers}

/-- Whether a call that fails does so before it has changed anything. -/
def Refused (s : Screen T Buffers) : Call Buffers → ScreenError → Prop
  | .create args, _ => s.phase = .alive ∨
    (s.phase ≠ .suspended ∧ (exec (Terminal.acquire args) s.atCreate.terminal).1 ≠ .ok ())
  | .resize rows cols, _ =>
    s.phase ≠ .alive ∨ s.session = none ∨ ¬ Granted rows cols s.terminal
  | .setLabel .., cause => ∃ reason, cause = .softLabels reason
  | _, _ => True

/-- The ways in which a screen can be left by a call that fails. -/
inductive Left (s : Screen T Buffers) : Call Buffers → ScreenError → Interior Buffers → Prop
  | unchanged {c : Call Buffers} {cause : ScreenError} {i : Interior Buffers}
    (h : Refused s c cause) (hsame : s.interior.Same i) : Left s c cause i
  /-- The terminal could not be taken over for the next session; the one before has been
  destroyed. -/
  | destroyed {args : List String} {cause : TerminalError} {i : Interior Buffers}
    (h : s.phase = .suspended)
    (hopening : (exec (Terminal.acquire args) s.atCreate.terminal).1 = .error cause)
    (hsame : (exec (destroy : Action _ ScreenError Unit) s).2.interior.Same i) :
    Left s (.create args) (.platformOpen cause) i
  /-- The terminal was taken over, but no session could be made for it; one before has been
  destroyed. -/
  | uncreated {args : List String} {cause : ScreenError} {i : Interior Buffers}
    (h : s.phase ≠ .alive)
    (hopening : (exec (Terminal.acquire args) s.atCreate.terminal).1 = .ok ())
    (hsame : Interior.Same { s.vacated.interior with phase := .uncreated } i) :
    Left s (.create args) cause i
  /-- The size that the terminal has cannot be read or laid out. -/
  | outgrown {rows cols : Nat} {cause : ScreenError} {i : Interior Buffers} {session : Session}
    (h : s.phase = .alive) (hs : s.session = some session) (hgranted : Granted rows cols s.terminal)
    (hcause : SizeError cause)
    (hsame : Interior.Same { s.interior with session := some { session with resized := true } } i) :
    Left s (.resize rows cols) cause i
  /-- A window was refused its new size; those before it have theirs, and labels that have been
  laid out anew keep their texts. -/
  | unusable {rows cols : Nat} {cause : WindowError} {i : Interior Buffers} {session : Session}
    {l : Layout} {done : List (WindowId × Edit)} (h : s.phase = .alive)
    (hs : s.session = some session) (hgranted : Granted rows cols s.terminal)
    (hl : ∃ rows cols,
      Layout.allocate rows cols session.layout.sides session.layout.strip = .ok l)
    (hsession : i.session = some { session with alive := false, consistent := false })
    (hphase : i.phase = .suspended) (hconfig : i.config = s.config)
    (hpending : i.pending = s.pending)
    (hlabels : i.labels = s.labels ∨ i.labels = s.labels.layOut l.terminalCols)
    (hdone : done <+: session.windows.rearrangement l s.labels)
    (hengine : i.engine = s.engine.changeAll done) :
    Left s (.resize rows cols) (.bufferAllocation cause) i
  /-- The label has its new text, but the application has given up the window it is drawn in. -/
  | undrawn {index : Nat} {text : String} {justify : Justify} {labels : SoftLabels} {id : WindowId}
    {i : Interior Buffers} (hs : s.session ≠ none)
    (h : s.labels.setLabel index text justify = .ok labels) (hwindow : s.labels.window = some id)
    (hgone : s.engine.window? id = none) (hsame : Interior.Same { s.interior with labels } i) :
    Left s (.setLabel index text justify) (.bufferAllocation (.unknownWindow id)) i

/-- Every call that fails leaves the screen in one of these ways. -/
theorem left_of_error {c : Call Buffers} {cause : ScreenError}
    (h : exec c.action s = (.error cause, s')) : Left s c cause s'.interior := by
  have hturned := c.turned h
  generalize s'.interior = i at hturned
  cases hturned with
  | lineRefused | labelsRefused | suspendRefused | resumeRefused => exact .unchanged trivial (.refl _)
  | labelRefused => exact .unchanged ⟨_, rfl⟩ (.refl _)
  | resizeRefused hrefused => exact .unchanged hrefused (.refl _)
  | createRefused hphase => exact .unchanged (.inl hphase) (.refl _)
  | labelNotDrawn hs hset hwindow hgone =>
    exact .undrawn hs hset ((SoftLabels.of_setLabel hset).1 ▸ hwindow) hgone (.refl _)
  | notLaidOut hphase hs hgranted hcause => exact .outgrown hphase hs hgranted hcause (.refl _)
  | broken hphase hs hgranted hl hdone _ hlabels =>
    refine .unusable hphase hs hgranted hl rfl rfl rfl rfl ?_ hdone rfl
    rcases hlabels with rfl | rfl
    · exact .inl rfl
    · unfold WindowSet.relabel
      split
      · exact .inl rfl
      · exact .inr rfl
  | notOpened hphase hopening =>
    by_cases hsuspended : s.phase = .suspended
    · refine .destroyed hsuspended hopening ?_
      rw [interior_destroy, Interior.cleared_of_suspended hsuspended]
      exact .refl _
    · refine .unchanged (.inr ⟨hsuspended, fun h => by simp [hopening] at h⟩) ?_
      rw [Interior.cleared_of_ne hsuspended]
      exact .refl _
  | @notBuilt _ _ count hphase hopening =>
    refine .uncreated hphase hopening ?_
    rw [interior_vacated]
    exact ⟨rfl, rfl, rfl, rfl, rfl, fun id => Buffers.window?_bury _ count id⟩

end Screen

end TerminalSession
