import TerminalSession.Proofs.Screen.Outline
import TerminalSession.Terminal.Headless

/-!
# Histories of a screen

The calls of a screen as values, and what can happen between them to a screen on a headless
terminal: arrangements made with the terminal, and changes that the application makes to the engine
on its own. A history is a list of such steps, and a `Run` has its outcome and the log of its calls.
-/

namespace TerminalSession

open TerminalSession.Action

/-- A call to a screen. -/
inductive Call (E : Type)
  | create (args : List String)
  | suspend
  | resume
  | resize (rows cols : Nat)
  | destroy
  | reserveLine (side : Side) (init : E → WindowId → Nat → E)
  | initLabels (code : UInt8)
  | setLabel (index : Nat) (text : String) (justify : Justify)
  | reportResize

/-- A call with its result; a session that is answered is left out. -/
abbrev LoggedCall (E : Type) : Type := Call E × Except ScreenError Unit

namespace Call

variable {T E γ : Type} [Terminal T] [WindowEngine E] {look : T → γ}

/-- What a call does. -/
def action : Call E → Action (Screen T E) ScreenError Unit
  | .create args => do let _ ← Screen.create args
  | .suspend => Screen.suspend
  | .resume => Screen.resume
  | .resize rows cols => do let _ ← Screen.resize rows cols
  | .destroy => Screen.destroy
  | .reserveLine side init => Screen.reserveLine side init
  | .initLabels code => Screen.initLabels code
  | .setLabel index text justify => Screen.setLabel index text justify
  | .reportResize => modify Screen.reportResize

end Call

namespace Screen

variable {T E γ : Type} {look : T → γ}

theorem reserveLine_keeps (side : Side) (init : E → WindowId → Nat → E) :
    Keeps (outline look) (reserveLine side init : Action (Screen T E) ScreenError Unit) := by
  refine .get_bind fun s => ?_
  rw [exec_ite]
  split <;> rfl

theorem initLabels_keeps (code : UInt8) :
    Keeps (outline look) (initLabels code : Action (Screen T E) ScreenError Unit) := by
  refine .get_bind fun s => ?_
  rw [exec_ite]
  split
  · rfl
  · dsimp only
    split <;> rfl

theorem setLabel_keeps [WindowEngine E] (index : Nat) (text : String) (justify : Justify) :
    Keeps (outline look)
      (setLabel index text justify : Action (Screen T E) ScreenError Unit) := by
  refine .get_bind fun s => ?_
  dsimp only
  split
  · rw [exec_bind_ok (exec_set ..), exec_ite]
    split
    · exact drawLabels_keeps _
    · rfl
  · rfl

end Screen

/-- What can be arranged with a headless terminal. Giving it back is never made to fail. -/
inductive Arrangement
  | size (rows cols : Int)
  | sizeLimit (limit : Option (Nat × Nat))
  | resizable (possible : Bool)
  | refuses (refused : Bool)
  | failures (which : List HeadlessFailure) (h : HeadlessFailure.release ∉ which)

/-- A terminal after an arrangement. -/
def Headless.arrange (t : Headless) : Arrangement → Headless
  | .size rows cols => { t with rows, cols }
  | .sizeLimit limit => { t with sizeLimit := limit }
  | .resizable possible => { t with resizable := possible }
  | .refuses refused => { t with refuses := refused }
  | .failures which _ => { t with failures := which }

/-- What can happen to a screen on a headless terminal. -/
inductive Step (E : Type)
  | call (c : Call E)
  | arrange (x : Arrangement)
  | draw (f : E → E)

/-- A screen, and the calls made to it. -/
structure Run (E : Type) where
  screen : Screen Headless E
  log : List (LoggedCall E) := []

namespace Run

variable {E : Type} [WindowEngine E]

/-- One step of a run. -/
def step (r : Run E) : Step E → Run E
  | .call c =>
    let (result, screen) := exec c.action r.screen
    { screen, log := r.log ++ [(c, result)] }
  | .arrange x =>
    { r with screen := { r.screen with terminal := r.screen.terminal.arrange x } }
  | .draw f => { r with screen := { r.screen with engine := f r.screen.engine } }

/-- A run after some steps. -/
def steps (r : Run E) (l : List (Step E)) : Run E := l.foldl step r

end Run

end TerminalSession
