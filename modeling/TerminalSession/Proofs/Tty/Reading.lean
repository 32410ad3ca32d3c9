import TerminalSession.Input.Parameters
import TerminalSession.Proofs.Terminal.Scanning

/-!
# Which modes a terminal reads

A terminal is sent nothing but characters. `Reader` follows them as far as they concern the two
settings that a program changes when it takes the screen over: which of two screens is shown, and
whether lines wrap.

A spelled sequence is read to its end (`read_escape`), and only private modes matter here, which
are switched by a sequence that begins with a question mark and ends with `h` or `l`.
-/

namespace TerminalSession

open Sequence

/-- Which screen is shown, and whether a line that is full goes on in the next one. -/
structure Surface where
  alternate : Bool := false
  wraps : Bool := true
  deriving DecidableEq, Repr

/-- Switches one private mode, known by its number. -/
def Surface.switch (on : Bool) (s : Surface) (number : List Char) : Surface :=
  if number = ['1', '0', '4', '9'] then { s with alternate := on }
  else if number = ['7'] then { s with wraps := on }
  else s

/-- Does what a sequence says. -/
def Surface.obey (s : Surface) : List Char → Char → Surface
  | '?' :: numbers, 'h' => (Input.fields ';' numbers).foldl (switch true) s
  | '?' :: numbers, 'l' => (Input.fields ';' numbers).foldl (switch false) s
  | _, _ => s

theorem Surface.obey_of_ne {s : Surface} {parameters : List Char} {final : Char} (hh : final ≠ 'h')
    (hl : final ≠ 'l') : s.obey parameters final = s := by
  unfold obey
  split <;> simp_all

/-- A terminal that reads. -/
structure Reader where
  surface : Surface := {}
  stage : Stage := .printing
  deriving DecidableEq, Repr

namespace Reader

/-- Reads one character. An escape always begins something new. -/
def next (r : Reader) (c : Char) : Reader :=
  if c = '\x1b' then { r with stage := .escaped }
  else
    match r.stage with
    | .printing => r
    | .escaped => { r with stage := if c = '[' then .within [] else .printing }
    | .within parameters =>
      if isFinal c then { surface := r.surface.obey parameters c }
      else { r with stage := .within (parameters ++ [c]) }

def read (r : Reader) (text : List Char) : Reader := text.foldl next r

theorem read_append (r : Reader) (text text' : List Char) :
    r.read (text ++ text') = (r.read text).read text' := List.foldl_append

/-- Printing changes neither setting. -/
def effects : Effects Surface where
  print s _ := s
  obey := Surface.obey

theorem read_eq (r : Reader) (text : List Char) :
    r.read text = ⟨(effects.scan (r.surface, r.stage) text).1,
      (effects.scan (r.surface, r.stage) text).2⟩ := by
  induction text generalizing r with
  | nil => rfl
  | cons c text ih =>
    have hfirst : effects.next (r.surface, r.stage) c = ((r.next c).surface, (r.next c).stage) := by
      obtain ⟨s, stage⟩ := r
      simp only [next, Effects.next]
      split
      · rfl
      · cases stage with
        | printing | escaped => rfl
        | within parameters =>
          dsimp only
          split <;> rfl
    rw [Reader.read, List.foldl_cons, Effects.scan, List.foldl_cons, hfirst]
    exact ih _

/-- A spelled sequence is read to its end and obeyed. -/
theorem read_escape {s : Surface} {parameters : List Char} {final : Char}
    (hparameters : parameters.all isParameter = true) (hfinal : isFinal final = true) :
    Reader.read ⟨s, .printing⟩ (escape (parameters ++ [final])) =
      ⟨s.obey parameters final, .printing⟩ := by
  rw [read_eq, effects.scan_escape s hparameters hfinal]
  rfl

end Reader

end TerminalSession
