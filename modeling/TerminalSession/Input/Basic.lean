/-!
# Reports of a terminal

What comes in from a terminal are bytes. They spell reports: mostly keys that were pressed, but also
keys that repeat or come up again, the mouse, pasted text, and a change of focus.

Of keys only those are told apart that a program is likely to ask for, characters and function
keys. Modifiers are not kept: the letter typed with control is the letter.
-/

namespace TerminalSession.Input

/-- A key of a terminal. -/
inductive Key
  | char (c : Char)
  | function (n : Nat)
  /-- Arrows, enter, escape and the like. -/
  | other
  deriving DecidableEq, Repr

/-- Something that a terminal reports without having been asked. -/
inductive Report
  | press (key : Key)
  /-- Anything but the press of a key. -/
  | other
  deriving DecidableEq, Repr

/-- What can be said of the bytes received so far. -/
inductive Recognition
  /-- A report may come of them. -/
  | incomplete
  | report (report : Report)
  /-- No report comes of them: they make no sense, or they answer a question. -/
  | nothing
  deriving DecidableEq, Repr

namespace Key

/-- The key of a character. Four control characters are keys with names of their own. -/
def ofChar (c : Char) : Key :=
  if c ∈ ['\x1B', '\r', '\t', '\x7F'] then .other else .char c

/-- The key that a letter at the end of a sequence stands for. -/
def ofFinal? : Char → Option Key
  | 'A' | 'B' | 'C' | 'D' | 'F' | 'H' => some .other
  | 'P' => some (.function 1)
  | 'Q' => some (.function 2)
  | 'R' => some (.function 3)
  | 'S' => some (.function 4)
  | _ => none

/-- The key that a number before a tilde stands for. The numbers of the function keys have gaps. -/
def ofNumber? (n : Nat) : Option Key :=
  if 1 ≤ n ∧ n ≤ 8 then some .other
  else if 11 ≤ n ∧ n ≤ 15 then some (.function (n - 10))
  else if 17 ≤ n ∧ n ≤ 21 then some (.function (n - 11))
  else if 23 ≤ n ∧ n ≤ 26 then some (.function (n - 12))
  else if 28 ≤ n ∧ n ≤ 29 then some (.function (n - 15))
  else if 31 ≤ n ∧ n ≤ 34 then some (.function (n - 17))
  else none

/-- The key that the number of a character stands for. Keys without a character, such as those of
a number pad, have numbers for private use. -/
def ofCode? (n : Nat) : Option Key :=
  if 0xE000 ≤ n ∧ n ≤ 0xF8FF then some .other
  else if n.isValidChar then some (ofChar (Char.ofNat n))
  else none

end Key

namespace Recognition

def press (key : Key) : Recognition := .report (.press key)

def press? (key : Option Key) : Recognition := (key.map press).getD .nothing

end Recognition

end TerminalSession.Input
