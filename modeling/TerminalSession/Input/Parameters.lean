import TerminalSession.Input.Basic

/-!
# Parameters of a sequence

The text between the start of a sequence and its last character: fields separated by semicolons,
some of them divided by colons, that hold numbers.

The field after the first tells how a key was used. Its first number is one more than a sum of
modifiers, of which shift counts one; its second tells whether the key was pressed, repeats or came
up again.
-/

namespace TerminalSession.Input

/-- What stands between the separators of a text. There is one more than there are separators. -/
def fields (separator : Char) : List Char → List (List Char)
  | [] => [[]]
  | c :: cs =>
    if c = separator then [] :: fields separator cs
    else
      match fields separator cs with
      | [] => [[c]]
      | field :: others => (c :: field) :: others

/-- A number below a bound, written in decimal digits. A plus sign may stand in front of it. -/
def number? (bound : Nat) (text : List Char) : Option Nat :=
  let digits := match text with
    | '+' :: rest => rest
    | _ => text
  if digits.isEmpty || !digits.all Char.isDigit then none
  else
    let n := digits.foldl (fun n c => 10 * n + (c.toNat - '0'.toNat)) 0
    if n < bound then some n else none

/-- How a key was used. -/
structure Manner where
  shift : Bool := false
  /-- Whether it was pressed, and neither repeats nor came up again. -/
  pressed : Bool := true
  deriving DecidableEq, Repr

namespace Manner

/-- Reads a field. Only the modifiers have to be there. -/
def ofField? (field : List Char) : Option Manner := do
  let parts := fields ':' field
  let modifiers ← parts[0]?.bind (number? 256)
  let kind := (parts[1]?.bind (number? 256)).getD 1
  return { shift := (modifiers - 1) % 2 == 1, pressed := kind != 2 && kind != 3 }

/-- Reads the second of several fields, if there is one. -/
def ofFields? (parameters : List (List Char)) : Option Manner := parameters[1]?.bind ofField?

def report (manner : Manner) (key : Key) : Recognition :=
  if manner.pressed then .press key else .report .other

end Manner

/-- Whether a number stands for a button of the mouse, alone or while the mouse moves. The number
has two bits of the button at its low end and two at its high end, and one for the movement. -/
def isButton (n : Nat) : Bool :=
  let button := n % 4 + n / 64 * 4
  let moving := n / 32 % 2 == 1
  n < 256 && button ≤ (if moving then 5 else 7)

end TerminalSession.Input
