import TerminalSession.Input.Parameters
import TerminalSession.Text.Utf8

/-!
# Recognizing reports

`reports` collects bytes until they make a report, or until it is clear that they make none; either
way it starts again with the byte that follows. So bytes that make no sense are lost together with
what was collected before them, and nothing else is.

An escape begins a sequence if anything follows it, and is a key of its own otherwise. A character
after an escape is that character, typed with a modifier.
-/

namespace TerminalSession.Input

namespace Recognition

/-- The bytes that a character has according to its first byte. -/
def byteCount? (b : UInt8) : Option Nat :=
  if b < 0x80 then some 1
  else if b < 0xC0 then none
  else if b < 0xE0 then some 2
  else if b < 0xF0 then some 3
  else if b < 0xF8 then some 4
  else none

/-- A character that is not a control character. -/
def ofCharacter (bytes : List UInt8) : Recognition :=
  match Utf8.decode? bytes, bytes with
  | some (c :: _), _ => press (.char c)
  | _, b :: others =>
    match byteCount? b with
    | some count =>
      if others.all (fun b => 0x80 ≤ b && b < 0xC0) && bytes.length < count then .incomplete
      else .nothing
    | none => .nothing
  | _, [] => .nothing

/-- Bytes that begin with no escape. Control characters are letters, digits or the blank, typed
with a modifier, unless they have a key of their own. -/
def ofPlain (bytes : List UInt8) : Recognition :=
  match bytes with
  | [] => .incomplete
  | b :: _ =>
    if b = 0x09 ∨ b = 0x0D ∨ b = 0x7F then press .other
    else if b = 0 then press (.char ' ')
    else if b ≤ 0x1A then press (.char (Char.ofNat (b.toNat - 1 + 'a'.toNat)))
    else if 0x1C ≤ b ∧ b ≤ 0x1F then press (.char (Char.ofNat (b.toNat - 0x1C + '4'.toNat)))
    else ofCharacter bytes

/-- A report about the mouse: a button, of whose number something is to be taken off, and two
coordinates. -/
def ofMouse (offset : Nat) (parameters : List (List Char)) : Recognition :=
  match parameters[0]?.bind (number? 256), parameters[1]?.bind (number? 65536),
    parameters[2]?.bind (number? 65536) with
  | some n, some _, some _ =>
    if offset ≤ n && isButton (n - offset) then .report .other else .nothing
  | _, _, _ => .nothing

def shiftCodes : List Nat := [57441, 57447]

/-- A key given by the number of its character. With shift the character that it then has may
stand behind it. -/
def ofCode (parameters : List (List Char)) : Recognition :=
  let codes := fields ':' (parameters.headD [])
  let manner := (Manner.ofFields? parameters).getD {}
  match codes[0]?.bind (number? 0x100000000) with
  | none => .nothing
  | some n =>
    let shift := manner.shift || n ∈ shiftCodes
    match Key.ofCode? n, codes[1]?.bind (number? 0x110000) with
    | none, _ => .nothing
    | some key, none => manner.report key
    | some key, some shifted =>
      manner.report (if shift ∧ shifted.isValidChar then .char (Char.ofNat shifted) else key)

def ofNumber (parameters : List (List Char)) : Recognition :=
  match (parameters[0]?.bind (number? 256)).bind Key.ofNumber? with
  | some key => ((Manner.ofFields? parameters).getD {}).report key
  | none => .nothing

/-- A key given by the letter at the end. Its manner may be left out, but then a digit stands
before the letter. -/
def ofLetter (text : List Char) (final : Char) : Recognition :=
  match Key.ofFinal? final, Manner.ofFields? (fields ';' text) with
  | some key, some manner => manner.report key
  | some key, none => if text.getLast?.any Char.isDigit then press key else .nothing
  | none, _ => .nothing

/-- What comes before pasted text, after escape and bracket. -/
def pasteStart : List UInt8 := [0x32, 0x30, 0x30, 0x7E]

/-- What comes after pasted text. -/
def pasteEnd : List UInt8 := [0x1B, 0x5B, 0x32, 0x30, 0x31, 0x7E]

/-- A sequence that begins with a digit: its bytes before the last one, and the last one. A report
of where the cursor is answers a question. -/
def ofFinished (parameters : List UInt8) (final : UInt8) : Recognition :=
  match Utf8.decode? parameters with
  | none => .nothing
  | some text =>
    match Char.ofNat final.toNat with
    | 'M' => ofMouse 32 (fields ';' text)
    | '~' => ofNumber (fields ';' text)
    | 'u' => ofCode (fields ';' text)
    | 'R' => .nothing
    | letter => ofLetter text letter

/-- A sequence that begins with a digit. It ends with the first byte from 0x40 to 0x7E, unless it
is pasted text, which has an end of its own. -/
def ofDigits (bytes : List UInt8) : Recognition :=
  match bytes.getLast? with
  | none => .incomplete
  | some final =>
    if final < 0x40 ∨ 0x7E < final then .incomplete
    else if pasteStart.isPrefixOf bytes then
      if pasteEnd.isSuffixOf bytes then .report .other else .incomplete
    else ofFinished bytes.dropLast final

def ofBracket (bytes : List UInt8) : Recognition :=
  match bytes.map fun b => Char.ofNat b.toNat with
  | [] | ['['] => .incomplete
  | '[' :: c :: _ =>
    if 'A' ≤ c ∧ c ≤ 'E' then press (.function (c.toNat - 'A'.toNat + 1)) else .nothing
  | 'M' :: button :: _ :: _ :: _ =>
    if 32 ≤ button.toNat && isButton (button.toNat - 32) then .report .other else .nothing
  | 'M' :: _ => .incomplete
  | '<' :: mouse =>
    if mouse.getLast? = some 'm' ∨ mouse.getLast? = some 'M' then
      match Utf8.decode? (bytes.drop 1).dropLast with
      | some text => ofMouse 0 (fields ';' text)
      | none => .nothing
    else .incomplete
  | '?' :: answer =>
    if answer.getLast? = some 'c' then .nothing
    else if answer.getLast? = some 'u' ∧ 2 ≤ answer.length then .nothing
    else .incomplete
  | 'I' :: _ | 'O' :: _ => .report .other
  | 'Z' :: _ => press .other
  | 'R' :: _ => .nothing
  | c :: _ => if c.isDigit then ofDigits bytes else press? (Key.ofFinal? c)

/-- What bytes are; `more` tells whether others follow. -/
def ofBytes (more : Bool) : List UInt8 → Recognition
  | [0x1B] => if more then .incomplete else press .other
  | 0x1B :: 0x1B :: _ => press .other
  | 0x1B :: 0x5B :: bytes => ofBracket bytes
  | [0x1B, 0x4F] => .incomplete
  | 0x1B :: 0x4F :: b :: _ => press? (Key.ofFinal? (Char.ofNat b.toNat))
  | 0x1B :: bytes => ofPlain bytes
  | bytes => ofPlain bytes

end Recognition

/-- The reports that bytes make, after some that have been collected already. -/
def reportsAfter (collected : List UInt8) : List UInt8 → List Report
  | [] => []
  | b :: bytes =>
    match Recognition.ofBytes (!bytes.isEmpty) (collected ++ [b]) with
    | .incomplete => reportsAfter (collected ++ [b]) bytes
    | .report report => report :: reportsAfter [] bytes
    | .nothing => reportsAfter [] bytes

def reports : List UInt8 → List Report := reportsAfter []

end TerminalSession.Input
