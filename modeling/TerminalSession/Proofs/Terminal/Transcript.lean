import TerminalSession.Input.Parameters
import TerminalSession.Proofs.Terminal.Scanning

/-!
# What a terminal shows of its input

`Transcript` follows the characters that a terminal is sent as far as they can be seen: where the
cursor is put, and which characters are printed with which attributes. Attributes are chosen by
numbers (`Attrs.render`), which are read back as they were spelled (`numbers?_spell`). So a colour
that is spelled is the colour that is chosen (`Color.render_numbers`).
-/

namespace TerminalSession

open Sequence

namespace Input

variable {separator : Char} {field : List Char}

theorem fields_of_not_mem (h : separator ∉ field) : fields separator field = [field] := by
  induction field with
  | nil => rfl
  | cons c field ih =>
    obtain ⟨hc, hrest⟩ := not_or.mp (mt List.mem_cons.mpr h)
    rw [fields, if_neg (Ne.symm hc), ih hrest]

/-- A field ends at the first separator behind it. -/
theorem fields_append (h : separator ∉ field) (rest : List Char) :
    fields separator (field ++ separator :: rest) = field :: fields separator rest := by
  induction field with
  | nil => rw [List.nil_append, fields, if_pos rfl]
  | cons c field ih =>
    obtain ⟨hc, hrest⟩ := not_or.mp (mt List.mem_cons.mpr h)
    rw [List.cons_append, fields, if_neg (Ne.symm hc), ih hrest]

end Input

/-! ## Numbers -/

namespace Sequence

/-- Numbers with semicolons between them. -/
def spell : List Nat → List Char
  | [] => []
  | [n] => digits n
  | n :: ns => digits n ++ ';' :: spell ns

/-- The number that a field holds, if it holds nothing but digits; 0 if it is empty. -/
def number? (field : List Char) : Option Nat :=
  if field.all Char.isDigit then some (Nat.ofDigitChars 10 field 0) else none

/-- The numbers between the semicolons of a text. -/
def numbers? (parameters : List Char) : Option (List Nat) :=
  (Input.fields ';' parameters).mapM number?

variable {n : Nat} {ns : List Nat}

theorem isDigit_of_mem_digits {c : Char} (h : c ∈ digits n) : c.isDigit = true :=
  Nat.isDigit_of_mem_toDigits (by decide) (by decide) h

theorem semicolon_not_mem_digits (n : Nat) : ';' ∉ digits n := by
  intro h
  have hdigit := isDigit_of_mem_digits h
  cases hdigit

theorem number?_digits (n : Nat) : number? (digits n) = some n := by
  have hdigits : (digits n).all Char.isDigit = true :=
    List.all_eq_true.mpr fun _ hc => isDigit_of_mem_digits hc
  rw [number?, if_pos hdigits, digits, Nat.ofDigitChars_ten_toDigits]

/-- Numbers are read back as they were spelled. -/
theorem numbers?_spell (h : ns ≠ []) : numbers? (spell ns) = some ns := by
  induction ns with
  | nil => exact absurd rfl h
  | cons n ns ih =>
    cases ns with
    | nil =>
      rw [numbers?, spell, Input.fields_of_not_mem (semicolon_not_mem_digits n), List.mapM_cons,
        number?_digits]
      rfl
    | cons n' ns =>
      have hrest := ih (List.cons_ne_nil n' ns)
      rw [numbers?] at hrest
      rw [numbers?, spell, Input.fields_append (semicolon_not_mem_digits n), List.mapM_cons,
        number?_digits, hrest]
      · rfl
      · exact List.cons_ne_nil n' ns

theorem all_spell (ns : List Nat) : (spell ns).all isParameter = true := by
  induction ns with
  | nil => rfl
  | cons n ns ih =>
    cases ns with
    | nil => exact all_digits n
    | cons n' ns =>
      rw [spell, List.all_append, all_digits, List.all_cons, ih]
      · rfl
      · exact List.cons_ne_nil n' ns

end Sequence

/-! ## Attributes -/

namespace Attrs

/-- What a number makes of attributes if it stands by itself. One that means nothing is passed
over. -/
def renderOne (a : Attrs) : Nat → Attrs
  | 0 => {}
  | 1 => { a with styles := { a.styles with bold := true } }
  | 2 => { a with styles := { a.styles with dim := true } }
  | 3 => { a with styles := { a.styles with italic := true } }
  | 4 => { a with styles := { a.styles with underline := true } }
  | 5 => { a with styles := { a.styles with blink := true } }
  | 7 => { a with styles := { a.styles with inverse := true } }
  | 8 => { a with styles := { a.styles with hidden := true } }
  | 9 => { a with styles := { a.styles with strikethrough := true } }
  | _ => a

/-- What the numbers of a rendition make of attributes, one after another. A colour takes several of
them. -/
def render (a : Attrs) : List Nat → Attrs
  | [] => a
  | 38 :: 5 :: n :: rest => render { a with fg := .indexed (.ofNat n) } rest
  | 48 :: 5 :: n :: rest => render { a with bg := .indexed (.ofNat n) } rest
  | 38 :: 2 :: r :: g :: b :: rest =>
    render { a with fg := .rgb (.ofNat r) (.ofNat g) (.ofNat b) } rest
  | 48 :: 2 :: r :: g :: b :: rest =>
    render { a with bg := .rgb (.ofNat r) (.ofNat g) (.ofNat b) } rest
  | n :: rest => render (a.renderOne n) rest

end Attrs

namespace Color

/-- The numbers that choose a colour; `target` says for what. -/
def numbers (target : Nat) : Color → List Nat
  | .default => []
  | .indexed n => [target, 5, n.toNat]
  | .rgb r g b => [target, 2, r.toNat, g.toNat, b.toNat]

variable {color : Color}

theorem numbers_ne_nil (h : color ≠ .default) (target : Nat) : color.numbers target ≠ [] := by
  cases color with
  | default => exact absurd rfl h
  | indexed | rgb => exact List.cons_ne_nil _ _

theorem colorParameters_eq (target : Nat) (color : Color) :
    colorParameters (digits target) color = spell (color.numbers target) := by
  cases color with
  | default => rfl
  | indexed n => simp only [colorParameters, numbers, spell, List.append_assoc]; rfl
  | rgb r g b => simp only [colorParameters, numbers, spell, List.append_assoc]; rfl

/-- A colour that is spelled is the colour that is chosen. -/
theorem render_numbers (h : color ≠ .default) (a : Attrs) :
    a.render (color.numbers 38) = { a with fg := color } ∧
      a.render (color.numbers 48) = { a with bg := color } := by
  cases color with
  | default => exact absurd rfl h
  | indexed n => simp [numbers, Attrs.render]
  | rgb r g b => simp [numbers, Attrs.render]

end Color

/-! ## Transcripts -/

/-- What can be seen of what a terminal does. -/
inductive Stroke
  /-- The cursor is put to a place, both coordinates counted from 0. -/
  | move (row col : Nat)
  | char (attrs : Attrs) (c : Char)
  deriving DecidableEq, Repr

/-- What a terminal has shown, and what it would draw with. -/
structure Transcript where
  attrs : Attrs := {}
  strokes : List Stroke := []
  deriving DecidableEq, Repr

namespace Transcript

/-- Shows a character. Control characters cannot be seen. -/
def print (t : Transcript) (c : Char) : Transcript :=
  if isControl c then t else { t with strokes := t.strokes ++ [.char t.attrs c] }

/-- Does what a sequence says, if it concerns attributes or the place of the cursor. Rows and
columns are counted from 1, and count as 1 where they are missing. -/
def obey (t : Transcript) (parameters : List Char) (final : Char) : Transcript :=
  match numbers? parameters with
  | none => t
  | some numbers =>
    if final = 'm' then { t with attrs := t.attrs.render numbers }
    else if final = 'H' then
      { t with strokes := t.strokes ++ [.move (numbers.getD 0 1 - 1) (numbers.getD 1 1 - 1)] }
    else t

def effects : Effects Transcript := ⟨print, obey⟩

/-- Reads a text to its end. -/
def read (t : Transcript) (text : List Char) : Transcript × Stage :=
  effects.scan (t, .printing) text

theorem read_append {t t' : Transcript} {text : List Char}
    (h : t.read text = (t', .printing)) (text' : List Char) :
    t.read (text ++ text') = t'.read text' := by
  rw [read, Effects.scan_append, ← read, h, read]

variable (t : Transcript)

theorem foldl_print {chars : List Char} (h : ∀ c ∈ chars, isControl c = false) :
    chars.foldl print t = { t with strokes := t.strokes ++ chars.map (.char t.attrs) } := by
  induction chars generalizing t with
  | nil => rw [List.map_nil, List.append_nil]; rfl
  | cons c chars ih =>
    obtain ⟨hc, hrest⟩ := List.forall_mem_cons.mp h
    have hfirst : t.print c = { t with strokes := t.strokes ++ [.char t.attrs c] } := by
      rw [print, hc]
      rfl
    rw [List.foldl_cons, hfirst, ih _ hrest, List.map_cons, List.append_assoc,
      List.singleton_append]

/-- Characters are printed with the attributes in force. -/
theorem read_text {chars : List Char} (h : ∀ c ∈ chars, isControl c = false) :
    t.read chars =
      ({ t with strokes := t.strokes ++ chars.map (.char t.attrs) }, .printing) := by
  have hescape : '\x1b' ∉ chars := by
    intro hmem
    have hcontrol := h _ hmem
    cases hcontrol
  rw [read, effects.scan_text t hescape]
  exact congrArg (·, Stage.printing) (t.foldl_print h)

theorem read_spelled {final : Char} (hfinal : isFinal final = true) (ns : List Nat) :
    t.read (escape (spell ns ++ [final])) = (t.obey (spell ns) final, .printing) :=
  effects.scan_escape t (all_spell ns) hfinal

theorem read_moveTo (row col : Nat) :
    t.read (Sequence.moveTo row col).encode =
      ({ t with strokes := t.strokes ++ [.move row col] }, .printing) := by
  have hspelled : (Sequence.moveTo row col).encode =
      escape (spell [row + 1, col + 1] ++ ['H']) := by
    simp only [encode, spell, List.append_assoc]
    rfl
  rw [hspelled, read_spelled t rfl, obey, numbers?_spell (List.cons_ne_nil _ _)]
  rfl

/-- Numbers that are spelled in a rendition are what the attributes change by. -/
theorem read_rendition {ns : List Nat} (h : ns ≠ []) :
    t.read (rendition (spell ns)) = ({ t with attrs := t.attrs.render ns }, .printing) := by
  rw [rendition, read_spelled t rfl, obey, numbers?_spell h]
  rfl

end Transcript

end TerminalSession
