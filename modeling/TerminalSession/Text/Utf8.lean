/-!
# Reading UTF-8

A byte sequence read as text, piece by piece: a piece is a character, or a malformed stretch that
no character can be made of. `decode?` is for text that has to be well formed, `decodeLossy` shows
each malformed stretch as U+FFFD.

A malformed stretch ends before the first byte that cannot continue the character begun, and that
byte begins the next piece.
-/

namespace TerminalSession.Utf8

/-- A character begun: how many bytes it still needs, the range of the next one, and the bits so
far. -/
structure Begun where
  need : Nat
  low : Nat := 0x80
  high : Nat := 0xBF
  bits : Nat

/-- What a byte is at the start of a character. -/
inductive Lead
  | ascii (c : Char)
  | begins (b : Begun)
  | malformed

/-- The role of a byte at the start of a character. After some bytes the range of the next one is
narrower, which excludes long forms, surrogates and numbers above U+10FFFF. -/
def lead (b : Nat) : Lead :=
  if b < 0x80 then .ascii (Char.ofNat b)
  else if b < 0xC2 then .malformed
  else if b < 0xE0 then .begins { need := 1, bits := b - 0xC0 }
  else if b = 0xE0 then .begins { need := 2, low := 0xA0, bits := 0 }
  else if b = 0xED then .begins { need := 2, high := 0x9F, bits := 0xD }
  else if b < 0xF0 then .begins { need := 2, bits := b - 0xE0 }
  else if b = 0xF0 then .begins { need := 3, low := 0x90, bits := 0 }
  else if b < 0xF4 then .begins { need := 3, bits := b - 0xF0 }
  else if b = 0xF4 then .begins { need := 3, high := 0x8F, bits := 4 }
  else .malformed

/-- The pieces of a byte sequence, `none` for a malformed stretch, after a character begun. -/
def pieces : Option Begun → List UInt8 → List (Option Char)
  | none, [] => []
  | some _, [] => [none]
  | none, b :: bytes =>
    match lead b.toNat with
    | .ascii c => some c :: pieces none bytes
    | .begins begun => pieces (some begun) bytes
    | .malformed => none :: pieces none bytes
  | some begun, b :: bytes =>
    if begun.low ≤ b.toNat ∧ b.toNat ≤ begun.high then
      let bits := begun.bits * 0x40 + (b.toNat - 0x80)
      if begun.need ≤ 1 then some (Char.ofNat bits) :: pieces none bytes
      else pieces (some { need := begun.need - 1, bits }) bytes
    else
      match lead b.toNat with
      | .ascii c => none :: some c :: pieces none bytes
      | .begins begun' => none :: pieces (some begun') bytes
      | .malformed => none :: none :: pieces none bytes

def decode? (bytes : List UInt8) : Option (List Char) := (pieces none bytes).mapM id

/-- The text of a byte sequence, with U+FFFD for each malformed stretch. -/
def decodeLossy (bytes : List UInt8) : List Char :=
  (pieces none bytes).map fun piece => piece.getD '\uFFFD'

def encode (text : List Char) : List UInt8 := text.flatMap String.utf8EncodeChar

end TerminalSession.Utf8
