import TerminalSession.Text.Unseen

/-!
# Quoted text

Text between double quotes, as log events show arguments. Quotes and backslashes are written after
a backslash, and characters that would not be seen are written by name or by number.
-/

namespace TerminalSession.Quoted

/-- A number in lower-case hexadecimal. -/
def hex (n : Nat) : List Char := Nat.toDigits 16 n

/-- The written form of a character between double quotes. -/
def encodeChar (c : Char) : List Char :=
  match c with
  | '"' => ['\\', '"']
  | '\\' => ['\\', '\\']
  | '\n' => ['\\', 'n']
  | '\r' => ['\\', 'r']
  | '\t' => ['\\', 't']
  | '\x00' => ['\\', '0']
  | c =>
    if isSeen c then [c] else ['\\', 'u', '\x7b'] ++ hex c.toNat ++ ['\x7d']

def encode (text : String) : String :=
  String.ofList ('"' :: text.toList.flatMap encodeChar ++ ['"'])

def encodeList (texts : List String) : String :=
  "[" ++ String.intercalate ", " (texts.map encode) ++ "]"

end TerminalSession.Quoted
