import TerminalSession.Toml.Character
import TerminalSession.Toml.Number

/-!
# Texts in TOML

A text stands between double quotes, where a backslash begins an escape, or between single quotes,
where it does not. Between three quotes it may run over several lines; a line end right after them
is not part of it, and a line end is always read as a line feed.
-/

namespace TerminalSession.Toml

/-- Reads the first part of something when the rest of it is read by `r`. -/
def consChar (c : Char) (r : Option (List Char × List Char)) : Option (List Char × List Char) :=
  r.map fun (cs, rest) => (c :: cs, rest)

/-- The character that a letter after a backslash stands for. -/
def escaped? : Char → Option Char
  | 'b' => some '\x08'
  | 't' => some '\t'
  | 'n' => some '\n'
  | 'f' => some '\x0c'
  | 'r' => some '\r'
  | '"' => some '"'
  | '\\' => some '\\'
  | _ => none

def numbered? (digits : List Char) : Option Char := do
  let n := ofDigits 16 (← digits.mapM (digit? 16))
  if n.isValidChar then some (Char.ofNat n) else none

/-- Reads the rest of a text on one line between double quotes. -/
def escapedLine : Reader (List Char)
  | [] => none
  | '"' :: rest => some ([], rest)
  | '\\' :: 'u' :: a :: b :: c :: d :: rest => do
    consChar (← numbered? [a, b, c, d]) (escapedLine rest)
  | '\\' :: 'U' :: a :: b :: c :: d :: e :: f :: g :: h :: rest => do
    consChar (← numbered? [a, b, c, d, e, f, g, h]) (escapedLine rest)
  | '\\' :: c :: rest => do consChar (← escaped? c) (escapedLine rest)
  | c :: rest => if isPlain c then consChar c (escapedLine rest) else none

/-- Reads the rest of a text on one line between single quotes. -/
def plainLine : Reader (List Char)
  | [] => none
  | '\x27' :: rest => some ([], rest)
  | c :: rest => if isPlain c then consChar c (plainLine rest) else none

/-- The end of a text after three quotes: up to two more quotes belong to it. -/
def closing (quote : Char) (cs : List Char) : List Char × List Char :=
  let more := (cs.take 2).takeWhile (· == quote)
  (more, cs.drop more.length)

/-- Whether nothing but spaces stands before the next line end. -/
def endsLine (cs : List Char) : Bool := (newline? (skipSpaces cs)).isSome

/-- Reads the rest of a text between three double quotes. After a backslash at the end of a line,
when `joining`, spaces and line ends are left out up to the next other character. -/
def escapedLines (joining : Bool) : Reader (List Char)
  | [] => none
  | '"' :: '"' :: '"' :: rest => some (closing '"' rest)
  | '\\' :: 'u' :: a :: b :: c :: d :: rest => do
    consChar (← numbered? [a, b, c, d]) (escapedLines false rest)
  | '\\' :: 'U' :: a :: b :: c :: d :: e :: f :: g :: h :: rest => do
    consChar (← numbered? [a, b, c, d, e, f, g, h]) (escapedLines false rest)
  | '\\' :: c :: rest =>
    if endsLine (c :: rest) then escapedLines true (c :: rest)
    else do consChar (← escaped? c) (escapedLines false rest)
  | '\r' :: '\n' :: rest =>
    if joining then escapedLines true rest else consChar '\n' (escapedLines false rest)
  | c :: rest =>
    if joining && (isSpace c || c == '\n') then escapedLines true rest
    else if isPlain c || c == '\n' then consChar c (escapedLines false rest)
    else none

/-- Reads the rest of a text between three single quotes. -/
def plainLines : Reader (List Char)
  | [] => none
  | '\x27' :: '\x27' :: '\x27' :: rest => some (closing '\x27' rest)
  | '\r' :: '\n' :: rest => consChar '\n' (plainLines rest)
  | c :: rest => if isPlain c || c == '\n' then consChar c (plainLines rest) else none

def skipNewline (cs : List Char) : List Char := (newline? cs).getD cs

def quotedLine : Reader (List Char)
  | '"' :: rest => escapedLine rest
  | '\x27' :: rest => plainLine rest
  | _ => none

def quoted : Reader (List Char)
  | '"' :: '"' :: '"' :: rest => escapedLines false (skipNewline rest)
  | '\x27' :: '\x27' :: '\x27' :: rest => plainLines (skipNewline rest)
  | cs => quotedLine cs

end TerminalSession.Toml
