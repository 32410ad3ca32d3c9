/-!
# Characters and lines of TOML

The classes of characters, and what stands between the parts of a document: spaces, comments and
line ends. A line ends with a line feed, perhaps after a carriage return.
-/

namespace TerminalSession.Toml

/-- Reads something at the front of a text and gives what it read and what is left. -/
abbrev Reader (α : Type) : Type := List Char → Option (α × List Char)

def isSpace (c : Char) : Bool := c == ' ' || c == '\t'

/-- Everything but control characters; the tab is none. -/
def isPlain (c : Char) : Bool := c == '\t' || (0x20 ≤ c.toNat && c.toNat != 0x7F)

/-- The characters of a name without quotes. -/
def isBare (c : Char) : Bool := c.isAlphanum || c == '_' || c == '-'

/-- The characters of a value that is neither text nor put together from others. -/
def isToken (c : Char) : Bool := isBare c || c == '+' || c == '.' || c == ':'

def skipSpaces (cs : List Char) : List Char := cs.dropWhile isSpace

def newline? : List Char → Option (List Char)
  | '\n' :: rest => some rest
  | '\r' :: '\n' :: rest => some rest
  | _ => none

/-- The text after the comment at its front, if there is one. -/
def skipComment : List Char → List Char
  | '#' :: rest => rest.dropWhile isPlain
  | cs => cs

/-- The text after what may stand at the end of a line: spaces, a comment, and the line end, or
nothing more. -/
def lineEnd? (cs : List Char) : Option (List Char) :=
  match skipComment (skipSpaces cs) with
  | [] => some []
  | rest => newline? rest

/-- The text after spaces, comments and line ends. -/
def skipLines (inComment : Bool) : List Char → Option (List Char)
  | [] => some []
  | '\n' :: rest => skipLines false rest
  | '\r' :: '\n' :: rest => skipLines false rest
  | c :: rest =>
    if inComment then
      if isPlain c then skipLines true rest else none
    else if c = '#' then skipLines true rest
    else if isSpace c then skipLines false rest
    else some (c :: rest)

end TerminalSession.Toml
