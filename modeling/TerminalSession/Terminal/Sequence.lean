import TerminalSession.Cell
import TerminalSession.Terminal.Basic
import TerminalSession.Text.Utf8

/-!
# Control sequences

What a program says to a terminal: text to print and sequences that move the cursor, choose how
text is drawn, and switch the terminal's modes. `encode` writes a sequence down.
-/

namespace TerminalSession

/-- One thing said to a terminal. -/
inductive Sequence
  | text (chars : List Char)
  | hideCursor
  | showCursor
  /-- Wipes the whole screen. -/
  | clearAll
  /-- Moves the cursor to a row and a column, both counted from 0. -/
  | moveTo (row col : Nat)
  /-- Back to default colours and no style. -/
  | reset
  | bold
  | dim
  | italic
  | underline
  | blink
  | inverse
  | hidden
  | strikethrough
  | foreground (color : Color)
  | background (color : Color)
  | enterAlternateScreen
  | leaveAlternateScreen
  | disableWrap
  | enableWrap
  | cursorShape (shape : CursorShape)
  /-- Asks for a size. -/
  | resize (rows cols : Nat)
  deriving DecidableEq, Repr

namespace Sequence

def digits (n : Nat) : List Char := Nat.toDigits 10 n

/-- A sequence that begins with escape and bracket. -/
def escape (body : List Char) : List Char := '\x1b' :: '[' :: body

/-- A sequence that changes how text is drawn. -/
def rendition (parameters : List Char) : List Char := escape (parameters ++ ['m'])

/-- The parameters that choose a colour; `target` says for what. The terminal's own colour has
none: it is what a reset leaves. -/
def colorParameters (target : List Char) : Color → List Char
  | .default => []
  | .indexed n => target ++ [';', '5', ';'] ++ digits n.toNat
  | .rgb r g b =>
    target ++ [';', '2', ';'] ++ digits r.toNat ++ [';'] ++ digits g.toNat ++ [';'] ++
      digits b.toNat

def shapeNumber : CursorShape → Nat
  | .default => 0
  | .blinkingBlock => 1
  | .steadyBlock => 2
  | .blinkingUnderline => 3
  | .steadyUnderline => 4
  | .blinkingBar => 5
  | .steadyBar => 6

/-- A sequence as characters. Rows and columns are counted from 1 there. -/
def encode : Sequence → List Char
  | .text chars => chars
  | .hideCursor => escape ['?', '2', '5', 'l']
  | .showCursor => escape ['?', '2', '5', 'h']
  | .clearAll => escape ['2', 'J']
  | .moveTo row col => escape (digits (row + 1) ++ [';'] ++ digits (col + 1) ++ ['H'])
  | .reset => rendition ['0']
  | .bold => rendition ['1']
  | .dim => rendition ['2']
  | .italic => rendition ['3']
  | .underline => rendition ['4']
  | .blink => rendition ['5']
  | .inverse => rendition ['7']
  | .hidden => rendition ['8']
  | .strikethrough => rendition ['9']
  | .foreground color => rendition (colorParameters ['3', '8'] color)
  | .background color => rendition (colorParameters ['4', '8'] color)
  | .enterAlternateScreen => escape ['?', '1', '0', '4', '9', 'h']
  | .leaveAlternateScreen => escape ['?', '1', '0', '4', '9', 'l']
  | .disableWrap => escape ['?', '7', 'l']
  | .enableWrap => escape ['?', '7', 'h']
  | .cursorShape shape => escape (digits (shapeNumber shape) ++ [' ', 'q'])
  | .resize rows cols => escape (['8', ';'] ++ digits rows ++ [';'] ++ digits cols ++ ['t'])

def encodeAll (sequences : List Sequence) : List Char := sequences.flatMap encode

def bytes (s : Sequence) : List UInt8 := Utf8.encode s.encode

end Sequence

end TerminalSession
