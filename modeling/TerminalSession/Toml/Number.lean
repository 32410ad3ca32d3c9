/-!
# Numbers in TOML

Which tokens are numbers. Whole numbers are those of 64 bits with a sign, in any of four bases; the
other numbers are only recognised. A number between whose digits single underscores stand is the
number without them.
-/

namespace TerminalSession.Toml

def digit? (base : Nat) (c : Char) : Option Nat :=
  let value :=
    if '0' ≤ c ∧ c ≤ '9' then c.toNat - '0'.toNat
    else if 'a' ≤ c ∧ c ≤ 'f' then c.toNat - 'a'.toNat + 10
    else if 'A' ≤ c ∧ c ≤ 'F' then c.toNat - 'A'.toNat + 10
    else base
  if value < base then some value else none

/-- The values of digits, of which there is at least one. Underscores stand between digits only. -/
def digits? (base : Nat) : List Char → Option (List Nat)
  | [] => none
  | [c] => do return [← digit? base c]
  | c :: '_' :: rest => do return (← digit? base c) :: (← digits? base rest)
  | c :: rest => do return (← digit? base c) :: (← digits? base rest)

def ofDigits (base : Nat) (digits : List Nat) : Nat := digits.foldl (fun n d => n * base + d) 0

/-- The digits of a decimal number. One that has several does not begin with 0. -/
def decimalDigits? (cs : List Char) : Option (List Nat) := do
  let digits ← digits? 10 cs
  guard (digits.head? ≠ some 0 ∨ digits.length = 1)
  return digits

/-- A whole number without its sign. -/
def natural? : List Char → Option Nat
  | '0' :: 'x' :: rest => (digits? 16 rest).map (ofDigits 16)
  | '0' :: 'o' :: rest => (digits? 8 rest).map (ofDigits 8)
  | '0' :: 'b' :: rest => (digits? 2 rest).map (ofDigits 2)
  | cs => (decimalDigits? cs).map (ofDigits 10)

/-- The whole number that a token stands for. Only decimal numbers may have a sign. -/
def integer? (token : List Char) : Option Int := do
  let n : Int ← match token with
    | '-' :: cs => (decimalDigits? cs).map fun digits => -(ofDigits 10 digits : Int)
    | '+' :: cs => (decimalDigits? cs).map fun digits => (ofDigits 10 digits : Int)
    | cs => (natural? cs).map Int.ofNat
  guard (-Int.pow 2 63 ≤ n ∧ n < Int.pow 2 63)
  return n

/-- The exponent at the end of a token, 0 if there is none. -/
def exponent? : List Char → Option Int
  | [] => some 0
  | e :: cs => do
    guard (e = 'e' ∨ e = 'E')
    match cs with
    | '-' :: cs => return -(ofDigits 10 (← digits? 10 cs) : Int)
    | '+' :: cs => return (ofDigits 10 (← digits? 10 cs) : Int)
    | cs => return (ofDigits 10 (← digits? 10 cs) : Int)

/-- The least number that a double rounds to infinity. -/
def doubleBound : Nat := (Nat.pow 2 54 - 1) * Nat.pow 2 970

/-- Whether the number `n · 10 ^ exponent` is too large for a double. Numbers far from the bound
are told by their size alone. -/
def tooLarge (n : Nat) (exponent : Int) : Bool :=
  let size := (Nat.toDigits 10 n).length + exponent
  n != 0 && (310 < size ||
    (300 ≤ size && doubleBound * Nat.pow 10 (-exponent).toNat ≤ n * Nat.pow 10 exponent.toNat))

/-- Whether a token without a sign is a number with a fraction or an exponent, and if `bounded`,
one that a double can hold. -/
def isFraction (bounded : Bool) (cs : List Char) : Bool :=
  let inNumber (c : Char) : Bool := c.isDigit || c == '_'
  let whole := cs.takeWhile inNumber
  let read : Option (Nat × Int) := do
    let wholeDigits ← decimalDigits? whole
    match cs.dropWhile inNumber with
    | [] => none
    | '.' :: rest =>
      let fraction ← digits? 10 (rest.takeWhile inNumber)
      let exponent ← exponent? (rest.dropWhile inNumber)
      return (ofDigits 10 (wholeDigits ++ fraction), exponent - fraction.length)
    | rest => return (ofDigits 10 wholeDigits, ← exponent? rest)
  read.any fun (n, exponent) => !(bounded && tooLarge n exponent)

/-- Whether a token without a sign is infinity or no number at all. -/
def isSpecial (cs : List Char) : Bool := cs == ['i', 'n', 'f'] || cs == ['n', 'a', 'n']

/-- Whether a token is a number that is not written as a whole one. -/
def isFloat : List Char → Bool
  | '-' :: cs => isSpecial cs || isFraction false cs
  | '+' :: cs => isSpecial cs || isFraction true cs
  | cs => isSpecial cs || isFraction true cs

end TerminalSession.Toml
