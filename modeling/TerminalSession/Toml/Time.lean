import TerminalSession.Toml.Number

/-!
# Dates and times in TOML

Which tokens are dates, times of day, or both with an optional distance from universal time.
-/

namespace TerminalSession.Toml

/-- The number that exactly these digits stand for. -/
def fixed? (cs : List Char) : Option Nat := (cs.mapM (digit? 10)).map (ofDigits 10)

def isLeapYear (year : Nat) : Bool := year % 4 == 0 && (year % 100 != 0 || year % 400 == 0)

def monthLength (year month : Nat) : Nat :=
  if month = 2 then (if isLeapYear year then 29 else 28)
  else if month ∈ [4, 6, 9, 11] then 30
  else 31

/-- Whether the digits of a year, a month and a day make a date. -/
def isDay (year month day : List Char) : Bool :=
  Option.any id do
    let year ← fixed? year
    let month ← fixed? month
    let day ← fixed? day
    return 1 ≤ month && month ≤ 12 && 1 ≤ day && day ≤ monthLength year month

def isPart (bound : Nat) (a b : Char) : Bool := (fixed? [a, b]).any (· ≤ bound)

/-- Whether a text is a distance from universal time, or nothing. -/
def isOffset : List Char → Bool
  | [] | ['Z'] | ['z'] => true
  | [sign, h, h', ':', m, m'] => (sign == '+' || sign == '-') && isPart 23 h h' && isPart 59 m m'
  | _ => false

/-- Whether a text is a time of day followed by something `tail` accepts. A fraction of a second
may have any number of digits. -/
def isTimeThen (tail : List Char → Bool) : List Char → Bool
  | h :: h' :: ':' :: m :: m' :: ':' :: s :: s' :: rest =>
    isPart 23 h h' && isPart 59 m m' && isPart 60 s s' &&
      match rest with
      | '.' :: rest => rest.head?.any Char.isDigit && tail (rest.dropWhile Char.isDigit)
      | rest => tail rest
  | _ => false

def isTime : List Char → Bool := isTimeThen List.isEmpty

/-- Whether a text is a date followed by something `tail` accepts. -/
def isDateThen (tail : List Char → Bool) : List Char → Bool
  | y :: y' :: y'' :: y''' :: '-' :: m :: m' :: '-' :: d :: d' :: rest =>
    isDay [y, y', y'', y'''] [m, m'] [d, d'] && tail rest
  | _ => false

def isDate : List Char → Bool := isDateThen List.isEmpty

/-- Whether a text is a date and a time of day, with or without a distance. -/
def isMoment : List Char → Bool :=
  isDateThen fun
    | separator :: rest =>
      (separator == 'T' || separator == 't' || separator == ' ') && isTimeThen isOffset rest
    | [] => false

end TerminalSession.Toml
