import TerminalSession.Toml.Table
import TerminalSession.Toml.Text
import TerminalSession.Toml.Time

/-!
# Keys and values of TOML

Reading keys and values. Arrays and inline tables contain values, to a fixed depth, which is what
`value` recurses on: `value depth` reads a value with at most `depth` brackets and braces open at
once.
-/

namespace TerminalSession.Toml

/-- The most parts a key may have. -/
def maxKeyParts : Nat := 79

/-- The most brackets and braces that may be open at once. -/
def maxDepth : Nat := 79

def keyPart : Reader String
  | cs@(c :: _) =>
    if c == '"' || c == '\x27' then
      (quotedLine cs).map fun (name, rest) => (String.ofList name, rest)
    else if isBare c then some (String.ofList (cs.takeWhile isBare), cs.dropWhile isBare)
    else none
  | [] => none

/-- Reads the parts of a key, at most `count`, with the spaces around each. -/
def keyParts : (count : Nat) → Reader (List String)
  | 0, _ => none
  | count + 1, cs => do
    let (part, rest) ← keyPart (skipSpaces cs)
    match skipSpaces rest with
    | '.' :: rest =>
      let (parts, rest) ← keyParts count rest
      return (part :: parts, rest)
    | rest => return ([part], rest)

def key : Reader Key := fun cs => do
  let (parts, rest) ← keyParts maxKeyParts cs
  let name ← parts.getLast?
  return ({ path := parts.dropLast, name }, rest)

def ofToken? (token : List Char) : Option Value :=
  if token = ['t', 'r', 'u', 'e'] then some (.boolean true)
  else if token = ['f', 'a', 'l', 's', 'e'] then some (.boolean false)
  else if isDate token || isTime token || isMoment token then some (.time (String.ofList token))
  else if isFloat token then some (.float (String.ofList token))
  else (integer? token).map .integer

/-- The time of day that goes with a date when only a space stands between them. -/
def timeAfter? (date rest : List Char) : Option (List Char) :=
  match rest with
  | ' ' :: more =>
    if isDate date && more.head?.any Char.isDigit then some (more.takeWhile isToken) else none
  | _ => none

/-- Reads a value that is not a text and not put together from others. -/
def scalar : Reader Value := fun cs =>
  let token := cs.takeWhile isToken
  let rest := cs.dropWhile isToken
  match timeAfter? token rest with
  | none => do return (← ofToken? token, rest)
  | some time => do
    let moment := token ++ ' ' :: time
    guard (isMoment moment)
    return (.time (String.ofList moment), rest.drop (time.length + 1))

def text : Reader Value := fun cs => do
  let (chars, rest) ← quoted cs
  return (.text (String.ofList chars), rest)

/-- Reads the items of an array up to its end. Each takes at least a character, so their number is
bounded by `fuel`, the length of what is read. -/
def items (item : Reader Value) : (fuel : Nat) → Reader (List Value)
  | 0, _ => none
  | fuel + 1, cs => do
    match ← skipLines false cs with
    | ']' :: rest => return ([], rest)
    | cs =>
      let (value, rest) ← item cs
      match ← skipLines false rest with
      | ',' :: rest =>
        let (values, rest) ← items item fuel rest
        return (value :: values, rest)
      | ']' :: rest => return ([value], rest)
      | _ => none

/-- Reads `key = value` with the spaces before and between; `item` reads the value. -/
def pair (item : Reader Value) : Reader (Key × Value) := fun cs => do
  match ← key cs with
  | (key, '=' :: rest) =>
    let (value, rest) ← item (skipSpaces rest)
    return ((key, value), rest)
  | _ => none

/-- Reads the pairs of an inline table up to its end. Their number is bounded by `fuel`. -/
def pairs (item : Reader Value) : (fuel : Nat) → Reader (List (Key × Value))
  | 0, _ => none
  | fuel + 1, cs => do
    let (first, rest) ← pair item cs
    match skipSpaces rest with
    | ',' :: rest =>
      let (others, rest) ← pairs item fuel rest
      return (first :: others, rest)
    | '}' :: rest => return ([first], rest)
    | _ => none

def array (item : Reader Value) : Reader Value := fun cs => do
  let (values, rest) ← items item cs.length cs
  return (.array .literal values, rest)

def inlineTable (item : Reader Value) : Reader Value := fun cs => do
  match skipSpaces cs with
  | '}' :: rest => return (.table .literal [], rest)
  | cs =>
    let (assignments, rest) ← pairs item cs.length cs
    let entries ← assignments.foldlM (fun entries (key, value) => assign key value entries) []
    return (.table .literal entries, rest)

def value : (depth : Nat) → Reader Value
  | _, cs@('"' :: _) | _, cs@('\x27' :: _) => text cs
  | depth + 1, '[' :: rest => array (value depth) rest
  | depth + 1, '\x7b' :: rest => inlineTable (value depth) rest
  | _, cs => scalar cs

end TerminalSession.Toml
