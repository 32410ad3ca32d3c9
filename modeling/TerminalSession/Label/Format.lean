/-!
# Label formats

The arrangements of soft labels: how many there are, how they are grouped along the strip, and how
tall the strip is. A format is chosen by its code.
-/

namespace TerminalSession

/-- An arrangement of soft labels, named by the sizes of its groups. -/
inductive LabelFormat
  | threeTwoThree
  | fourFour
  | fourFourFour
  /-- Groups of four with a line of key names above the labels. -/
  | fourFourFourIndexed
  | fiveFive
  deriving DecidableEq, Repr, Inhabited

namespace LabelFormat

def ofCode? (code : UInt8) : Option LabelFormat :=
  match code with
  | 0 => some .threeTwoThree
  | 1 => some .fourFour
  | 2 => some .fourFourFour
  | 3 => some .fourFourFourIndexed
  | 55 => some .fiveFive
  | _ => none

/-- The sizes of the groups, from left to right. -/
def groups : LabelFormat → List Nat
  | .threeTwoThree => [3, 2, 3]
  | .fourFour => [4, 4]
  | .fourFourFour | .fourFourFourIndexed => [4, 4, 4]
  | .fiveFive => [5, 5]

def labelCount (f : LabelFormat) : Nat := f.groups.foldr (· + ·) 0

def lineCount : LabelFormat → Nat
  | .fourFourFourIndexed => 2
  | _ => 1

/-- The line of the strip that shows the labels, which is its last. -/
def labelLine (f : LabelFormat) : Nat := f.lineCount - 1

/-- The columns set aside for each label on a strip of `cols` columns. -/
def slot (f : LabelFormat) (cols : Nat) : Nat := min (cols / f.labelCount) 31

/-- The first column of each group, given the position of the group and its size: the first group
hugs the left edge, the last one the right edge, and one between them is centred. -/
def groupStart (f : LabelFormat) (cols : Nat) (group size : Nat) : Nat :=
  let margin := cols - f.slot cols * size
  if group = 0 then 0
  else if group = f.groups.length - 1 then margin
  else margin / 2

def starts (f : LabelFormat) (cols : Nat) : List Nat :=
  f.groups.zipIdx.flatMap fun (size, group) =>
    (List.range size).map fun i => f.groupStart cols group size + i * f.slot cols

/-- The columns each label's text gets: the slot but for one column between neighbours, and never
more than eight. -/
def textWidth (f : LabelFormat) (cols : Nat) : Nat := min (f.slot cols - 1) 8

theorem length_starts (f : LabelFormat) (cols : Nat) : (f.starts cols).length = f.labelCount := by
  cases f <;> rfl

end LabelFormat

end TerminalSession
