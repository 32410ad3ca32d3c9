import TerminalSession.Engine.Basic
import TerminalSession.Label.Fit
import TerminalSession.Label.Format

/-!
# The strip of soft labels

The labels of the function keys and the window they are drawn in. Labels exist once a format is
chosen; their columns are known once they are laid out; they are drawn once they have a window.
-/

namespace TerminalSession

/-- Why soft labels refuse a call. -/
inductive LabelError
  | unknownFormat (code : UInt8)
  | noSuchLabel (index count : Nat)
  | notInitialized
  deriving DecidableEq, Repr

def LabelError.message : LabelError → String
  | .unknownFormat code => s!"unknown soft label format {code}"
  | .noSuchLabel index count => s!"label {index} out of range (1..={count})"
  | .notInitialized => "soft labels are not initialized"

/-- One soft label. -/
structure Label where
  text : String := ""
  justify : Justify := .left
  start : Nat := 0
  deriving DecidableEq, Repr, Inhabited

/-- The soft labels of a screen. -/
structure SoftLabels where
  format : Option LabelFormat := none
  labels : Array Label := #[]
  /-- The columns each label's text gets. -/
  width : Nat := 0
  window : Option WindowId := none
  deriving DecidableEq, Repr, Inhabited

namespace SoftLabels

/-- Chooses a format. All labels are empty afterwards. -/
def init (s : SoftLabels) (code : UInt8) : Except LabelError SoftLabels :=
  match LabelFormat.ofCode? code with
  | none => .error (.unknownFormat code)
  | some format =>
    .ok { s with
      format := some format
      labels := Array.replicate format.labelCount {}
      width := 0 }

/-- No labels, no format and no window. -/
def free (_ : SoftLabels) : SoftLabels := {}

def lineCount (s : SoftLabels) : Nat := (s.format.map LabelFormat.lineCount).getD 0

def isInitialized (s : SoftLabels) : Bool := s.format.isSome

/-- Changes the text of label `index`, counted from 1. -/
def setLabel (s : SoftLabels) (index : Nat) (text : String) (justify : Justify) :
    Except LabelError SoftLabels :=
  if s.format.isNone then .error .notInitialized
  else if index = 0 ∨ s.labels.size < index then .error (.noSuchLabel index s.labels.size)
  else
    let text := String.ofList (labelText text.toList)
    .ok { s with labels := s.labels.modify (index - 1) ({ · with text, justify }) }

/-- The text of label `index`, counted from 1. -/
def label? (s : SoftLabels) (index : Nat) : Option String :=
  if index = 0 then none else s.labels[index - 1]?.map Label.text

def starts (s : SoftLabels) : List Nat := s.labels.toList.map Label.start

def layOut (s : SoftLabels) (cols : Nat) : SoftLabels :=
  match s.format with
  | none => s
  | some format =>
    let starts := format.starts cols
    { s with
      labels := s.labels.mapIdx fun i label => { label with start := starts.getD i 0 }
      width := format.textWidth cols }

/-- The text that label number `i`, counted from 0, shows in the line of key names. -/
def keyName (i width : Nat) : String :=
  String.ofList (cutToWidth ('F' :: (toString (i + 1)).toList) width)

/-- The writing of one label: its key name if the format shows names, then its text. -/
def labelEdits (format : LabelFormat) (width i : Nat) (label : Label) : List Edit :=
  let text := String.ofList (justifyText label.text.toList width label.justify)
  let edits := [.putText format.labelLine label.start text]
  if 0 < format.labelLine then .putText 0 label.start (keyName i width) :: edits else edits

/-- What drawing the strip does to its window. Labels too narrow for a character are left out. -/
def drawing (s : SoftLabels) (format : LabelFormat) : List Edit :=
  [.setAttrs .inverse, .erase] ++
    if s.width = 0 then []
    else s.labels.toList.zipIdx.flatMap fun (label, i) => labelEdits format s.width i label

/-- Draws the labels into their window, if they have a format and a window. -/
def draw {E : Type} [WindowEngine E] (s : SoftLabels) : Action E WindowError Unit :=
  match s.format, s.window with
  | some format, some window => (s.drawing format).forM (WindowEngine.edit window)
  | _, _ => pure ()

end SoftLabels

end TerminalSession
