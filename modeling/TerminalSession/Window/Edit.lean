import TerminalSession.Window.Basic

/-!
# Edits

The changes that can be asked for on a window. An edit is a value, so a history of a window is a
list of edits and its outcome is `Window.edits`.
-/

namespace TerminalSession

/-- A change to one window. -/
inductive Edit
  | resize (rows cols : Nat)
  | move (top left : Nat)
  | erase
  | eraseBelow
  | setAttrs (attrs : Attrs)
  | putText (row col : Nat) (text : String)
  | markDirty
  | markClean
  | setClear (clear : Bool)
  deriving DecidableEq, Repr

namespace Window

def edit (w : Window) : Edit → Window
  | .resize rows cols => w.resize rows cols
  | .move top left => w.move top left
  | .erase => w.erase
  | .eraseBelow => w.eraseBelow
  | .setAttrs attrs => { w with attrs }
  | .putText row col text => w.putText row col text
  | .markDirty => w.markAll
  | .markClean => w.markClean
  | .setClear clear => { w with clear }

def edits (w : Window) (es : List Edit) : Window := es.foldl edit w

@[simp] theorem edits_nil (w : Window) : w.edits [] = w := rfl

@[simp] theorem edits_cons (w : Window) (e : Edit) (es : List Edit) :
    w.edits (e :: es) = (w.edit e).edits es := rfl

theorem edits_append (w : Window) (es es' : List Edit) :
    w.edits (es ++ es') = (w.edits es).edits es' := List.foldl_append

end Window

end TerminalSession
