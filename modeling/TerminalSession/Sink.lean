import TerminalSession.Action
import TerminalSession.Terminal.Sequence

/-!
# Sinks

Where control sequences are written to. A sink may have room for so many bytes only; it then takes
the beginning of the first sequence that does not fit, as far as there is room, and refuses the
rest. What it has taken is known both as sequences and as bytes.
-/

namespace TerminalSession

/-- Why a sink refuses a sequence. -/
inductive SinkError
  | full
  deriving DecidableEq, Repr

/-- A place to write sequences to. -/
structure Sink where
  /-- How many more bytes are taken, if that is limited. -/
  room : Option Nat := none
  /-- The sequences taken whole. -/
  taken : Array Sequence := #[]
  /-- The bytes taken of the first sequence refused. -/
  cut : List UInt8 := []
  deriving DecidableEq, Repr

namespace Sink

def write (s : Sequence) : Action Sink SinkError Unit :=
  .ofFn fun sink =>
    match sink.room with
    | none => (.ok (), { sink with taken := sink.taken.push s })
    | some room =>
      let bytes := s.bytes
      if bytes.length ≤ room then
        (.ok (), { sink with taken := sink.taken.push s, room := some (room - bytes.length) })
      else (.error .full, { sink with cut := bytes.take room, room := some 0 })

def bytes (sink : Sink) : List UInt8 :=
  Utf8.encode (Sequence.encodeAll sink.taken.toList) ++ sink.cut

/-- All that was taken, as text; a character cut in two shows as U+FFFD. -/
def text (sink : Sink) : String :=
  String.ofList (Sequence.encodeAll sink.taken.toList ++ Utf8.decodeLossy sink.cut)

end Sink

end TerminalSession
