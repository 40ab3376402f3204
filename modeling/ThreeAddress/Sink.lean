import ThreeAddress.Error

set_option autoImplicit false

namespace ThreeAddress

/-- What was written, in pieces with the newest first, and how much more is taken. -/
structure Sink where
  pieces : List Bytes := []
  room : Option Nat := none
  /-- The words with which a full sink refuses. -/
  refusal : String := "closed"
  /-- The words with which the sink refuses to pass on what it took, if it does. -/
  flushRefusal : Option String := none
  deriving DecidableEq, Repr

namespace Sink

def written (sink : Sink) : Bytes :=
  sink.pieces.reverse.flatten

/-- A sink without room for all bytes takes those that fit, and refuses. -/
def write (sink : Sink) (bytes : Bytes) : Except Fault Unit × Sink :=
  match sink.room with
  | none => (.ok (), { sink with pieces := bytes :: sink.pieces })
  | some room =>
    if bytes.length ≤ room then
      (.ok (), { sink with pieces := bytes :: sink.pieces, room := some (room - bytes.length) })
    else
      (.error (.output sink.refusal),
        { sink with pieces := bytes.take room :: sink.pieces, room := some 0 })

end Sink

end ThreeAddress
