import MiniJ.Trace

/-!
# Output

A sink takes bytes, all of them or only so many. A console is a sink and a trace. What a run does to
a console is a list of acts: it says a line of its own, which must be taken in full, it shows a
rendered text, whose fate does not matter, or it notes an entry of the trace.
-/

set_option autoImplicit false

namespace MiniJ

/-- Bytes that were taken, and the number of those still to be taken if that is limited. -/
structure Sink where
  taken : ByteArray
  room : Option Nat

namespace Sink

/-- A sink that has taken nothing yet. -/
def empty (room : Option Nat) : Sink :=
  ⟨ByteArray.empty, room⟩

/-- Write a text, and say whether it was taken in full. What does not fit is cut off. -/
def write : Sink → String → Bool × Sink
  | ⟨taken, none⟩, text => (true, ⟨taken ++ text.toUTF8, none⟩)
  | ⟨taken, some room⟩, text =>
    let bytes := text.toUTF8
    if bytes.size ≤ room then (true, ⟨taken ++ bytes, some (room - bytes.size)⟩)
    else (false, ⟨taken ++ bytes.extract 0 room, some 0⟩)

end Sink

/-- Where a run leaves its marks. -/
structure Console where
  sink : Sink
  trace : Trace

/-- What a run does to a console. -/
inductive Act where
  /-- A line, its end not included. The run ends if it is not taken in full. -/
  | say (line : String)
  /-- A rendered text. The run goes on in any case. -/
  | showText (text : String)
  /-- An entry of the trace. -/
  | note (event : Event)
  deriving DecidableEq

namespace Console

/-- A console with nothing on it. -/
def empty (room : Option Nat) : Console :=
  ⟨.empty room, #[]⟩

/-- Add an entry to the trace. -/
def note (console : Console) (event : Event) : Console :=
  { console with trace := console.trace.push event }

/-- Write a text, and say whether it was taken in full. -/
def write : Console → String → Bool × Console
  | ⟨sink, trace⟩, text =>
    let (complete, sink) := sink.write text
    (complete, ⟨sink, trace⟩)

/-- Carry out acts up to the first line that is not taken in full, and say whether there was
none. -/
def perform (console : Console) : List Act → Bool × Console
  | [] => (true, console)
  | .say line :: acts =>
    match console.write (line ++ "\n") with
    | (true, console) => perform console acts
    | (false, console) => (false, console)
  | .showText text :: acts => perform (console.write text).2 acts
  | .note event :: acts => perform (console.note event) acts

end Console

end MiniJ
