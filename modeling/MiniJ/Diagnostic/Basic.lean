import MiniJ.Diagnostic.Code
import MiniJ.Position

/-!
# Diagnostics

A diagnostic reports one problem: its code, a message, where it is, and notes. `Diagnostic.display`
is its plain form. File and position may each be unknown, and the location says what is known.
-/

set_option autoImplicit false

namespace MiniJ

/-- The report of one problem. -/
structure Diagnostic where
  code : ErrorCode
  message : String
  file : Option String
  position : Option Position
  notes : List String
  deriving DecidableEq

namespace Diagnostic

/-- A diagnostic at a position, without a file and without notes. -/
def located (code : ErrorCode) (message : String) (position : Position) : Diagnostic :=
  ⟨code, message, none, some position, []⟩

/-- Every problem rejects its text, so there is one severity. -/
def severity : String := "error"

/-- The first line of every form: severity, code and message. -/
def headline (diagnostic : Diagnostic) : String :=
  severity ++ "[" ++ diagnostic.code.text ++ "]: " ++ diagnostic.message

/-- Where the problem is, as far as that is known. -/
def location? (diagnostic : Diagnostic) : Option String :=
  match diagnostic.file, diagnostic.position with
  | some file, some position => some (file ++ ":" ++ position.text)
  | some file, none => some file
  | none, some position => some position.text
  | none, none => none

/-- The plain form: the headline, a line for the location and a line for each note, with no line
end after the last. -/
def display (diagnostic : Diagnostic) : String :=
  let location :=
    match diagnostic.location? with
    | some location => "\n  --> " ++ location
    | none => ""
  diagnostic.headline ++ location ++
    String.join (diagnostic.notes.map fun note => "\n  = note: " ++ note)

end Diagnostic

end MiniJ
