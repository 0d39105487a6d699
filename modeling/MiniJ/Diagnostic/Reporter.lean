import MiniJ.Diagnostic.Basic

/-!
# Reporters

A reporter collects the diagnostics of one input in the order in which they arrive. If it knows the
name of the input it puts it on every diagnostic that has none.
-/

set_option autoImplicit false

namespace MiniJ

/-- The diagnostics of one input so far. -/
structure Reporter where
  file : Option String
  diagnostics : Array Diagnostic
  deriving DecidableEq

namespace Reporter

/-- A reporter that has nothing yet, for an input whose name may be known. -/
def empty (file : Option String) : Reporter :=
  ⟨file, #[]⟩

/-- Take in one diagnostic. -/
def report (reporter : Reporter) (diagnostic : Diagnostic) : Reporter :=
  { reporter with
    diagnostics := reporter.diagnostics.push
      { diagnostic with file := diagnostic.file.or reporter.file } }

/-- Take in several diagnostics, in order. -/
def reportAll (reporter : Reporter) (diagnostics : List Diagnostic) : Reporter :=
  diagnostics.foldl report reporter

/-- The number of diagnostics. -/
def count (reporter : Reporter) : Nat :=
  reporter.diagnostics.size

/-- Whether anything was reported. -/
def hasErrors (reporter : Reporter) : Bool :=
  !reporter.diagnostics.isEmpty

end Reporter

end MiniJ
