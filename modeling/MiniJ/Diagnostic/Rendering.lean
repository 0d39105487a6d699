import MiniJ.Diagnostic.Reporter

/-!
# Rendered diagnostics

How diagnostics are shown to a reader. The terse form of a diagnostic is its headline; the verbose
form adds the location, the notes and a blank line. With color the severity, the code, the location
and the word `note` stand between control sequences. A summary line counts the errors.
-/

set_option autoImplicit false

namespace MiniJ

/-- When to use color. -/
inductive ColorMode where
  /-- On a terminal only. -/
  | auto
  | always
  | never
  deriving DecidableEq

namespace ColorMode

/-- The name of a mode. -/
def name : ColorMode → String
  | auto => "Auto"
  | always => "Always"
  | never => "Never"

/-- The mode that an option names. -/
def ofText? (text : String) : Option ColorMode :=
  if text = "auto" then some auto
  else if text = "always" then some always
  else if text = "never" then some never
  else none

/-- Whether a mode means color for an output that is a terminal or not. -/
def usesColor (mode : ColorMode) (terminal : Bool) : Bool :=
  match mode with
  | auto => terminal
  | always => true
  | never => false

end ColorMode

/-- The ways in which a piece of text stands out. -/
inductive Emphasis where
  | boldRed
  | boldBlue
  | bold
  deriving DecidableEq

namespace Emphasis

/-- The control sequence that begins the emphasis. -/
def sequence : Emphasis → String
  | boldRed => "\x1b[1;31m"
  | boldBlue => "\x1b[1;34m"
  | bold => "\x1b[1m"

/-- The control sequence that ends every emphasis. -/
def reset : String := "\x1b[0m"

end Emphasis

/-- The form in which diagnostics are rendered. -/
structure RenderStyle where
  color : Bool
  verbose : Bool
  deriving DecidableEq

/-- A text between the control sequences of an emphasis, if color is used. -/
def RenderStyle.paint (style : RenderStyle) (emphasis : Emphasis) (text : String) : String :=
  if style.color then emphasis.sequence ++ text ++ Emphasis.reset else text

/-- One diagnostic in a style. -/
def Diagnostic.render (diagnostic : Diagnostic) (style : RenderStyle) : String :=
  let headline := style.paint .boldRed Diagnostic.severity ++
    style.paint .bold ("[" ++ diagnostic.code.text ++ "]") ++ ": " ++ diagnostic.message ++ "\n"
  if style.verbose then
    let location :=
      match diagnostic.location? with
      | some location => "  --> " ++ style.paint .boldBlue location ++ "\n"
      | none => ""
    let notes := diagnostic.notes.map fun note =>
      "  = " ++ style.paint .bold "note" ++ ": " ++ note ++ "\n"
    headline ++ location ++ String.join notes ++ "\n"
  else headline

/-- The line that closes a report of errors, and nothing where there are none. -/
def renderSummary (style : RenderStyle) (count : Nat) : String :=
  if count = 0 then ""
  else
    style.paint .boldRed "error" ++
      if count = 1 then ": aborting due to previous error\n"
      else ": aborting due to " ++ toString count ++ " previous errors\n"

namespace Reporter

/-- Every diagnostic in a style, in the order of the reports. -/
def renderDiagnostics (reporter : Reporter) (style : RenderStyle) : String :=
  String.join (reporter.diagnostics.toList.map fun diagnostic => diagnostic.render style)

/-- Every diagnostic in a style, and the summary. -/
def render (reporter : Reporter) (style : RenderStyle) : String :=
  reporter.renderDiagnostics style ++ renderSummary style reporter.count

end Reporter

end MiniJ
