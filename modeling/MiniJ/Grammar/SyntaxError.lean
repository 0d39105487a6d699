import MiniJ.Diagnostic.Basic
import MiniJ.Grammar.Construct
import MiniJ.Token.Basic

/-!
# Syntax errors

A syntax error is a violation of the grammar: its cause, where it is, the innermost construct that
was open, and hints. Code and message follow from the cause alone. The construct is filled in after
the error was found, and the first one to be filled in stays.
-/

set_option autoImplicit false

namespace MiniJ

/-- In what way a text violates the grammar. -/
inductive Violation where
  /-- Something mandatory is missing. -/
  | expected (what : String) (found : Token)
  /-- A token with which nothing can go on. -/
  | unexpected (place : String) (found : Token)
  /-- A name behind what can only be a reference. -/
  | nameAfterReference (found : Token)
  /-- Empty brackets behind what can only be a reference. -/
  | bracketsAfterReference (found : Token)
  /-- An index behind what can only be a type. -/
  | indexAfterType (found : Token)
  /-- Type arguments behind what can only be a reference. -/
  | typeArgumentsAfterReference
  /-- Arguments behind what can only be a type. -/
  | callAfterType
  /-- Arguments behind something that is not a name. -/
  | callAfterValue
  /-- A field declared with `void`. -/
  | voidField
  /-- A parameter list behind several names. -/
  | parametersAfterNames
  /-- A field with an initial value in the mini dialect. -/
  | fieldInitializer
  /-- An assignment to a type. -/
  | assignmentToType (operator : Token)
  /-- An assignment to a value that can only be read. -/
  | assignmentToValue
  /-- An update of a type. -/
  | updateOfType (operator : Token)
  /-- A value that is computed and thrown away. -/
  | unusedValue (found : Token)
  /-- A type where a value is needed. -/
  | typeAsValue (first : Token)
  /-- Any other violation, in words. -/
  | stated (code : ErrorCode) (message : String)
  deriving DecidableEq

namespace Violation

/-- The code under which a violation is reported. -/
def code : Violation → ErrorCode
  | expected _ _ | unexpected _ _ => .unexpectedToken
  | nameAfterReference _ | bracketsAfterReference _ | indexAfterType _
  | typeArgumentsAfterReference | callAfterType => .typeOrReference
  | callAfterValue => .invalidCall
  | voidField | parametersAfterNames | fieldInitializer => .invalidMember
  | assignmentToType _ | assignmentToValue | updateOfType _ => .invalidTarget
  | unusedValue _ => .unusedValue
  | typeAsValue _ => .typeAsValue
  | stated code _ => code

/-- The text under which a violation is reported. -/
def message : Violation → String
  | expected what found => "expected " ++ what ++ ", found " ++ found.description
  | unexpected place found => "Unexpected token " ++ place ++ ": " ++ found.description
  | nameAfterReference found => "Unexpected token after reference: " ++ found.description
  | bracketsAfterReference found =>
    "Invalid type or reference; Expected expression after '[', found " ++ found.description
  | indexAfterType found =>
    "Invalid type or reference; Types cannot evaluate expressions in brackets. " ++
      "Expected ']', found " ++ found.description
  | typeArgumentsAfterReference => "Generics syntax not allowed in reference, only in type"
  | callAfterType => "Invalid type or reference; cannot call method in type declaration"
  | callAfterValue =>
    "Unexpected token '('; only method identifiers can be called as functions"
  | voidField => "void keyword not allowed in field declaration"
  | parametersAfterNames => "Unexpected token '(' in field declaration"
  | fieldInitializer => "Field assignment on declaration not supported in the mini dialect"
  | assignmentToType operator =>
    "Type missing identifier; unexpected token " ++ operator.description
  | assignmentToValue => "Cannot assign to read only expression"
  | updateOfType operator => "Operator " ++ operator.text ++ " not valid for Type"
  | unusedValue found => "Reference value unused (" ++ found.description ++ ")"
  | typeAsValue first => "Type is not a valid expression: " ++ first.description
  | stated _ message => message

/-- The hints that go with a violation. -/
def hints : Violation → List String
  | parametersAfterNames => ["a method declares exactly one name"]
  | fieldInitializer => ["initialize the field inside a method instead"]
  | unusedValue _ => ["only method calls can stand alone as statements"]
  | _ => []

end Violation

/-- A located violation of the grammar. -/
structure SyntaxError where
  violation : Violation
  position : Position
  /-- The innermost open construct, once known. -/
  construct : Option Construct
  hints : List String
  deriving DecidableEq

namespace SyntaxError

/-- A violation at a token, with its hints and no construct yet. -/
def located (violation : Violation) (place : Token) : SyntaxError :=
  ⟨violation, place.position, none, violation.hints⟩

/-- A mandatory token is missing where another was found. -/
def expected (what : String) (found : Token) : SyntaxError :=
  located (.expected what found) found

/-- No token of the given kinds was found. -/
def expectedKinds (kinds : List TokenKind) (found : Token) : SyntaxError :=
  expected (" or ".intercalate (kinds.map TokenKind.description)) found

/-- A token with which nothing can go on. -/
def unexpected (place : String) (found : Token) : SyntaxError :=
  located (.unexpected place found) found

/-- A suffix that contradicts what a prefix is already known to be. -/
def contradiction (message : String) (place : Token) : SyntaxError :=
  located (.stated .typeOrReference message) place

/-- A member that is neither a field nor a method. -/
def invalidMember (message : String) (place : Token) : SyntaxError :=
  located (.stated .invalidMember message) place

/-- The code of the violation. -/
def code (error : SyntaxError) : ErrorCode :=
  error.violation.code

/-- The message of the violation. -/
def message (error : SyntaxError) : String :=
  error.violation.message

/-- Say in which construct the error was found, unless one inside it was already named. -/
def within (error : SyntaxError) (construct : Construct) : SyntaxError :=
  { error with construct := error.construct.or (some construct) }

/-- Add a hint. -/
def withHint (error : SyntaxError) (hint : String) : SyntaxError :=
  { error with hints := error.hints ++ [hint] }

/-- The report of a syntax error: the construct becomes the first note, the hints follow. -/
def diagnostic (error : SyntaxError) : Diagnostic :=
  { Diagnostic.located error.code error.message error.position with
    notes :=
      (error.construct.toList.map fun construct => "while parsing " ++ construct.description) ++
        error.hints }

end SyntaxError

end MiniJ
