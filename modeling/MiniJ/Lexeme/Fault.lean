import MiniJ.Diagnostic.Basic
import MiniJ.Text.Escape

/-!
# Lexical faults

What can be wrong with the characters of a text before any grammar is asked. Three faults leave
nothing sensible to read on from and end the input early (`LexicalError.endsInput`).
-/

set_option autoImplicit false

namespace MiniJ

/-- What is wrong with some characters. -/
inductive LexicalError where
  /-- A character that begins no token. -/
  | invalidCharacter (c : Char)
  /-- A comment without its closing sign. -/
  | unterminatedComment
  /-- A letter or an underscore just behind an integer. -/
  | invalidNumber (c : Char)
  /-- A character literal without its closing quote. -/
  | unterminatedCharacter
  /-- A character literal with nothing between the quotes. -/
  | emptyCharacter
  /-- A character literal with more than one character between the quotes. -/
  | longCharacter
  /-- Two dots that no third one follows. -/
  | doubleDot
  /-- A string literal without its closing quote. -/
  | unterminatedString
  deriving DecidableEq

namespace LexicalError

/-- The code under which an error is reported. -/
def code : LexicalError → ErrorCode
  | invalidCharacter _ => .invalidCharacter
  | unterminatedComment => .unterminatedComment
  | invalidNumber _ => .invalidNumber
  | unterminatedCharacter => .unterminatedCharacter
  | emptyCharacter => .emptyCharacter
  | longCharacter => .longCharacter
  | doubleDot => .doubleDot
  | unterminatedString => .unterminatedString

/-- The text under which an error is reported. -/
def message : LexicalError → String
  | invalidCharacter c =>
    "Invalid character '" ++ String.ofList (Text.escapeChar ['\'', '"'] c) ++
      "' encountered while scanning"
  | unterminatedComment => "Unterminated multiline comment"
  | invalidNumber c => "Invalid character while parsing number: " ++ String.singleton c
  | unterminatedCharacter => "Unterminated Character literal"
  | emptyCharacter => "Invalid Character literal: cannot be empty"
  | longCharacter =>
    "Invalid Character literal: too long, must be no longer than one character"
  | doubleDot => "Invalid punctuation: .."
  | unterminatedString => "Unterminated String literal"

/-- Whether the input ends with the error, whatever characters are left. -/
def endsInput : LexicalError → Bool
  | unterminatedComment | doubleDot | unterminatedString => true
  | _ => false

theorem code_isLexical (error : LexicalError) : error.code.isLexical = true := by
  cases error <;> rfl

end LexicalError

/-- A lexical error and where it is. -/
structure LexicalFault where
  error : LexicalError
  position : Position
  deriving DecidableEq

/-- The report of a lexical fault. -/
def LexicalFault.diagnostic (fault : LexicalFault) : Diagnostic :=
  .located fault.error.code fault.error.message fault.position

end MiniJ
