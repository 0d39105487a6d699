/-!
# Error codes

Every problem of a text has a code. Codes that start with `E0` name lexical faults, after which the
text is read on; codes that start with `E1` name violations of the grammar, of which the first ends
the reading.
-/

set_option autoImplicit false

namespace MiniJ

/-- What sort of problem a diagnostic reports. -/
inductive ErrorCode where
  | invalidCharacter
  | unterminatedComment
  | invalidNumber
  | unterminatedCharacter
  | emptyCharacter
  | longCharacter
  | doubleDot
  | unterminatedString
  | unexpectedToken
  | typeOrReference
  | invalidMember
  | invalidTarget
  | unusedValue
  | typeAsValue
  | invalidCall
  deriving DecidableEq

namespace ErrorCode

/-- Every code, in the order of the written forms. -/
def all : List ErrorCode :=
  [invalidCharacter, unterminatedComment, invalidNumber, unterminatedCharacter, emptyCharacter,
    longCharacter, doubleDot, unterminatedString, unexpectedToken, typeOrReference, invalidMember,
    invalidTarget, unusedValue, typeAsValue, invalidCall]

/-- The written form. -/
def text : ErrorCode → String
  | invalidCharacter => "E0001"
  | unterminatedComment => "E0002"
  | invalidNumber => "E0003"
  | unterminatedCharacter => "E0004"
  | emptyCharacter => "E0005"
  | longCharacter => "E0006"
  | doubleDot => "E0007"
  | unterminatedString => "E0008"
  | unexpectedToken => "E1001"
  | typeOrReference => "E1002"
  | invalidMember => "E1003"
  | invalidTarget => "E1004"
  | unusedValue => "E1005"
  | typeAsValue => "E1006"
  | invalidCall => "E1007"

/-- Whether the problem is found while characters are made into tokens. -/
def isLexical : ErrorCode → Bool
  | invalidCharacter | unterminatedComment | invalidNumber | unterminatedCharacter
  | emptyCharacter | longCharacter | doubleDot | unterminatedString => true
  | _ => false

/-- The code with a written form, whose letter may be in either case. -/
def ofText? (text : String) : Option ErrorCode :=
  all.find? fun code => code.text = text.toUpper

end ErrorCode

end MiniJ
