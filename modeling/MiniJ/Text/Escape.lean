import MiniJ.Text.GraphemeExtend
import MiniJ.Text.Unprintable

/-!
# Escaped text

Text that is quoted in listings and messages shows every character in a visible form.

| character                                   | shown as                            |
|---------------------------------------------|-------------------------------------|
| NUL, tab, carriage return, line feed        | a backslash and `0`, `t`, `r`, `n`  |
| backslash, and the quotes of the context    | a backslash and the character       |
| one that extends a grapheme or has no form  | its code point in hexadecimal       |
| any other                                   | itself                              |
-/

set_option autoImplicit false

namespace MiniJ.Text

/-- The form that names a character by its code point, in lower case without leading zeros. -/
def codePointForm (c : Char) : List Char :=
  ['\\', 'u', '{'] ++ Nat.toDigits 16 c.toNat ++ ['}']

/-- The visible form of a character, where `quotes` are the quotes to protect. -/
def escapeChar (quotes : List Char) (c : Char) : List Char :=
  if c = '\x00' then ['\\', '0']
  else if c = '\t' then ['\\', 't']
  else if c = '\r' then ['\\', 'r']
  else if c = '\n' then ['\\', 'n']
  else if c = '\\' || c ∈ quotes then ['\\', c]
  else if isGraphemeExtend c || isUnprintable c then codePointForm c
  else [c]

/-- The visible form of a text, character by character. -/
def escape (quotes : List Char) (text : String) : String :=
  String.ofList (text.toList.flatMap (escapeChar quotes))

end MiniJ.Text
