/-!
# Source texts

A source text is the decoded characters of one input. Reading at and past its end gives the
character NUL; a NUL inside the text is a character like any other.
-/

set_option autoImplicit false

namespace MiniJ

/-- The characters of one input. -/
structure Source where
  chars : List Char
  deriving DecidableEq

namespace Source

/-- The character that stands for the end of a text. -/
def sentinel : Char := '\x00'

/-- The source text with the characters of a string. -/
def ofString (text : String) : Source :=
  ⟨text.toList⟩

/-- The source text that bytes hold in UTF-8, if they do. -/
def ofBytes? (bytes : ByteArray) : Option Source :=
  (String.fromUTF8? bytes).map ofString

/-- The number of characters. -/
def size (source : Source) : Nat :=
  source.chars.length

/-- Whether there are no characters. -/
def isEmpty (source : Source) : Bool :=
  source.chars.isEmpty

/-- The character at an offset, or the sentinel at and past the end. -/
def get (source : Source) (offset : Nat) : Char :=
  source.chars.getD offset sentinel

end Source

end MiniJ
