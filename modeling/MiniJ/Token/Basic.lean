import MiniJ.Position
import MiniJ.Text.Escape
import MiniJ.Token.Kind

/-!
# Tokens

A token is a lexeme with its kind and the position of its first character. The grammar looks at the
kind, and at the text only to tell a wildcard import; the position serves messages.
-/

set_option autoImplicit false

namespace MiniJ

/-- A lexeme: its kind, its exact text, and where it starts. -/
structure Token where
  kind : TokenKind
  text : String
  position : Position
  deriving DecidableEq

namespace Token

/-- The token that stands for the end of the text. -/
def endAt (position : Position) : Token :=
  ⟨.eot, "", position⟩

/-- Whether a token is of a kind. -/
def is (token : Token) (kind : TokenKind) : Bool :=
  token.kind = kind

/-- How messages call a token: its text in quotes, and the end of the text by name. -/
def description (token : Token) : String :=
  if token.kind = .eot then TokenKind.eot.description else "'" ++ token.text ++ "'"

/-- How listings show a token: kind, escaped text and position. -/
def listing (token : Token) : String :=
  token.kind.name ++ " \"" ++ Text.escape ['"'] token.text ++ "\" @ " ++ token.position.text

end Token

end MiniJ
