import MiniJ.Token.Kind

/-!
# Spellings

The tables that turn what is written into token kinds: reserved words, names of types, markers of
declarations, punctuation and the characters that begin operators. Reserved words that only the
extended dialect knows are plain names in the mini dialect.
-/

set_option autoImplicit false

namespace MiniJ

/-- Every reserved word with its kind. The two truth values are reserved words whose kind is a
literal. -/
def reservedWords : List (String × TokenKind) :=
  [.class_, .if_, .else_, .for_, .while_, .this_, .void_, .new_, .return_].map
      (fun word : Keyword => (word.spelling, TokenKind.keyword word)) ++
    [("true", .literal .bool), ("false", .literal .bool)] ++
    [.package_, .import_, .throws_, .throw_, .implements_, .extends_, .try_, .catch_, .finally_,
        .break_, .continue_, .do_, .switch_, .case_].map
      (fun word : Keyword => (word.spelling, TokenKind.keyword word))

/-- The reserved spellings of a kind, in the order of the table. -/
def TokenKind.reservedSpellings (kind : TokenKind) : List String :=
  (reservedWords.filter fun entry => entry.2 = kind).map Prod.fst

/-- The kind of a word that is reserved in the dialect. -/
def reservedKind? (text : String) (dialect : Dialect) : Option TokenKind :=
  match reservedWords.find? fun entry => entry.1 = text with
  | none => none
  | some (_, kind) => if dialect.isMini && kind.isExtendedOnly then none else some kind

/-- The kind of a word that names a primitive type. -/
def primitiveKind? (text : String) : Option TokenKind :=
  (Primitive.all.find? fun type => type.spelling = text).map .primitive

/-- Whether a word states who may use a declaration. -/
def isProtection (text : String) : Bool :=
  text = "public" || text = "private" || text = "protected"

/-- Whether a word modifies a declaration. -/
def isModifier (text : String) : Bool :=
  text = "static" || text = "final" || text = "volatile" || text = "abstract"

/-- The kind of a word. Reserved words come first, then names of types, then the markers of
declarations; every other word is an identifier. -/
def classifyWord (text : String) (dialect : Dialect) : TokenKind :=
  match reservedKind? text dialect with
  | some kind => kind
  | none =>
    match primitiveKind? text with
    | some kind => kind
    | none =>
      if isProtection text then .protection
      else if isModifier text then .modifier
      else .ident

/-- The kind of a character that is a token by itself. -/
def punctuation? : Char → Option TokenKind
  | '.' => some .dot
  | ',' => some .comma
  | ':' => some .colon
  | ';' => some .semicolon
  | '?' => some .question
  | '{' => some .lBrace
  | '}' => some .rBrace
  | '(' => some .lParen
  | ')' => some .rParen
  | '[' => some .lBracket
  | ']' => some .rBracket
  | _ => none

/-- Whether a character begins an operator. The slash is missing because it may also begin a
comment. -/
def isOperatorStart (c : Char) : Bool :=
  c ∈ ['+', '*', '-', '%', '|', '&', '~', '!', '=', '>', '<']

/-- Whether an operator stands before an operand as well as between two, and doubles into an
update. -/
def isDualUse (c : Char) : Bool :=
  c ∈ ['+', '-']

/-- Whether an operator takes a following `=` to form a compound assignment. -/
def isCompoundAssignable (c : Char) : Bool :=
  c ∈ ['+', '/', '*', '-', '%', '|', '&']

end MiniJ
