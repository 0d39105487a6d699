import MiniJ.Dialect

/-!
# Token kinds

The lexical category of a token. Names of primitive types, literals and keywords form families of
their own, so that membership in a family is a constructor and not a list of cases.
-/

set_option autoImplicit false

namespace MiniJ

/-- The primitive types. -/
inductive Primitive where
  | int | boolean | string | float | double | char
  deriving DecidableEq

/-- The sorts of literals; `bool` is `true` and `false`. -/
inductive Literal where
  | bool | int | float | char | string
  deriving DecidableEq

/-- The reserved words that are neither literals nor names of types. -/
inductive Keyword where
  | class_ | if_ | else_ | for_ | while_ | this_ | void_ | new_ | return_
  | package_ | import_ | throws_ | throw_ | implements_ | extends_ | try_ | catch_ | finally_
  | break_ | continue_ | do_ | switch_ | case_
  deriving DecidableEq

/-- The lexical category of a token. -/
inductive TokenKind where
  /-- The end of the text. -/
  | eot
  | ident
  | primitive (type : Primitive)
  | literal (sort : Literal)
  | keyword (word : Keyword)
  /-- One of `public`, `private`, `protected`. -/
  | protection
  /-- One of `static`, `final`, `volatile`, `abstract`. -/
  | modifier
  /-- The operator `!`. -/
  | unaryOp
  /-- One of `*`, `/`, `%`, `~`, `&`, `|`, `&&`, `||`. -/
  | binaryOp
  /-- A sign, `+` or `-`: before an operand or between two. -/
  | genericOp
  /-- One of `==`, `!=`, `<=`, `>=`. -/
  | compareOp
  | assign
  /-- One of `+=`, `-=`, `*=`, `/=`, `%=`, `|=`, `&=`. -/
  | compoundAssign
  /-- One of `++`, `--`. -/
  | incDec
  /-- The sign `<`, a comparison or the start of type arguments. -/
  | leftChevron
  /-- The sign `>`, a comparison or the end of type arguments. -/
  | rightChevron
  | dot | comma | colon | semicolon | question
  | lBrace | rBrace | lParen | rParen | lBracket | rBracket
  /-- Three dots, in the extended dialect only. -/
  | ellipsis
  deriving DecidableEq

namespace Primitive

/-- Every primitive type. -/
def all : List Primitive := [int, boolean, string, float, double, char]

/-- How the type is written. -/
def spelling : Primitive → String
  | int => "int"
  | boolean => "boolean"
  | string => "String"
  | float => "float"
  | double => "double"
  | char => "char"

/-- The name of the token kind. -/
def kindName : Primitive → String
  | int => "IntType"
  | boolean => "BooleanType"
  | string => "StringType"
  | float => "FloatType"
  | double => "DoubleType"
  | char => "CharType"

end Primitive

namespace Literal

/-- Every sort of literal. -/
def all : List Literal := [bool, int, float, char, string]

/-- The name of the token kind. -/
def kindName : Literal → String
  | bool => "BoolLiteral"
  | int => "IntLiteral"
  | float => "FloatLiteral"
  | char => "CharLiteral"
  | string => "StringLiteral"

/-- How messages call such a literal. -/
def description : Literal → String
  | bool => "boolean literal"
  | int => "integer literal"
  | float => "float literal"
  | char => "character literal"
  | string => "string literal"

end Literal

namespace Keyword

/-- Every keyword. -/
def all : List Keyword :=
  [class_, if_, else_, for_, while_, this_, void_, new_, return_, package_, import_, throws_,
    throw_, implements_, extends_, try_, catch_, finally_, break_, continue_, do_, switch_, case_]

/-- How the keyword is written. -/
def spelling : Keyword → String
  | class_ => "class"
  | if_ => "if"
  | else_ => "else"
  | for_ => "for"
  | while_ => "while"
  | this_ => "this"
  | void_ => "void"
  | new_ => "new"
  | return_ => "return"
  | package_ => "package"
  | import_ => "import"
  | throws_ => "throws"
  | throw_ => "throw"
  | implements_ => "implements"
  | extends_ => "extends"
  | try_ => "try"
  | catch_ => "catch"
  | finally_ => "finally"
  | break_ => "break"
  | continue_ => "continue"
  | do_ => "do"
  | switch_ => "switch"
  | case_ => "case"

/-- The name of the token kind. -/
def kindName : Keyword → String
  | class_ => "Class"
  | if_ => "If"
  | else_ => "Else"
  | for_ => "For"
  | while_ => "While"
  | this_ => "This"
  | void_ => "Void"
  | new_ => "New"
  | return_ => "Return"
  | package_ => "Package"
  | import_ => "Import"
  | throws_ => "Throws"
  | throw_ => "Throw"
  | implements_ => "Implements"
  | extends_ => "Extends"
  | try_ => "Try"
  | catch_ => "Catch"
  | finally_ => "Finally"
  | break_ => "Break"
  | continue_ => "Continue"
  | do_ => "Do"
  | switch_ => "Switch"
  | case_ => "Case"

/-- Whether the word is reserved in the extended dialect only. -/
def isExtendedOnly : Keyword → Bool
  | class_ | if_ | else_ | for_ | while_ | this_ | void_ | new_ | return_ => false
  | _ => true

end Keyword

namespace TokenKind

/-- Every kind of token. -/
def all : List TokenKind :=
  [eot, ident] ++ Primitive.all.map primitive ++ Literal.all.map literal ++
    Keyword.all.map keyword ++
    [protection, modifier, unaryOp, binaryOp, genericOp, compareOp, assign, compoundAssign, incDec,
      leftChevron, rightChevron, dot, comma, colon, semicolon, question, lBrace, rBrace, lParen,
      rParen, lBracket, rBracket, ellipsis]

/-- The name of a kind, as token listings show it. -/
def name : TokenKind → String
  | eot => "Eot"
  | ident => "Ident"
  | primitive type => type.kindName
  | literal sort => sort.kindName
  | keyword word => word.kindName
  | protection => "Protection"
  | modifier => "Modifier"
  | unaryOp => "UnaryOp"
  | binaryOp => "BinaryOp"
  | genericOp => "GenericOp"
  | compareOp => "CompareOp"
  | assign => "Assign"
  | compoundAssign => "CompoundAssign"
  | incDec => "IncDec"
  | leftChevron => "LeftChevron"
  | rightChevron => "RightChevron"
  | dot => "Dot"
  | comma => "Comma"
  | colon => "Colon"
  | semicolon => "Semicolon"
  | question => "Question"
  | lBrace => "LBrace"
  | rBrace => "RBrace"
  | lParen => "LParen"
  | rParen => "RParen"
  | lBracket => "LBracket"
  | rBracket => "RBracket"
  | ellipsis => "Ellipsis"

/-- The kind with a given name. -/
def ofName? (text : String) : Option TokenKind :=
  all.find? fun kind => kind.name = text

/-- How messages call a token of this kind. -/
def description : TokenKind → String
  | eot => "end of input"
  | ident => "identifier"
  | primitive type => type.spelling
  | literal sort => sort.description
  | keyword word => word.spelling
  | protection => "access modifier"
  | modifier => "modifier"
  | unaryOp => "unary operator"
  | binaryOp => "binary operator"
  | genericOp => "operator"
  | compareOp => "comparison operator"
  | assign => "="
  | compoundAssign => "compound assignment"
  | incDec => "increment/decrement"
  | leftChevron => "<"
  | rightChevron => ">"
  | dot => "."
  | comma => ","
  | colon => ":"
  | semicolon => ";"
  | question => "?"
  | lBrace => "\x7b"
  | rBrace => "\x7d"
  | lParen => "("
  | rParen => ")"
  | lBracket => "["
  | rBracket => "]"
  | ellipsis => "..."

/-- Whether only the extended dialect has tokens of this kind. -/
def isExtendedOnly : TokenKind → Bool
  | keyword word => word.isExtendedOnly
  | ellipsis => true
  | _ => false

/-- Whether this is the name of a primitive type. -/
def isPrimitive : TokenKind → Bool
  | primitive _ => true
  | _ => false

/-- Whether this is a literal. -/
def isLiteral : TokenKind → Bool
  | literal _ => true
  | _ => false

/-- Whether an operator of this kind continues an expression with a right operand. -/
def isInfixOperator : TokenKind → Bool
  | binaryOp | compareOp | genericOp | leftChevron | rightChevron => true
  | _ => false

/-- Whether an operator of this kind may start an expression. -/
def isPrefixOperator : TokenKind → Bool
  | unaryOp | genericOp | incDec => true
  | _ => false

end TokenKind

end MiniJ
