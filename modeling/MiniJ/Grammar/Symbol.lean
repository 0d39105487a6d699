import MiniJ.Grammar.Construct
import MiniJ.Trace

/-!
# Grammar symbols

A text is recognized by working off an agenda of grammar symbols. A symbol is a terminal, a
nonterminal that stands for what may still come at its place, or a mark: an entry for the trace, or
the end of a construct. The mark `Symbol.close` stands behind the symbols of its construct from the
moment the construct begins, so the constructs that are open are those whose mark is on the agenda.

Some nonterminals remember what was read before them, because it decides what may come: the
classification of a type-or-reference so far, or the first name of a member.
-/

set_option autoImplicit false

namespace MiniJ

/-- The two places at which a statement may stand. -/
inductive Place where
  /-- In a block, or as the body of another statement. -/
  | body
  /-- In the head of a `for` loop, where it ends with its own semicolon. -/
  | forHead
  deriving DecidableEq

/-- What a type-or-reference is read for. -/
inductive Purpose where
  /-- To be an operand, whose first token is remembered. -/
  | operand (first : Token)
  /-- To begin a statement. -/
  | statement (place : Place)
  /-- To be counted up or down by the operator before it. -/
  | update (operator : Token)
  /-- To begin the last clause in the head of a `for` loop. -/
  | forUpdate
  deriving DecidableEq

/-- What a type-or-reference ends with so far. -/
inductive LastPart where
  /-- The leading name. -/
  | base
  /-- A name behind a dot. -/
  | member
  /-- An index. -/
  | index
  /-- Arguments. -/
  | arguments
  /-- Type arguments. -/
  | typeArguments
  deriving DecidableEq

/-- Whether arguments may follow: only names can be called. -/
def LastPart.isCallable : LastPart → Bool
  | base | member => true
  | index | arguments | typeArguments => false

/-- Whether a value that ends so can be assigned to. -/
def LastPart.isStorage : LastPart → Bool
  | member | index => true
  | base | arguments | typeArguments => false

/-- What is still to come at one place of a text. -/
inductive Symbol where
  /-- One token of one of the kinds. -/
  | terminal (kinds : List TokenKind)
  /-- A mark: an entry for the trace. -/
  | announce (event : Event)
  /-- A mark: the construct ends here. -/
  | close (construct : Construct)
  /-- A type, with brackets behind it or without. -/
  | type (brackets : Bool)
  /-- What follows the first name of a type. -/
  | typeSuffixes (brackets : Bool)
  /-- What follows `<` in a type: type arguments, or `>` at once. -/
  | typeArgumentsOrNone
  /-- One or more type arguments and `>`. -/
  | typeArguments
  /-- What follows a type argument. -/
  | typeArgumentsEnd
  /-- Any number of empty pairs of brackets. -/
  | emptyBrackets
  /-- A type-or-reference. -/
  | reference (purpose : Purpose)
  /-- The suffixes of a type-or-reference. -/
  | suffixes (purpose : Purpose) (soFar : Classification) (last : LastPart)
  /-- What follows `[` in a type-or-reference. -/
  | insideBrackets (purpose : Purpose) (soFar : Classification)
  /-- What follows a type-or-reference. -/
  | classified (purpose : Purpose) (result : Classification)
  /-- An expression, or also a list of elements in braces. -/
  | expression (arrayLiteral : Bool)
  /-- What follows an operand. -/
  | expressionEnd
  /-- Any number of expressions with commas, and the closing token. -/
  | elements (closing : TokenKind)
  /-- What follows such an expression. -/
  | elementsEnd (closing : TokenKind)
  /-- The arguments of a constructor, if any. -/
  | constructorArguments
  /-- The sizes of a new array, if any. -/
  | dimensions
  /-- A statement. -/
  | statement (place : Place)
  /-- A statement that is not a block. -/
  | statementBody (place : Place)
  /-- Statements in braces. -/
  | block
  /-- Any number of statements and the closing brace. -/
  | statements
  /-- What follows `return`. -/
  | returnValue
  /-- What follows the name in a declaration. -/
  | declarationEnd (place : Place)
  /-- A sign that counts up or down, and what it counts. -/
  | update
  /-- The other branch of an `if` statement, if any. -/
  | elseBranch
  /-- The head of a `for` loop behind its parenthesis, and the body. -/
  | forInit
  /-- The same from the condition on. -/
  | forCondition
  /-- The last clause of the head. -/
  | forUpdate
  /-- The closing parenthesis and the body. -/
  | forBody
  /-- What follows the block of a `try` statement. -/
  | tryEnd
  /-- The block that is run in any case, if any. -/
  | finallyBlock
  /-- A whole program. -/
  | program
  /-- Further names of a dotted name. -/
  | dottedNames
  /-- Any number of imports. -/
  | imports
  /-- What follows a name of an import. -/
  | importNames
  /-- What follows a dot of an import. -/
  | importName
  /-- Any number of classes up to the end of the text. -/
  | classes
  /-- The markers of a declaration. -/
  | markers
  /-- Any number of modifiers. -/
  | modifiers
  /-- The name of a class. -/
  | className
  /-- What a class extends, if anything. -/
  | superclass
  /-- Any number of members and the closing brace. -/
  | members
  /-- The type of a member, or `void`, and the rest. -/
  | memberType
  /-- The first name of a member and the rest. -/
  | memberName (isVoid : Bool)
  /-- What follows a name of a member. -/
  | memberEnd (isVoid : Bool) (first : Token) (several : Bool)
  /-- A parameter list behind its parenthesis. -/
  | parameters
  /-- One or more parameters and the closing parenthesis. -/
  | parameter
  /-- The dots of a parameter that takes any number of values, if any. -/
  | ellipsis
  /-- What follows a parameter. -/
  | parametersEnd
  /-- What a method throws, if anything. -/
  | throwsClause
  deriving DecidableEq

/-- One token of a kind. -/
abbrev Symbol.token (kind : TokenKind) : Symbol := .terminal [kind]

end MiniJ
