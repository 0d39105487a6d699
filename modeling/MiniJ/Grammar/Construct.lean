/-!
# Constructs

The parts of a program that messages name: an error inside one of them carries a note that says
which.
-/

set_option autoImplicit false

namespace MiniJ

/-- A part of a program in which an error may be found. -/
inductive Construct where
  | packageHeader
  | importDeclaration
  | classDeclaration
  | memberDeclaration
  | parameters
  | block
  | ifStatement
  | forLoop
  | whileLoop
  | doWhileLoop
  | tryStatement
  | arguments
  | arrayLiteral
  | newExpression
  deriving DecidableEq

namespace Construct

/-- Every construct. -/
def all : List Construct :=
  [packageHeader, importDeclaration, classDeclaration, memberDeclaration, parameters, block,
    ifStatement, forLoop, whileLoop, doWhileLoop, tryStatement, arguments, arrayLiteral,
    newExpression]

/-- The name of a construct. -/
def name : Construct → String
  | packageHeader => "PackageHeader"
  | importDeclaration => "Import"
  | classDeclaration => "ClassDeclaration"
  | memberDeclaration => "MemberDeclaration"
  | parameters => "Parameters"
  | block => "Block"
  | ifStatement => "IfStatement"
  | forLoop => "ForLoop"
  | whileLoop => "WhileLoop"
  | doWhileLoop => "DoWhileLoop"
  | tryStatement => "TryStatement"
  | arguments => "Arguments"
  | arrayLiteral => "ArrayLiteral"
  | newExpression => "NewExpression"

/-- The construct with a given name. -/
def ofName? (text : String) : Option Construct :=
  all.find? fun construct => construct.name = text

/-- How notes call a construct, after the words `while parsing`. -/
def description : Construct → String
  | packageHeader => "the package declaration"
  | importDeclaration => "an import"
  | classDeclaration => "a class declaration"
  | memberDeclaration => "a field or method declaration"
  | parameters => "a parameter list"
  | block => "a block"
  | ifStatement => "an if statement"
  | forLoop => "a for loop"
  | whileLoop => "a while loop"
  | doWhileLoop => "a do-while loop"
  | tryStatement => "a try statement"
  | arguments => "an argument list"
  | arrayLiteral => "an array literal"
  | newExpression => "a new expression"

end Construct

end MiniJ
