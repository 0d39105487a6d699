import MiniJ.Grammar.Symbol
import MiniJ.Grammar.SyntaxError

/-!
# Expansion of grammar symbols

`Symbol.expand` is the grammar of both dialects. It says what becomes of the first symbol of an
agenda in front of a token: other symbols take its place, the token is consumed and other symbols
take its place, the trace gets an entry, or the token is an error there. The one token in front
always decides; nothing is ever tried and taken back.

Operators have no precedence: an operand is followed by an operator and another whole expression.
Since nothing is evaluated, the grouping makes no difference.
-/

set_option autoImplicit false

namespace MiniJ

/-- What becomes of a symbol in front of a token. -/
inductive Expansion where
  /-- The symbols take its place. -/
  | replace (symbols : List Symbol)
  /-- The token is consumed and the symbols take its place. -/
  | consume (symbols : List Symbol)
  /-- The trace gets an entry and the symbol is done. -/
  | announce (event : Event)
  /-- The token is an error here. -/
  | reject (error : SyntaxError)
  deriving DecidableEq

namespace Grammar

open MiniJ.Symbol MiniJ.Expansion

/-! ## Shared parts -/

/-- Consume a token that may be missing, with what follows it. -/
def optional (kind : TokenKind) (symbols : List Symbol) (current : Token) : Expansion :=
  if current.kind = kind then consume symbols else replace []

/-- An expression in parentheses. -/
def condition : List Symbol :=
  [token .lParen, expression false, token .rParen]

/-- What comes behind a statement at a place. -/
def afterStatement : Place → List Symbol
  | .body => []
  | .forHead => [forCondition]

/-- The classification of a value or type that ends here. -/
def settle (soFar : Classification) (last : LastPart) : Classification :=
  if soFar = .reference && !last.isStorage then .referenceUnassignable else soFar

/-- The end of a type-or-reference. -/
def classify (purpose : Purpose) (result : Classification) : List Symbol :=
  [announce (.typeOrReference result), classified purpose result]

/-- An assignment or update of something classified, by the operator in front. -/
def assign (result : Classification) (current : Token) (after : List Symbol) : Expansion :=
  if result = .type then reject (.located (.assignmentToType current) current)
  else if !result.isAssignable then reject (.located .assignmentToValue current)
  else if current.kind = .incDec then consume after
  else consume (expression false :: after)

/-- Only a call may stand alone: a value that can be assigned to must not be thrown away. -/
def standAlone (result : Classification) (current : Token) (accepted : Expansion) : Expansion :=
  if result = .referenceUnassignable then accepted
  else reject (.located (.unusedValue current) current)

/-! ## Types -/

/-- A type. The truth type of the mini dialect never has brackets. -/
def expandType (dialect : Dialect) (brackets : Bool) (current : Token) : Expansion :=
  match current.kind with
  | .primitive name =>
    if brackets && !(dialect.isMini && name = .boolean) then consume [emptyBrackets]
    else consume []
  | .ident => consume [typeSuffixes brackets]
  | _ => reject (.expectedKinds [.ident] current)

/-- What follows a name of a type: another name, type arguments in the extended dialect, or nothing
of the kind. -/
def expandTypeSuffixes (dialect : Dialect) (brackets : Bool) (current : Token) : Expansion :=
  if current.kind = .dot then consume [token .ident, typeSuffixes brackets]
  else if dialect.isExtended && current.kind = .leftChevron then
    consume [typeArgumentsOrNone, typeSuffixes brackets]
  else if brackets then replace [emptyBrackets]
  else replace []

/-! ## Types or references -/

/-- The base of a type-or-reference. -/
def expandReference (dialect : Dialect) (purpose : Purpose) (current : Token) : Expansion :=
  match current.kind with
  | .primitive name =>
    if dialect.isMini && name = .boolean then consume (classify purpose .type)
    else consume (emptyBrackets :: classify purpose .type)
  | .ident | .keyword .this_ => consume [suffixes purpose .undetermined .base]
  | _ => reject (.expectedKinds [.ident, .keyword .this_] current)

/-- The next suffix of a type-or-reference, or its end. In the mini dialect arguments end it. -/
def expandSuffixes (dialect : Dialect) (purpose : Purpose) (soFar : Classification)
    (last : LastPart) (current : Token) : Expansion :=
  match current.kind with
  | .dot => consume [token .ident, suffixes purpose soFar .member]
  | .lBracket => consume [insideBrackets purpose soFar]
  | .leftChevron =>
    -- In the mini dialect a chevron only compares, so it belongs to what comes behind.
    if dialect.isMini then replace (classify purpose (settle soFar last))
    else if soFar = .reference then reject (.located .typeArgumentsAfterReference current)
    else consume [typeArguments, suffixes purpose .type .typeArguments]
  | .lParen =>
    if soFar = .type then reject (.located .callAfterType current)
    else if !last.isCallable then reject (.located .callAfterValue current)
    else
      consume ([elements .rParen, close .arguments] ++
        if dialect.isMini then classify purpose .referenceUnassignable
        else [suffixes purpose .reference .arguments])
  | _ => replace (classify purpose (settle soFar last))

/-- Brackets in a type-or-reference: empty ones make it a type and only more of them may follow, an
index makes it a reference. In the mini dialect an index ends it. -/
def expandInsideBrackets (dialect : Dialect) (purpose : Purpose) (soFar : Classification)
    (current : Token) : Expansion :=
  if current.kind = .rBracket then
    if soFar = .reference then reject (.located (.bracketsAfterReference current) current)
    else consume (emptyBrackets :: classify purpose .type)
  else if soFar = .type then reject (.located (.indexAfterType current) current)
  else
    replace ([expression false, token .rBracket] ++
      if dialect.isMini then classify purpose .reference
      else [suffixes purpose .reference .index])

/-- What may follow a type-or-reference, by what it is read for. -/
def expandClassified (purpose : Purpose) (result : Classification) (current : Token) :
    Expansion :=
  match purpose with
  | .operand first =>
    if result = .type then reject (.located (.typeAsValue first) first) else replace []
  | .update operator =>
    if result = .type then reject (.located (.updateOfType operator) operator) else replace []
  | .statement place =>
    match current.kind with
    | .ident =>
      if result.canBeType then consume [declarationEnd place]
      else reject (.located (.nameAfterReference current) current)
    | .assign | .compoundAssign | .incDec =>
      assign result current (token .semicolon :: afterStatement place)
    | .semicolon => standAlone result current (consume (afterStatement place))
    | _ => reject (.unexpected "after type/reference" current)
  | .forUpdate =>
    match current.kind with
    | .assign | .compoundAssign | .incDec => assign result current []
    | .rParen => standAlone result current (replace [])
    | _ => reject (.unexpected "after type/reference" current)

/-! ## Expressions -/

/-- An operand and what follows it. -/
def expandExpression (arrayLiteral : Bool) (current : Token) : Expansion :=
  if current.kind.isPrefixOperator then consume [expression false, expressionEnd]
  else if arrayLiteral && current.kind = .lBrace then
    consume [elements .rBrace, close .arrayLiteral, expressionEnd]
  else if current.kind.isLiteral then consume [expressionEnd]
  else if current.kind = .lParen then
    consume [expression false, token .rParen, expressionEnd]
  else if current.kind = .keyword .new_ then
    consume [type false, constructorArguments, dimensions, close .newExpression, expressionEnd]
  else replace [reference (.operand current), expressionEnd]

/-- An update, an operator with another expression, a choice between two, or nothing. -/
def expandExpressionEnd (current : Token) : Expansion :=
  if current.kind = .incDec then consume []
  else if current.kind.isInfixOperator then consume [expression false]
  else if current.kind = .question then
    consume [expression false, token .colon, expression false]
  else replace []

/-- The arguments behind the type of a new object. The mini dialect has none. -/
def expandConstructorArguments (dialect : Dialect) (current : Token) : Expansion :=
  if current.kind = .lParen then
    if dialect.isMini then consume [token .rParen]
    else consume [elements .rParen, close .arguments]
  else replace []

/-! ## Statements -/

/-- A statement that is not a block. In the head of a loop no keyword but `return` begins one. -/
def expandStatementBody (place : Place) (current : Token) : Expansion :=
  match current.kind, place with
  | .keyword .return_, _ => consume (returnValue :: afterStatement place)
  | .keyword .throw_, .body => consume [expression false, token .semicolon]
  | .keyword .break_, .body => consume [token .semicolon]
  | .keyword .continue_, .body => consume [token .semicolon]
  | .keyword .try_, .body => consume [block, tryEnd, close .tryStatement]
  | .keyword .if_, .body =>
    consume (condition ++ [statement .body, elseBranch, close .ifStatement])
  | .keyword .for_, .body => consume [token .lParen, forInit, close .forLoop]
  | .keyword .do_, .body =>
    consume ([statement .body, token (.keyword .while_)] ++ condition ++
      [token .semicolon, close .doWhileLoop])
  | .keyword .while_, .body =>
    consume (condition ++ [statement .body, close .whileLoop])
  | .incDec, _ => replace ([update, token .semicolon] ++ afterStatement place)
  | _, _ => replace [reference (.statement place)]

/-- What follows the name in a declaration: a loop over values, an initial value, or in the extended
dialect nothing. -/
def expandDeclarationEnd (dialect : Dialect) (place : Place) (current : Token) : Expansion :=
  if place = .forHead && current.kind = .colon then consume [expression false, forBody]
  else if dialect.isExtended && current.kind = .semicolon then consume (afterStatement place)
  else
    replace ([token .assign, expression true, token .semicolon] ++ afterStatement place)

/-- The last clause in the head of a loop: nothing, an update, an assignment or a call. -/
def expandForUpdate (current : Token) : Expansion :=
  if current.kind = .rParen then replace []
  else if current.kind = .incDec then replace [update]
  else replace [reference .forUpdate]

/-- What follows the block of a `try` statement: a handler and perhaps a last block, or a last
block. -/
def expandTryEnd (current : Token) : Expansion :=
  if current.kind = .keyword .catch_ then
    consume [token .lParen, type false, token .ident, token .rParen, block, finallyBlock]
  else replace [token (.keyword .finally_), block]

/-! ## Declarations -/

/-- What follows a name of a member: another name, a parameter list, an initial value or the end.
Several names make it a field and `void` makes it a method, so both together are an error. -/
def expandMemberEnd (dialect : Dialect) (isVoid : Bool) (first : Token) (several : Bool)
    (current : Token) : Expansion :=
  -- The comma comes first: `void a, b` is at fault only behind its last name.
  if current.kind = .comma then consume [token .ident, memberEnd isVoid first true]
  else if isVoid && several then reject (.located .voidField first)
  else
    match current.kind with
    | .lParen =>
      if several then reject (.located .parametersAfterNames current)
      else
        replace [announce (.methodNamed first), token .lParen, parameters, throwsClause, block]
    | .assign =>
      if dialect.isMini then reject (.located .fieldInitializer current)
      else if isVoid then reject (.located .voidField current)
      else consume [expression true, token .semicolon]
    | .semicolon =>
      if isVoid then reject (.located .voidField current) else consume []
    | _ => reject (.unexpected "in class body" current)

/-- The last part of an import: a name, or a star for all of them. -/
def expandImportName (current : Token) : Expansion :=
  if current.kind = .binaryOp && current.text = "*" then consume []
  else replace [token .ident, importNames]

/-- One class, with markers in the extended dialect. -/
def classDeclaration (dialect : Dialect) : List Symbol :=
  (if dialect.isExtended then [markers] else []) ++
    [token (.keyword .class_), className, superclass, token .lBrace, members,
      close .classDeclaration]

/-- A whole program, with a package header and imports in the extended dialect. -/
def wholeProgram (dialect : Dialect) : List Symbol :=
  (if dialect.isExtended then
      [token (.keyword .package_), token .ident, dottedNames, token .semicolon,
        close .packageHeader, imports]
    else []) ++ [classes]

end Grammar

open Grammar

/-- What becomes of a symbol in front of a token. The tag derives the equations, one for each
symbol, here and once for all proofs. -/
@[grind =] def Symbol.expand (dialect : Dialect) (current : Token) : Symbol → Expansion
  | terminal kinds =>
    if current.kind ∈ kinds then .consume [] else .reject (.expectedKinds kinds current)
  | announce event => .announce event
  | close _ => .replace []
  | type brackets => expandType dialect brackets current
  | typeSuffixes brackets => expandTypeSuffixes dialect brackets current
  | typeArgumentsOrNone =>
    if current.kind = .rightChevron then .consume [] else .replace [typeArguments]
  | typeArguments => .replace [type true, typeArgumentsEnd]
  | typeArgumentsEnd =>
    if current.kind = .comma then .consume [typeArguments]
    else .replace [token .rightChevron]
  | emptyBrackets => optional .lBracket [token .rBracket, emptyBrackets] current
  | reference purpose => expandReference dialect purpose current
  | suffixes purpose soFar last => expandSuffixes dialect purpose soFar last current
  | insideBrackets purpose soFar => expandInsideBrackets dialect purpose soFar current
  | classified purpose result => expandClassified purpose result current
  | expression arrayLiteral => expandExpression arrayLiteral current
  | expressionEnd => expandExpressionEnd current
  | elements closing =>
    if current.kind = closing then .replace [token closing]
    else .replace [expression false, elementsEnd closing]
  | elementsEnd closing =>
    if current.kind = .comma then .consume [elements closing] else .replace [token closing]
  | constructorArguments => expandConstructorArguments dialect current
  | dimensions => optional .lBracket [expression false, token .rBracket, dimensions] current
  | statement place =>
    if current.kind = .lBrace then .replace (block :: afterStatement place)
    else
      .replace [announce (.statement current.kind (place = .body)), statementBody place]
  | statementBody place => expandStatementBody place current
  | block => .replace [token .lBrace, statements, close .block]
  | statements =>
    if current.kind = .rBrace then .consume [] else .replace [statement .body, statements]
  | returnValue =>
    if current.kind = .semicolon then .consume []
    else .replace [expression false, token .semicolon]
  | declarationEnd place => expandDeclarationEnd dialect place current
  | update =>
    if current.kind = .incDec then .consume [reference (.update current)]
    else .reject (.expectedKinds [.incDec] current)
  | elseBranch => optional (.keyword .else_) [statement .body] current
  | forInit =>
    if current.kind = .semicolon then .consume [forCondition]
    else .replace [statement .forHead]
  | forCondition =>
    if current.kind = .semicolon then .consume [forUpdate, forBody]
    else .replace [expression false, token .semicolon, forUpdate, forBody]
  | forUpdate => expandForUpdate current
  | forBody => .replace [token .rParen, statement .body]
  | tryEnd => expandTryEnd current
  | finallyBlock => optional (.keyword .finally_) [block] current
  | program => .replace (wholeProgram dialect)
  | dottedNames => optional .dot [token .ident, dottedNames] current
  | imports =>
    optional (.keyword .import_)
      [token .ident, importNames, token .semicolon, close .importDeclaration, imports] current
  | importNames => optional .dot [importName] current
  | importName => expandImportName current
  | classes =>
    if current.kind = .eot then .replace []
    else .replace (classDeclaration dialect ++ [classes])
  | markers =>
    if current.kind = .protection then .consume [modifiers] else .replace [modifiers]
  | modifiers => optional .modifier [modifiers] current
  | className =>
    if current.kind = .ident then .consume [announce (.classNamed current)]
    else .reject (.expectedKinds [.ident] current)
  | superclass => optional (.keyword .extends_) [type false] current
  | members =>
    if current.kind = .rBrace then .consume []
    else .replace [markers, memberType, close .memberDeclaration, members]
  | memberType =>
    if current.kind = .keyword .void_ then .consume [memberName true]
    else .replace [type true, memberName false]
  | memberName isVoid =>
    if current.kind = .ident then .consume [memberEnd isVoid current false]
    else .reject (.expectedKinds [.ident] current)
  | memberEnd isVoid first several => expandMemberEnd dialect isVoid first several current
  | parameters =>
    if current.kind = .rParen then .consume []
    else .replace [parameter, close .parameters]
  | parameter => .replace [type true, ellipsis, token .ident, parametersEnd]
  | ellipsis => optional .ellipsis [] current
  | parametersEnd =>
    if current.kind = .comma then .consume [parameter] else .replace [token .rParen]
  | throwsClause => optional (.keyword .throws_) [type false] current

end MiniJ
