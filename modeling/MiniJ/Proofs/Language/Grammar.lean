import MiniJ.Proofs.Language.Ebnf
import MiniJ.Token.Basic

/-!
# The grammars of both dialects

`Language.rule` is the grammar of a dialect as a table: one expression for each `Phrase`. It says
which token lists are programs and nothing of how they are recognized. Several rows are ambiguous:
an `else` may belong to any open `if`, and an operator behind a signed operand to the signed
expression or to the whole.

In the extended dialect `<` behind a name opens type arguments. A reference and a constructed type
without arguments or sizes are therefore no operands where `<` follows.
-/

set_option autoImplicit false

namespace MiniJ

/-- A terminal of the grammars. -/
inductive Sign where
  | kind (kind : TokenKind)
  | anyOf (kinds : List TokenKind)
  /-- The operator `*`. -/
  | star
  deriving DecidableEq

namespace Sign

/-- Whether a token may stand at a terminal. -/
def Admits : Sign → Token → Prop
  | .kind expected, token => token.kind = expected
  | anyOf kinds, token => token.kind ∈ kinds
  | star, token => token.kind = .binaryOp ∧ token.text = "*"

/-- Whether a kind may stand at a terminal. No kind tells a star from other operators. -/
def AdmitsKind : Sign → TokenKind → Prop
  | .kind expected, found => found = expected
  | anyOf kinds, found => found ∈ kinds
  | star, _ => False

end Sign

/-- The nonterminals of the grammars. -/
inductive Phrase where
  | program
  | classDeclaration
  | member
  /-- A parameter list with its parentheses. -/
  | parameters
  /-- A type without brackets. -/
  | nominal
  | type
  | block
  | statement
  /-- A declaration, an assignment, an update or a call that ends with a semicolon. -/
  | simple
  | forLoop
  /-- The last clause in the head of a loop. -/
  | update
  /-- The type of a variable that a statement declares. -/
  | declared
  /-- What can be assigned to. -/
  | target
  | call
  | reference
  /-- Arguments with their parentheses. -/
  | arguments
  /-- The initial value of a variable. -/
  | initializer
  | expression
  | operand
  /-- What may follow an operand. -/
  | tail
  deriving DecidableEq

namespace Language

open Ebnf

/-- A part of a rule. -/
abbrev Part : Type := Ebnf Sign Phrase

/-- A token of a kind. -/
def tok (kind : TokenKind) : Part := terminal (.kind kind)

/-- A keyword. -/
def word (keyword : Keyword) : Part := tok (.keyword keyword)

/-- A phrase. -/
def phrase (name : Phrase) : Part := nonterminal name

/-- A part that only the extended dialect has. -/
def inExtended (dialect : Dialect) (part : Part) : Part :=
  match dialect with
  | .mini => empty
  | .extended => part

/-- An alternative that only the extended dialect has. -/
def orInExtended (dialect : Dialect) (part : Part) : Part :=
  match dialect with
  | .mini => never
  | .extended => part

/-! ## Shared parts -/

/-- One or more of a part, with commas between them. -/
def commaList (part : Part) : Part :=
  seq [part, many (seq [tok .comma, part])]

/-- The name of a primitive type. -/
def primitive : Part := terminal (.anyOf (Primitive.all.map .primitive))

/-- The name of a primitive type that may be the type of array elements in the mini dialect. -/
def elementPrimitive : Part :=
  terminal (.anyOf ((Primitive.all.filter (· ≠ .boolean)).map .primitive))

/-- A literal. -/
def literal : Part := terminal (.anyOf (Literal.all.map .literal))

/-- An operator before an operand. -/
def prefixOperator : Part := terminal (.anyOf [.unaryOp, .genericOp, .incDec])

/-- An operator between two operands. -/
def infixOperator : Part :=
  terminal (.anyOf [.binaryOp, .compareOp, .genericOp, .leftChevron, .rightChevron])

/-- An assignment sign. -/
def assignment : Part := terminal (.anyOf [.assign, .compoundAssign])

/-- The leading name of what a statement or an operand begins with. -/
def head : Part := terminal (.anyOf [.ident, .keyword .this_])

/-- A name behind a dot. -/
def dotted : Part := seq [tok .dot, tok .ident]

/-- A dotted name. -/
def name : Part := seq [head, many dotted]

/-- An empty pair of brackets. -/
def brackets : Part := seq [tok .lBracket, tok .rBracket]

/-- An index, or the size of a new array. -/
def index : Part := seq [tok .lBracket, phrase .expression, tok .rBracket]

/-- Type arguments. -/
def typeArguments : Part := seq [tok .leftChevron, commaList (phrase .type), tok .rightChevron]

/-- Any number of expressions with commas, perhaps with one more comma behind them. -/
def elements : Part := opt (seq [commaList (phrase .expression), opt (tok .comma)])

/-- The markers of a declaration. -/
def markers : Part := seq [opt (tok .protection), many (tok .modifier)]

/-- What a type may go on with behind its first name. -/
def nominalSuffix (dialect : Dialect) : Part :=
  match dialect with
  | .mini => dotted
  | .extended => oneOf [dotted, seq [tok .leftChevron, tok .rightChevron], typeArguments]

/-- The sign `=` and an initial value. -/
def initial : Part := seq [tok .assign, phrase .initializer]

/-- What follows the name in a declaration of a variable. -/
def declarationEnd (dialect : Dialect) : Part :=
  match dialect with
  | .mini => seq [initial, tok .semicolon]
  | .extended => seq [opt initial, tok .semicolon]

/-! ## Parts of declarations and statements -/

/-- An import. -/
def importDeclaration : Part :=
  seq [word .import_, tok .ident, many dotted, opt (seq [tok .dot, terminal .star]),
    tok .semicolon]

/-- What follows the type of a method. -/
def method (dialect : Dialect) : Part :=
  seq [tok .ident, phrase .parameters,
    inExtended dialect (opt (seq [word .throws_, phrase .nominal])), phrase .block]

/-- What follows the type of fields. -/
def fields (dialect : Dialect) : Part :=
  seq [commaList (tok .ident), inExtended dialect (opt initial), tok .semicolon]

/-- A parameter. -/
def parameter (dialect : Dialect) : Part :=
  seq [phrase .type, inExtended dialect (opt (tok .ellipsis)), tok .ident]

/-- An expression in parentheses. -/
def condition : Part := seq [tok .lParen, phrase .expression, tok .rParen]

/-- A `return` statement. -/
def returnStatement : Part :=
  seq [word .return_, opt (phrase .expression), tok .semicolon]

/-- A statement that counts up or down by the sign in front. -/
def count : Part := seq [tok .incDec, phrase .reference, tok .semicolon]

/-- The block that is run in any case. -/
def finallyBlock : Part := seq [word .finally_, phrase .block]

/-- What follows the block of a `try` statement. -/
def tryEnd : Part :=
  oneOf [seq [word .catch_, tok .lParen, phrase .nominal, tok .ident, tok .rParen, phrase .block,
      opt finallyBlock],
    finallyBlock]

/-- The statements that only the extended dialect has. -/
def extendedStatement : Part :=
  oneOf [seq [word .throw_, phrase .expression, tok .semicolon],
    seq [word .break_, tok .semicolon],
    seq [word .continue_, tok .semicolon],
    seq [word .do_, phrase .statement, word .while_, condition, tok .semicolon],
    seq [word .try_, phrase .block, tryEnd]]

/-- The first clause in the head of a loop. -/
def forStart : Part :=
  oneOf [tok .semicolon, phrase .block, returnStatement, count, phrase .simple]

/-- The head of a loop behind its first clause, and the body. -/
def forRest : Part :=
  seq [opt (phrase .expression), tok .semicolon, opt (phrase .update), tok .rParen,
    phrase .statement]

/-- The head of a loop over values, and the body. -/
def forEach : Part :=
  seq [phrase .declared, tok .ident, tok .colon, phrase .expression, tok .rParen,
    phrase .statement]

/-! ## The table -/

/-- What each phrase stands for. -/
def rule (dialect : Dialect) : Phrase → Part
  | .program =>
    match dialect with
    | .mini => many (phrase .classDeclaration)
    | .extended =>
      seq [word .package_, tok .ident, many dotted, tok .semicolon, many importDeclaration,
        many (phrase .classDeclaration)]
  | .classDeclaration =>
    seq [inExtended dialect markers, word .class_, tok .ident,
      inExtended dialect (opt (seq [word .extends_, phrase .nominal])), tok .lBrace,
      many (phrase .member), tok .rBrace]
  | .member =>
    seq [markers,
      oneOf [seq [word .void_, method dialect], seq [phrase .type, method dialect],
        seq [phrase .type, fields dialect]]]
  | .parameters => seq [tok .lParen, opt (commaList (parameter dialect)), tok .rParen]
  | .nominal => oneOf [primitive, seq [tok .ident, many (nominalSuffix dialect)]]
  | .type =>
    match dialect with
    | .mini =>
      oneOf [tok (.primitive .boolean), seq [elementPrimitive, many brackets],
        seq [tok .ident, many dotted, many brackets]]
    | .extended => seq [phrase .nominal, many brackets]
  | .block => seq [tok .lBrace, many (phrase .statement), tok .rBrace]
  | .statement =>
    oneOf [phrase .block, returnStatement,
      seq [word .if_, condition, phrase .statement, opt (seq [word .else_, phrase .statement])],
      seq [word .while_, condition, phrase .statement],
      phrase .forLoop, count, phrase .simple, orInExtended dialect extendedStatement]
  | .simple =>
    oneOf [seq [phrase .declared, tok .ident, declarationEnd dialect],
      seq [phrase .target, assignment, phrase .expression, tok .semicolon],
      seq [phrase .target, tok .incDec, tok .semicolon],
      seq [phrase .call, tok .semicolon]]
  | .forLoop =>
    seq [word .for_, tok .lParen, oneOf [seq [forStart, forRest], forEach]]
  | .update =>
    oneOf [seq [tok .incDec, phrase .reference],
      seq [phrase .target, assignment, phrase .expression],
      seq [phrase .target, tok .incDec],
      phrase .call]
  | .declared =>
    match dialect with
    | .mini =>
      oneOf [tok (.primitive .boolean), seq [elementPrimitive, many brackets],
        seq [name, many brackets]]
    | .extended =>
      oneOf [seq [primitive, many brackets],
        seq [head, many (oneOf [dotted, typeArguments]), many brackets]]
  | .target =>
    match dialect with
    | .mini => oneOf [name, seq [name, index]]
    | .extended => oneOf [head, seq [phrase .reference, dotted], seq [phrase .reference, index]]
  | .call =>
    match dialect with
    | .mini => seq [name, phrase .arguments]
    | .extended =>
      oneOf [seq [head, phrase .arguments], seq [phrase .reference, dotted, phrase .arguments]]
  | .reference => oneOf [phrase .target, phrase .call]
  | .arguments => seq [tok .lParen, elements, tok .rParen]
  | .initializer =>
    oneOf [phrase .expression,
      seq [tok .lBrace, elements, tok .rBrace, opt (phrase .tail)]]
  | .expression =>
    oneOf [seq [prefixOperator, phrase .expression, opt (phrase .tail)],
      seq [phrase .operand, opt (phrase .tail)]]
  | .operand =>
    match dialect with
    | .mini =>
      oneOf [literal, condition,
        seq [word .new_, phrase .nominal, opt (seq [tok .lParen, tok .rParen]), many index],
        phrase .reference]
    | .extended =>
      oneOf [literal, condition,
        seq [word .new_, primitive],
        notBefore (.kind .leftChevron) (seq [word .new_, phrase .nominal]),
        seq [word .new_, phrase .nominal, phrase .arguments, many index],
        seq [word .new_, phrase .nominal, index, many index],
        notBefore (.kind .leftChevron) (phrase .reference)]
  | .tail =>
    oneOf [tok .incDec, seq [infixOperator, phrase .expression],
      seq [tok .question, phrase .expression, tok .colon, phrase .expression]]

/-- Whether a phrase takes a token list to what is left of it. -/
abbrev Derives (dialect : Dialect) : Part → List Token → List Token → Prop :=
  Ebnf.Derives Sign.Admits (rule dialect)

/-- Whether a token list is a program. -/
def IsProgram (dialect : Dialect) (tokens : List Token) : Prop :=
  Derives dialect (phrase .program) tokens []

/-- Whether kinds of tokens are those of a program. -/
def IsProgramOfKinds (dialect : Dialect) (kinds : List TokenKind) : Prop :=
  Ebnf.Derives Sign.AdmitsKind (rule dialect) (phrase .program) kinds []

/-- No rule of the mini dialect looks at more of a token than its kind. -/
theorem admits_iff_of_mem_terminals (name : Phrase) :
    ∀ sign ∈ (rule .mini name).terminals, ∀ token : Token,
      sign.Admits token ↔ sign.AdmitsKind token.kind := by
  have starless : ∀ sign ∈ (rule .mini name).terminals, sign ≠ .star := by
    cases name <;> decide
  intro sign member token
  cases sign with
  | kind kind => exact Iff.rfl
  | anyOf kinds => exact Iff.rfl
  | star => exact absurd rfl (starless _ member)

/-- **In the mini dialect the kinds decide which token lists are programs.** -/
theorem isProgram_mini_iff (tokens : List Token) :
    IsProgram .mini tokens ↔ IsProgramOfKinds .mini (tokens.map Token.kind) := by
  constructor
  · intro program
    exact program.map (f := Token.kind) admits_iff_of_mem_terminals
      (by simp [phrase, terminals])
  · intro program
    obtain ⟨rest, isOver, derives⟩ :=
      program.of_map (f := Token.kind) admits_iff_of_mem_terminals
        (by simp [phrase, terminals]) rfl
    rw [List.map_eq_nil_iff.mp isOver.symm] at derives
    exact derives

end Language

end MiniJ
