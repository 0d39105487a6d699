import MiniJ.Proofs.Language.Completeness.Insertion

/-!
# Steps of acceptance

What single steps of an agenda need and allow. The first part says with which kinds of tokens an
accepted symbol may begin: it is read off the expansions, so that no table of first tokens has to be
kept beside the grammar. The second part has the steps that come up again and again. The third part
says what an agenda must be like behind an expression and behind a statement, so that the optional
symbols at their ends can be inserted (`EndsExpression`, `EndsStatement`).
-/

set_option autoImplicit false

namespace MiniJ

namespace TokenKind

/-- Whether a type-or-reference may begin with a token of this kind. -/
def beginsReference : TokenKind → Bool
  | ident | primitive _ | keyword .this_ => true
  | _ => false

/-- Whether a type may begin with a token of this kind. -/
def beginsType : TokenKind → Bool
  | ident | primitive _ => true
  | _ => false

/-- Whether an expression may begin with a token of this kind. -/
def beginsExpression (kind : TokenKind) : Bool :=
  kind.isPrefixOperator || kind.isLiteral || kind = lParen || kind = keyword .new_ ||
    kind.beginsReference

/-- Whether a statement that is not a block may begin with a token of this kind. -/
def beginsStatementBody : TokenKind → Bool
  | keyword .return_ | keyword .throw_ | keyword .break_ | keyword .continue_ | keyword .try_
  | keyword .if_ | keyword .for_ | keyword .do_ | keyword .while_ | incDec => true
  | kind => kind.beginsReference

end TokenKind

open Grammar

variable {dialect : Dialect} {stop current : Token} {kind : TokenKind} {rest : List Symbol}
  {tokens : List Token}

/-! ## First tokens -/

theorem Accepts.beginsReference {purpose : Purpose}
    (accepts : Accepts dialect stop (.reference purpose :: rest) tokens) :
    (frontOf stop tokens).kind.beginsReference = true := by
  refine Decidable.byContradiction fun other => ?_
  have rejects : (Symbol.reference purpose).expand dialect (frontOf stop tokens) =
      .reject (.expectedKinds [.ident, .keyword .this_] (frontOf stop tokens)) := by
    rw [Symbol.expand, expandReference]
    split <;> simp_all [TokenKind.beginsReference]
  exact not_accepts_reject rejects accepts

theorem Accepts.beginsType {brackets : Bool}
    (accepts : Accepts dialect stop (.type brackets :: rest) tokens) :
    (frontOf stop tokens).kind.beginsType = true := by
  refine Decidable.byContradiction fun other => ?_
  have rejects : (Symbol.type brackets).expand dialect (frontOf stop tokens) =
      .reject (.expectedKinds [.ident] (frontOf stop tokens)) := by
    rw [Symbol.expand, expandType]
    split <;> simp_all [TokenKind.beginsType]
  exact not_accepts_reject rejects accepts

theorem Accepts.beginsExpression
    (accepts : Accepts dialect stop (.expression false :: rest) tokens) :
    (frontOf stop tokens).kind.beginsExpression = true := by
  refine Decidable.byContradiction fun other => ?_
  simp only [TokenKind.beginsExpression, Bool.or_eq_true, decide_eq_true_eq, not_or] at other
  obtain ⟨⟨⟨⟨noPrefix, noLiteral⟩, noParen⟩, noNew⟩, noReference⟩ := other
  have expands : (Symbol.expression false).expand dialect (frontOf stop tokens) =
      .replace [.reference (.operand (frontOf stop tokens)), .expressionEnd] := by
    simp [Symbol.expand, expandExpression, noPrefix, noLiteral, noParen, noNew]
  rw [accepts_replace expands] at accepts
  exact noReference accepts.beginsReference

theorem Accepts.beginsStatementBody {place : Place}
    (accepts : Accepts dialect stop (.statementBody place :: rest) tokens) :
    (frontOf stop tokens).kind.beginsStatementBody = true := by
  refine Decidable.byContradiction fun other => ?_
  have noReference : ¬ (frontOf stop tokens).kind.beginsReference = true := by
    intro begins
    revert other
    simp only [TokenKind.beginsStatementBody]
    split <;> simp_all
  have expands : (Symbol.statementBody place).expand dialect (frontOf stop tokens) =
      .replace [.reference (.statement place)] := by
    rw [Symbol.expand]
    simp only [expandStatementBody]
    split <;> simp_all [TokenKind.beginsStatementBody]
  rw [accepts_replace expands] at accepts
  exact noReference accepts.beginsReference

/-- A statement is a block or begins as another statement does. -/
theorem Accepts.beginsStatement {place : Place}
    (accepts : Accepts dialect stop (.statement place :: rest) tokens) :
    (frontOf stop tokens).kind = .lBrace ∨
      (frontOf stop tokens).kind.beginsStatementBody = true := by
  by_cases brace : (frontOf stop tokens).kind = .lBrace
  · exact .inl brace
  · right
    have expands : (Symbol.statement place).expand dialect (frontOf stop tokens) =
        .replace [.announce (.statement (frontOf stop tokens).kind (place = .body)),
          .statementBody place] := by
      simp [Symbol.expand, brace]
    rw [accepts_replace expands] at accepts
    have entry : (Symbol.announce (.statement (frontOf stop tokens).kind
        (place = .body))).expand dialect (frontOf stop tokens) = .announce _ := rfl
    exact ((accepts_announce entry).mp accepts).beginsStatementBody

section Fronts

variable {other : TokenKind}

theorem Accepts.front_ne_of_type {brackets : Bool} (cannot : other.beginsType = false)
    (accepts : Accepts dialect stop (.type brackets :: rest) tokens) :
    (frontOf stop tokens).kind ≠ other := by
  intro here
  have begins := accepts.beginsType
  rw [here, cannot] at begins
  cases begins

theorem Accepts.front_ne_of_expression (cannot : other.beginsExpression = false)
    (accepts : Accepts dialect stop (.expression false :: rest) tokens) :
    (frontOf stop tokens).kind ≠ other := by
  intro here
  have begins := accepts.beginsExpression
  rw [here, cannot] at begins
  cases begins

theorem Accepts.front_ne_of_statementBody {place : Place}
    (cannot : other.beginsStatementBody = false)
    (accepts : Accepts dialect stop (.statementBody place :: rest) tokens) :
    (frontOf stop tokens).kind ≠ other := by
  intro here
  have begins := accepts.beginsStatementBody
  rw [here, cannot] at begins
  cases begins

theorem Accepts.front_ne_of_statement {place : Place} (noBrace : other ≠ .lBrace)
    (cannot : other.beginsStatementBody = false)
    (accepts : Accepts dialect stop (.statement place :: rest) tokens) :
    (frontOf stop tokens).kind ≠ other := by
  intro here
  rcases accepts.beginsStatement with brace | begins
  · exact noBrace (here.symm.trans brace)
  · rw [here, cannot] at begins
    cases begins

end Fronts

/-- A terminal stands only in front of its own kind. -/
theorem refuses_token {kinds : List TokenKind} (other : kind ∉ kinds) :
    Refuses dialect stop kinds (.token kind :: rest) := by
  intro tokens front
  have rejects : (Symbol.token kind).expand dialect (frontOf stop tokens) =
      .reject (.expectedKinds [kind] (frontOf stop tokens)) := by
    rw [Symbol.expand, if_neg]
    intro member
    rw [List.mem_singleton.mp member] at front
    exact other front
  exact not_accepts_reject rejects

theorem Accepts.front_of_token (accepts : Accepts dialect stop (.token kind :: rest) tokens) :
    (frontOf stop tokens).kind = kind := by
  refine Decidable.byContradiction fun other => ?_
  have outside : kind ∉ [(frontOf stop tokens).kind] := by
    intro member
    exact other (List.mem_singleton.mp member).symm
  exact refuses_token outside tokens (List.mem_singleton_self _) accepts

/-! ## Frequent steps -/

theorem accepts_token (here : current.kind = kind) (accepts : Accepts dialect stop rest tokens) :
    Accepts dialect stop (.token kind :: rest) (current :: tokens) := by
  have expands : (Symbol.token kind).expand dialect current = .consume [] := by
    rw [Symbol.expand, if_pos (List.mem_singleton.mpr here)]
  exact .consume expands accepts

theorem accepts_close {construct : Construct} (accepts : Accepts dialect stop rest tokens) :
    Accepts dialect stop (.close construct :: rest) tokens :=
  .replace rfl accepts

theorem accepts_announce_then {event : Event} (accepts : Accepts dialect stop rest tokens) :
    Accepts dialect stop (.announce event :: rest) tokens :=
  .announce rfl accepts

section Optional

variable {symbol : Symbol} {symbols : List Symbol}

/-- A symbol that may be missing is passed over in front of other tokens. -/
theorem accepts_missing
    (same : ∀ current, symbol.expand dialect current = Grammar.optional kind symbols current)
    (other : (frontOf stop tokens).kind ≠ kind) (accepts : Accepts dialect stop rest tokens) :
    Accepts dialect stop (symbol :: rest) tokens := by
  have expands : symbol.expand dialect (frontOf stop tokens) = .replace [] := by
    rw [same, Grammar.optional, if_neg other]
  exact .replace expands accepts

/-- In front of its first token it is taken. -/
theorem accepts_present
    (same : ∀ current, symbol.expand dialect current = Grammar.optional kind symbols current)
    (here : current.kind = kind) (accepts : Accepts dialect stop (symbols ++ rest) tokens) :
    Accepts dialect stop (symbol :: rest) (current :: tokens) := by
  have expands : symbol.expand dialect current = .consume symbols := by
    rw [same, Grammar.optional, if_pos here]
  exact .consume expands accepts

end Optional

/-! ## What stands behind expressions and statements -/

/-- The kinds of tokens with which an expression would go on. -/
def continuing : List TokenKind :=
  [.incDec, .binaryOp, .compareOp, .genericOp, .leftChevron, .rightChevron, .question, .dot,
    .lBracket, .lParen]

/-- The kinds of tokens with which a statement would go on. -/
def branching : List TokenKind :=
  [.keyword .else_, .keyword .finally_]

theorem expressionEnd_isOptional : Symbol.expressionEnd.IsOptional dialect continuing := by
  intro current
  rw [Symbol.expand, expandExpressionEnd]
  split
  · rename_i sign
    exact .inr ⟨by simp [sign, continuing], _, rfl⟩
  split
  · rename_i sign
    refine .inr ⟨?_, _, rfl⟩
    simp only [TokenKind.isInfixOperator] at sign
    split at sign <;> simp_all [continuing]
  split
  · rename_i sign
    exact .inr ⟨by simp [sign, continuing], _, rfl⟩
  · exact .inl rfl

theorem elseBranch_isOptional : Symbol.elseBranch.IsOptional dialect branching := by
  intro current
  by_cases here : current.kind = .keyword .else_
  · exact .inr ⟨by simp [here, branching], [.statement .body],
      by simp [Symbol.expand, Grammar.optional, here]⟩
  · exact .inl (by simp [Symbol.expand, Grammar.optional, here])

/-- That an expression may end where an agenda begins. -/
def EndsExpression (dialect : Dialect) (stop : Token) (rest : List Symbol) : Prop :=
  Yields dialect stop continuing .expressionEnd rest

/-- That a statement may end where an agenda begins. -/
def EndsStatement (dialect : Dialect) (stop : Token) (rest : List Symbol) : Prop :=
  Yields dialect stop branching .elseBranch rest

theorem endsExpression_token (other : kind ∉ continuing) :
    EndsExpression dialect stop (.token kind :: rest) :=
  .refuses (refuses_token other)

theorem endsExpression_elementsEnd (other : kind ∉ continuing) :
    EndsExpression dialect stop (.elementsEnd kind :: rest) := by
  refine .refuses fun tokens front accepts => ?_
  have expands : (Symbol.elementsEnd kind).expand dialect (frontOf stop tokens) =
      .replace [.token kind] := by
    rw [Symbol.expand, if_neg]
    intro comma
    rw [comma] at front
    exact absurd front (by decide)
  rw [accepts_replace expands] at accepts
  exact refuses_token other tokens front accepts

theorem endsExpression_forBody : EndsExpression dialect stop (.forBody :: rest) := by
  refine .refuses fun tokens front accepts => ?_
  have expands : Symbol.forBody.expand dialect (frontOf stop tokens) =
      .replace [.token .rParen, .statement .body] := rfl
  rw [accepts_replace expands] at accepts
  exact refuses_token (by decide) tokens front accepts

theorem EndsExpression.again (ends : EndsExpression dialect stop rest) :
    EndsExpression dialect stop (.expressionEnd :: rest) :=
  Yields.again ends

/-- The end of an expression may stand where nothing of the kind follows. -/
theorem accepts_expressionEnd (ends : EndsExpression dialect stop rest)
    (accepts : Accepts dialect stop rest tokens) :
    Accepts dialect stop (.expressionEnd :: rest) tokens := by
  have inserted : Accepts dialect stop ([] ++ .expressionEnd :: rest) tokens :=
    accepts_insert expressionEnd_isOptional accepts rfl ends
  exact inserted

/-- Behind an expression no suffix of a reference follows. -/
theorem EndsExpression.front (ends : EndsExpression dialect stop rest)
    (accepts : Accepts dialect stop rest tokens) :
    (frontOf stop tokens).kind ∉ [.dot, .lBracket, .lParen] := by
  intro suffix
  have among : (frontOf stop tokens).kind ∈ continuing := by
    simp only [List.mem_cons, List.not_mem_nil, or_false] at suffix
    rcases suffix with here | here | here <;> simp [here, continuing]
  refine Yields.not_accepts ends among ?_ accepts
  simp only [List.mem_cons, List.not_mem_nil, or_false] at suffix
  rcases suffix with here | here | here <;>
    simp [Symbol.expand, expandExpressionEnd, here, TokenKind.isInfixOperator]

theorem endsStatement_token (other : kind ∉ branching) :
    EndsStatement dialect stop (.token kind :: rest) :=
  .refuses (refuses_token other)

theorem endsStatement_statements : EndsStatement dialect stop (.statements :: rest) := by
  refine .refuses fun tokens front accepts => ?_
  have expands : Symbol.statements.expand dialect (frontOf stop tokens) =
      .replace [.statement .body, .statements] := by
    rw [Symbol.expand, if_neg]
    intro closing
    rw [closing] at front
    exact absurd front (by decide)
  rw [accepts_replace expands] at accepts
  simp only [branching, List.mem_cons, List.not_mem_nil, or_false] at front
  rcases front with here | here
  · exact accepts.front_ne_of_statement (by decide) (by decide) here
  · exact accepts.front_ne_of_statement (by decide) (by decide) here

/-- The other branch may stand where nothing of the kind follows. -/
theorem accepts_elseBranch (ends : EndsStatement dialect stop rest)
    (accepts : Accepts dialect stop rest tokens) :
    Accepts dialect stop (.elseBranch :: rest) tokens := by
  have inserted : Accepts dialect stop ([] ++ .elseBranch :: rest) tokens :=
    accepts_insert elseBranch_isOptional accepts rfl ends
  exact inserted

/-- Behind a statement no last block of a `try` statement follows. -/
theorem EndsStatement.front (ends : EndsStatement dialect stop rest)
    (accepts : Accepts dialect stop rest tokens) :
    (frontOf stop tokens).kind ≠ .keyword .finally_ := by
  intro here
  refine Yields.not_accepts ends (by simp [here, branching]) ?_ accepts
  simp [Symbol.expand, Grammar.optional, here]

end MiniJ
