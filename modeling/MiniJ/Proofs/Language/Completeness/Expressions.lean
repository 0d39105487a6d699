import MiniJ.Proofs.Language.Completeness.References

/-!
# Expressions are accepted

The rules for expressions, lists of them and operands keep the property of their phrases
(`Language.Accepting`): the symbols for a phrase are accepted when the parts of its rule are.

Where a rule leaves a choice, the token in front has to settle it the same way. That is not read off
the grammar again: the part that a rule takes is accepted, and an accepted symbol says with which
tokens it may begin.
-/

set_option autoImplicit false

namespace MiniJ

open Grammar

/-- Symbols that expand alike in front of the tokens are accepted alike. -/
theorem Accepts.congr {dialect : Dialect} {stop : Token} {symbol other : Symbol}
    {rest : List Symbol} {tokens : List Token}
    (same : symbol.expand dialect (frontOf stop tokens) =
      other.expand dialect (frontOf stop tokens))
    (accepts : Accepts dialect stop (symbol :: rest) tokens) :
    Accepts dialect stop (other :: rest) tokens := by
  cases accepts with
  | replace expands accepts => exact .replace (same.symm.trans expands) accepts
  | consume expands accepts => exact .consume (same.symm.trans expands) accepts
  | announce expands accepts => exact .announce (same.symm.trans expands) accepts

namespace Language

open Ebnf

variable {dialect : Dialect} {stop : Token} {rest : List Symbol} {ts us vs : List Token}

theorem front_ne_of_notBefore (stops : stop.kind = .eot)
    (free : ∀ token ∈ us.head?, ¬ (Sign.kind .leftChevron).Admits token) :
    (frontOf stop us).kind ≠ .leftChevron := by
  cases us with
  | nil =>
      rw [frontOf_nil, stops]
      decide
  | cons token us => exact free token rfl

/-! ## Expressions -/

/-- An expression is accepted as an initial value, too. -/
theorem accepts_initializer (accepts : Accepts dialect stop (.expression false :: rest) ts) :
    Accepts dialect stop (.expression true :: rest) ts := by
  -- without a brace in front an array literal is not at hand
  apply accepts.congr
  have noBrace : (frontOf stop ts).kind ≠ .lBrace := accepts.front_ne_of_expression (by decide)
  simp [Symbol.expand, expandExpression, noBrace]

theorem accepts_optTail (ending : Takes dialect stop (opt (phrase .tail)) ts us)
    (ends : EndsExpression dialect stop rest) (accepts : Accepts dialect stop rest us) :
    Accepts dialect stop (.expressionEnd :: rest) ts := by
  rcases ending with tail | none
  · exact tail rest ends accepts
  · obtain rfl : ts = us := none
    exact accepts_expressionEnd ends accepts

theorem tail_accepting (row : Takes dialect stop (rule dialect .tail) ts us) :
    Accepting dialect stop .tail ts us := by
  intro rest ends accepts
  rcases row with ⟨sign, (here : sign.kind = .incDec), rfl⟩ |
    ⟨_, ⟨sign, among, rfl⟩, _, expression, rfl⟩ |
    ⟨_, ⟨sign, (here : sign.kind = .question), rfl⟩, _, first, _, ⟨colon, isColon, rfl⟩, _,
      second, rfl⟩ | never
  · -- counting up or down
    have expands : Symbol.expressionEnd.expand dialect sign = .consume [] := by
      simp [Symbol.expand, expandExpressionEnd, here]
    exact .consume expands accepts
  · -- an operator and the rest of the expression
    have expands : Symbol.expressionEnd.expand dialect sign = .consume [.expression false] := by
      simp only [Sign.Admits, List.mem_cons, List.not_mem_nil, or_false] at among
      rcases among with here | here | here | here | here <;>
        simp [Symbol.expand, expandExpressionEnd, here, TokenKind.isInfixOperator]
    exact .consume expands (expression rest ends accepts)
  · -- two branches
    have expands : Symbol.expressionEnd.expand dialect sign =
        .consume [.expression false, .token .colon, .expression false] := by
      simp [Symbol.expand, expandExpressionEnd, here, TokenKind.isInfixOperator]
    refine .consume expands (first _ (endsExpression_token (by decide)) ?_)
    exact accepts_token isColon (second rest ends accepts)
  · exact never.elim

theorem expression_accepting (row : Takes dialect stop (rule dialect .expression) ts us) :
    Accepting dialect stop .expression ts us := by
  intro rest ends accepts
  rcases row with ⟨_, ⟨sign, among, rfl⟩, vs, expression, _, ending, rfl⟩ |
    ⟨vs, operand, _, ending, rfl⟩ | never
  · have expands : (Symbol.expression false).expand dialect sign =
        .consume [.expression false, .expressionEnd] := by
      simp only [Sign.Admits, List.mem_cons, List.not_mem_nil, or_false] at among
      rcases among with here | here | here <;>
        simp [Symbol.expand, expandExpression, here, TokenKind.isPrefixOperator]
    -- The signed expression takes what it can, and what it leaves is taken behind it.
    exact .consume expands (expression _ ends.again (accepts_optTail ending ends accepts))
  · exact operand rest ends (accepts_optTail ending ends accepts)
  · exact never.elim

/-! ### Lists of expressions -/

/-- That a token may close a list of expressions. -/
structure Closes (closing : TokenKind) : Prop where
  noComma : closing ≠ .comma
  notContinuing : closing ∉ continuing
  notExpression : closing.beginsExpression = false

theorem closes_rParen : Closes .rParen := ⟨by decide, by decide, by decide⟩

theorem closes_rBrace : Closes .rBrace := ⟨by decide, by decide, by decide⟩

section Lists

variable {closing : TokenKind} {close : Token}

/-- No expression is in front of the closing token. -/
theorem accepts_elements_none (isClose : close.kind = closing)
    (accepts : Accepts dialect stop rest us) :
    Accepts dialect stop (.elements closing :: rest) (close :: us) := by
  have expands : (Symbol.elements closing).expand dialect close = .replace [.token closing] := by
    rw [Symbol.expand, if_pos isClose]
  exact .replace expands (accepts_token isClose accepts)

theorem accepts_elements_some (closes : Closes closing)
    (accepts : Accepts dialect stop (.expression false :: .elementsEnd closing :: rest) ts) :
    Accepts dialect stop (.elements closing :: rest) ts := by
  have expands : (Symbol.elements closing).expand dialect (frontOf stop ts) =
      .replace [.expression false, .elementsEnd closing] := by
    rw [Symbol.expand, if_neg (accepts.front_ne_of_expression closes.notExpression)]
  exact .replace expands accepts

/-- Behind an expression there may be more of them, and a last comma. -/
theorem accepts_elementsEnd (closes : Closes closing) (isClose : close.kind = closing)
    (others : Takes dialect stop (many (seq [tok .comma, phrase .expression])) ts vs)
    (last : Takes dialect stop (opt (tok .comma)) vs (close :: us))
    (accepts : Accepts dialect stop rest us) :
    Accepts dialect stop (.elementsEnd closing :: rest) ts := by
  have atComma {comma : Token} (isComma : comma.kind = .comma) :
      (Symbol.elementsEnd closing).expand dialect comma = .consume [.elements closing] := by
    rw [Symbol.expand, if_pos isComma]
  -- on the further expressions; behind the last of them a comma may still stand
  induction others using Relation.ReflTransGen.head_induction_on with
  | refl =>
      rcases last with ⟨comma, isComma, rfl⟩ | none
      · exact .consume (atComma isComma) (accepts_elements_none isClose accepts)
      · obtain rfl : vs = close :: us := none
        have expands : (Symbol.elementsEnd closing).expand dialect close =
            .replace [.token closing] := by
          rw [Symbol.expand, if_neg]
          rw [isClose]
          exact closes.noComma
        exact .replace expands (accepts_token isClose accepts)
  | head once _ ih =>
      obtain ⟨_, ⟨comma, isComma, rfl⟩, _, expression, rfl⟩ := once
      refine .consume (atComma isComma) (accepts_elements_some closes ?_)
      exact expression _ (endsExpression_elementsEnd closes.notContinuing) ih

theorem accepts_elements (closes : Closes closing) (isClose : close.kind = closing)
    (list : Takes dialect stop elements ts (close :: us))
    (accepts : Accepts dialect stop rest us) :
    Accepts dialect stop (.elements closing :: rest) ts := by
  rcases list with ⟨vs, ⟨ws, first, _, others, rfl⟩, _, last, rfl⟩ | none
  · apply accepts_elements_some closes
    exact first _ (endsExpression_elementsEnd closes.notContinuing)
      (accepts_elementsEnd closes isClose others last accepts)
  · obtain rfl : ts = close :: us := none
    exact accepts_elements_none isClose accepts

end Lists

theorem arguments_accepting (row : Takes dialect stop (rule dialect .arguments) ts us) :
    Accepting dialect stop .arguments ts us := by
  intro rest accepts
  obtain ⟨_, ⟨opening, isOpening, rfl⟩, _, list, _, ⟨closing, isClosing, rfl⟩, rfl⟩ := row
  exact ⟨opening, _, rfl, isOpening,
    accepts_elements closes_rParen isClosing list (accepts_close accepts)⟩

theorem initializer_accepting (row : Takes dialect stop (rule dialect .initializer) ts us) :
    Accepting dialect stop .initializer ts us := by
  intro rest ends accepts
  rcases row with expression |
    ⟨_, ⟨opening, (isOpening : opening.kind = .lBrace), rfl⟩, _, list, _,
      ⟨closing, isClosing, rfl⟩, _, ending, rfl⟩ | never
  · exact accepts_initializer (expression rest ends accepts)
  · have expands : (Symbol.expression true).expand dialect opening =
        .consume [.elements .rBrace, .close .arrayLiteral, .expressionEnd] := by
      simp [Symbol.expand, expandExpression, isOpening, TokenKind.isPrefixOperator]
    exact .consume expands (accepts_elements closes_rBrace isClosing list
      (accepts_close (accepts_optTail ending ends accepts)))
  · exact never.elim

/-! ### Operands -/

theorem accepts_literal (value : Takes dialect stop literal ts us)
    (accepts : Accepts dialect stop (.expressionEnd :: rest) us) :
    Accepts dialect stop (.expression false :: rest) ts := by
  obtain ⟨current, among, rfl⟩ := value
  obtain ⟨sort, -, here⟩ := List.mem_map.mp among
  have expands : (Symbol.expression false).expand dialect current = .consume [.expressionEnd] := by
    simp [Symbol.expand, expandExpression, ← here, TokenKind.isPrefixOperator,
      TokenKind.isLiteral]
  exact .consume expands accepts

theorem accepts_condition (value : Takes dialect stop condition ts us)
    (accepts : Accepts dialect stop (.expressionEnd :: rest) us) :
    Accepts dialect stop (.expression false :: rest) ts := by
  obtain ⟨_, ⟨opening, (isOpening : opening.kind = .lParen), rfl⟩, _, expression, _,
    ⟨closing, isClosing, rfl⟩, rfl⟩ := value
  have expands : (Symbol.expression false).expand dialect opening =
      .consume [.expression false, .token .rParen, .expressionEnd] := by
    simp [Symbol.expand, expandExpression, isOpening, TokenKind.isPrefixOperator,
      TokenKind.isLiteral]
  exact .consume expands
    (expression _ (endsExpression_token (by decide)) (accepts_token isClosing accepts))

/-- A reference is an operand where no suffix follows. -/
theorem accepts_reference (reference : Accepting dialect stop .reference ts us)
    (free : (frontOf stop us).kind ∉ [.dot, .lBracket, .lParen])
    (noChevron : dialect = .extended → (frontOf stop us).kind ≠ .leftChevron)
    (accepts : Accepts dialect stop (.expressionEnd :: rest) us) :
    Accepts dialect stop (.expression false :: rest) ts := by
  have inside : Accepts dialect stop
      (.reference (.operand (frontOf stop ts)) :: .expressionEnd :: rest) ts := by
    refine reference _ _ fun symbols ended => ended.accepts free noChevron ?_
    intro result noType
    have expands : (Symbol.classified (.operand (frontOf stop ts)) result).expand dialect
        (frontOf stop us) = .replace [] := by
      simp [Symbol.expand, expandClassified, noType]
    exact accepts_announce_then (.replace expands accepts)
  -- what was accepted begins with a name or a type, so it is read as a reference
  have begins := inside.beginsReference
  have expands : (Symbol.expression false).expand dialect (frontOf stop ts) =
      .replace [.reference (.operand (frontOf stop ts)), .expressionEnd] := by
    simp only [TokenKind.beginsReference] at begins
    split at begins <;>
      simp_all [Symbol.expand, expandExpression, TokenKind.isPrefixOperator, TokenKind.isLiteral]
  exact .replace expands inside

/-- The sizes of a new array are all taken. -/
theorem accepts_dimensions (sizes : Takes dialect stop (many index) ts us)
    (free : (frontOf stop us).kind ≠ .lBracket) (accepts : Accepts dialect stop rest us) :
    Accepts dialect stop (.dimensions :: rest) ts := by
  induction sizes using Relation.ReflTransGen.head_induction_on with
  | refl => exact accepts_missing (fun _ => rfl) free accepts
  | head once _ ih =>
      obtain ⟨_, ⟨opening, isOpening, rfl⟩, _, expression, _, ⟨closing, isClosing, rfl⟩, rfl⟩ :=
        once
      exact accepts_present (fun _ => rfl) isOpening
        (expression _ (endsExpression_token (by decide)) (accepts_token isClosing ih))

/-- Without arguments a constructor symbol is passed over. -/
theorem accepts_noArguments (free : (frontOf stop us).kind ≠ .lParen)
    (accepts : Accepts dialect stop rest us) :
    Accepts dialect stop (.constructorArguments :: rest) us := by
  have expands : Symbol.constructorArguments.expand dialect (frontOf stop us) = .replace [] := by
    simp [Symbol.expand, expandConstructorArguments, free]
  exact .replace expands accepts

/-- A new object or array, when its type and what follows is accepted. -/
theorem accepts_new (sign : Takes dialect stop (word .new_) ts us)
    (accepts : Accepts dialect stop (.type false :: .constructorArguments :: .dimensions ::
      .close .newExpression :: .expressionEnd :: rest) us) :
    Accepts dialect stop (.expression false :: rest) ts := by
  obtain ⟨current, (here : current.kind = .keyword .new_), rfl⟩ := sign
  have expands : (Symbol.expression false).expand dialect current =
      .consume [.type false, .constructorArguments, .dimensions, .close .newExpression,
        .expressionEnd] := by
    simp [Symbol.expand, expandExpression, here, TokenKind.isPrefixOperator, TokenKind.isLiteral]
  exact .consume expands accepts

/-- Where the sizes of a new array begin or are over, no dot and no parenthesis follows. -/
theorem front_of_dimensions (sizes : Takes dialect stop (many index) ts us)
    (free : (frontOf stop us).kind ∉ [.dot, .lBracket, .lParen]) :
    (frontOf stop ts).kind ∉ [.dot, .lParen] := by
  cases Relation.ReflTransGen.cases_head sizes with
  -- without sizes it is the token behind them
  | inl none =>
      subst none
      simp_all
  | inr some =>
      obtain ⟨_, ⟨_, ⟨opening, (isOpening : opening.kind = .lBracket), rfl⟩, _⟩, _⟩ := some
      rw [frontOf_cons, isOpening]
      decide

theorem operand_accepting_mini (row : Takes .mini stop (rule .mini .operand) ts us) :
    Accepting .mini stop .operand ts us := by
  intro rest ends accepts
  -- behind an operand no suffix of a reference follows
  have free := ends.again.front accepts
  have bare : Dialect.mini = .extended → (frontOf stop us).kind ≠ .leftChevron := nofun
  have closed : Accepts .mini stop (.close .newExpression :: .expressionEnd :: rest) us :=
    accepts_close accepts
  rcases row with value | value | ⟨_, sign, vs, type, ws, arguments, _, sizes, rfl⟩ | reference |
    never
  · exact accepts_literal value accepts
  · exact accepts_condition value accepts
  · -- `new`, where parentheses may be missing
    have behind := accepts_dimensions sizes (by simp_all) closed
    have isOver := front_of_dimensions sizes free
    refine accepts_new sign (type false _ (fun _ => rfl) ?_ ?_ nofun)
    · rcases arguments with ⟨_, ⟨opening, (isOpening : opening.kind = .lParen), rfl⟩, _,
        ⟨closing, isClosing, rfl⟩, rfl⟩ | none
      · have expands : Symbol.constructorArguments.expand .mini opening =
            .consume [.token .rParen] := by
          simp [Symbol.expand, expandConstructorArguments, isOpening, Dialect.isMini]
        exact .consume expands (accepts_token isClosing behind)
      · obtain rfl : vs = ws := none
        exact accepts_noArguments (by simp_all) behind
    · rcases arguments with ⟨_, ⟨opening, (isOpening : opening.kind = .lParen), rfl⟩, _⟩ | none
      · rw [frontOf_cons, isOpening]
        decide
      · obtain rfl : vs = ws := none
        simp_all
  · exact accepts_reference reference free bare accepts
  · exact never.elim

theorem operand_accepting_extended (stops : stop.kind = .eot)
    (row : Takes .extended stop (rule .extended .operand) ts us) :
    Accepting .extended stop .operand ts us := by
  intro rest ends accepts
  -- behind an operand no suffix of a reference follows
  have free := ends.again.front accepts
  have closed : Accepts .extended stop (.close .newExpression :: .expressionEnd :: rest) us :=
    accepts_close accepts
  have noSizes : Accepts .extended stop
      (.dimensions :: .close .newExpression :: .expressionEnd :: rest) us :=
    accepts_missing (fun _ => rfl) (by simp_all) closed
  rcases row with value | value | ⟨_, sign, _, ⟨current, among, rfl⟩, rfl⟩ |
    ⟨⟨_, sign, _, type, rfl⟩, noChevron⟩ | ⟨_, sign, vs, type, ws, arguments, _, sizes, rfl⟩ |
    ⟨_, sign, vs, type, ws, first, _, sizes, rfl⟩ | ⟨reference, noChevron⟩ | never
  · exact accepts_literal value accepts
  · exact accepts_condition value accepts
  · -- a primitive type alone may stand before a chevron
    obtain ⟨type, here⟩ := exists_primitive among
    exact accepts_new sign (accepts_primitive here nofun
      (accepts_noArguments (by simp_all) noSizes))
  · -- a named type alone must not stand before one
    have noChevron := front_ne_of_notBefore stops noChevron
    exact accepts_new sign (type false _ (fun _ => rfl)
      (accepts_noArguments (by simp_all) noSizes) (by simp_all) fun _ => noChevron)
  · -- the arguments of a constructor, and sizes
    have behind := accepts_dimensions sizes (by simp_all) closed
    obtain ⟨opening, others, rfl, isOpening, inside⟩ := arguments _ behind
    have expands : Symbol.constructorArguments.expand .extended opening =
        .consume [.elements .rParen, .close .arguments] := by
      simp [Symbol.expand, expandConstructorArguments, isOpening, Dialect.isMini]
    exact accepts_new sign (type false _ (fun _ => rfl) (.consume expands inside)
      (by simp [isOpening]) (by simp [isOpening]))
  · -- sizes only
    have behind : Accepts .extended stop
        (.dimensions :: .close .newExpression :: .expressionEnd :: rest) vs :=
      accepts_dimensions (.head first sizes) (by simp_all) closed
    obtain ⟨_, ⟨opening, (isOpening : opening.kind = .lBracket), rfl⟩, _⟩ := first
    exact accepts_new sign (type false _ (fun _ => rfl)
      (accepts_noArguments (by simp [isOpening]) behind) (by simp [isOpening])
      (by simp [isOpening]))
  · have noChevron := front_ne_of_notBefore stops noChevron
    exact accepts_reference reference free (fun _ => noChevron) accepts
  · exact never.elim

end Language

end MiniJ
