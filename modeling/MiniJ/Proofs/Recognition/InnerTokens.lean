import MiniJ.Proofs.Recognition.Framing

/-!
# The tokens inside of statements

Types, types-or-references, expressions and the statements that begin with them are made of names,
signs and few keywords. `Symbol.isInner` tells the symbols that stand for parts of them. What such a
symbol expands to is inner again, and the token it consumes is of an inner kind
(`Symbol.expand_inner`), so work on inner symbols consumes inner tokens only (`Works.inner`),
whatever tokens stand behind. Both dialects have all of them.
-/

set_option autoImplicit false

namespace MiniJ

/-- Whether tokens of a kind stand inside of types, expressions and simple statements. -/
def TokenKind.isInner : TokenKind → Bool
  | keyword .this_ | keyword .new_ => true
  | eot | keyword _ | protection | modifier | ellipsis => false
  | _ => true

theorem TokenKind.isExtendedOnly_of_isInner {kind : TokenKind} (inner : kind.isInner = true) :
    kind.isExtendedOnly = false := by
  cases kind with
  | keyword word => cases word <;> first | rfl | cases inner
  | ellipsis => cases inner
  | _ => rfl

theorem TokenKind.isInner_of_isPrefixOperator {kind : TokenKind}
    (sign : kind.isPrefixOperator = true) : kind.isInner = true := by
  cases kind <;> first | rfl | cases sign

theorem TokenKind.isInner_of_isInfixOperator {kind : TokenKind}
    (sign : kind.isInfixOperator = true) : kind.isInner = true := by
  cases kind <;> first | rfl | cases sign

theorem TokenKind.isInner_of_isLiteral {kind : TokenKind} (literal : kind.isLiteral = true) :
    kind.isInner = true := by
  cases kind <;> first | rfl | cases literal

/-- Whether a type-or-reference is read for something that ends inside of its statement. The head of
a loop goes on to the body. -/
def Purpose.isInner : Purpose → Bool
  | statement place => place = .body
  | _ => true

namespace Symbol

/-- Whether a symbol stands for a part of a type, an expression or a simple statement. -/
@[simp] def isInner : Symbol → Bool
  | terminal kinds => kinds.all TokenKind.isInner
  | reference purpose | suffixes purpose _ _ | insideBrackets purpose _ | classified purpose _ =>
    purpose.isInner
  | elements closing | elementsEnd closing => closing.isInner
  | declarationEnd place => place = .body
  | announce _ | close _ | type _ | typeSuffixes _ | typeArgumentsOrNone | typeArguments
  | typeArgumentsEnd | emptyBrackets | expression _ | expressionEnd | constructorArguments
  | dimensions | update | forUpdate => true
  | _ => false

end Symbol

/-- What the expansion of an inner symbol keeps. -/
def Expansion.Inner (current : Token) : Expansion → Prop
  | replace symbols => ∀ symbol ∈ symbols, symbol.isInner = true
  | consume symbols => current.kind.isInner = true ∧ ∀ symbol ∈ symbols, symbol.isInner = true
  | announce _ | reject _ => True

namespace Grammar

open MiniJ.Symbol

variable {dialect : Dialect} {purpose : Purpose} {place : Place}

theorem expandReference_inner (inner : purpose.isInner = true) (current : Token) :
    (expandReference dialect purpose current).Inner current := by
  simp only [expandReference, classify]
  repeat' split
  all_goals simp_all [Expansion.Inner, TokenKind.isInner]

theorem expandSuffixes_inner (inner : purpose.isInner = true) (soFar : Classification)
    (last : LastPart) (current : Token) :
    (expandSuffixes dialect purpose soFar last current).Inner current := by
  simp only [expandSuffixes, classify]
  repeat' split
  all_goals simp_all [Expansion.Inner, TokenKind.isInner]

theorem expandInsideBrackets_inner (inner : purpose.isInner = true) (soFar : Classification)
    (current : Token) :
    (expandInsideBrackets dialect purpose soFar current).Inner current := by
  simp only [expandInsideBrackets, classify]
  repeat' split
  all_goals simp_all [Expansion.Inner, TokenKind.isInner]

theorem expandClassified_inner (inner : purpose.isInner = true) (result : Classification)
    (current : Token) : (expandClassified purpose result current).Inner current := by
  cases purpose with
  | operand first | update operator =>
      simp only [expandClassified]
      split <;> simp [Expansion.Inner]
  | statement place =>
      obtain rfl : place = .body := by simpa [Purpose.isInner] using inner
      simp only [expandClassified, assign, standAlone, afterStatement]
      repeat' split
      all_goals simp_all [Expansion.Inner, TokenKind.isInner]
  | forUpdate =>
      simp only [expandClassified, assign, standAlone]
      repeat' split
      all_goals simp_all [Expansion.Inner, TokenKind.isInner]

theorem expandExpression_inner (arrayLiteral : Bool) (current : Token) :
    (expandExpression arrayLiteral current).Inner current := by
  rw [expandExpression]
  split
  · rename_i sign
    simp [Expansion.Inner, TokenKind.isInner_of_isPrefixOperator sign]
  split
  · simp_all [Expansion.Inner, TokenKind.isInner]
  split
  · rename_i literal
    simp [Expansion.Inner, TokenKind.isInner_of_isLiteral literal]
  repeat' split
  all_goals simp_all [Expansion.Inner, TokenKind.isInner, Purpose.isInner]

theorem expandExpressionEnd_inner (current : Token) :
    (expandExpressionEnd current).Inner current := by
  rw [expandExpressionEnd]
  split
  · simp_all [Expansion.Inner, TokenKind.isInner]
  split
  · rename_i sign
    simp [Expansion.Inner, TokenKind.isInner_of_isInfixOperator sign]
  repeat' split
  all_goals simp_all [Expansion.Inner, TokenKind.isInner]

end Grammar

open Grammar MiniJ.Symbol in
/-- **An inner symbol consumes inner tokens only**, and so do the symbols that take its place. -/
theorem Symbol.expand_inner {dialect : Dialect} {symbol : Symbol} (inner : symbol.isInner = true)
    (current : Token) : (symbol.expand dialect current).Inner current := by
  cases symbol with
  | reference purpose => exact expandReference_inner inner current
  | suffixes purpose soFar last => exact expandSuffixes_inner inner soFar last current
  | insideBrackets purpose soFar => exact expandInsideBrackets_inner inner soFar current
  | classified purpose result => exact expandClassified_inner inner result current
  | expression arrayLiteral => exact expandExpression_inner arrayLiteral current
  | expressionEnd => exact expandExpressionEnd_inner current
  | terminal kinds =>
      simp only [expand]
      split
      · rename_i among
        exact ⟨List.all_eq_true.mp inner _ among, by simp⟩
      · trivial
  | elements closing | elementsEnd closing =>
      have closes : closing.isInner = true := inner
      simp only [expand]
      split
      all_goals simp_all [Expansion.Inner, TokenKind.isInner]
  | declarationEnd place =>
      obtain rfl : place = .body := by simpa [isInner] using inner
      simp only [expand, expandDeclarationEnd, afterStatement]
      repeat' split
      all_goals simp_all [Expansion.Inner, TokenKind.isInner]
  | announce | close | type | typeSuffixes | typeArgumentsOrNone | typeArguments
  | typeArgumentsEnd | emptyBrackets | constructorArguments | dimensions | update | forUpdate =>
      simp only [expand, expandType, expandTypeSuffixes, expandConstructorArguments,
        expandForUpdate, Grammar.optional]
      repeat' split
      all_goals simp_all [Expansion.Inner, TokenKind.isInner, Purpose.isInner]
  | _ => cases inner

section Work

variable {dialect : Dialect} {stop : Token} {here there : List Symbol × List Token}

/-- **Work on inner symbols consumes inner tokens only.** The induction is on the work; the step is
an expansion. -/
theorem Works.inner (works : Works dialect stop here there)
    (inner : ∀ symbol ∈ here.1, symbol.isInner = true) :
    (∀ symbol ∈ there.1, symbol.isInner = true) ∧
      ∃ taken, here.2 = taken ++ there.2 ∧ ∀ token ∈ taken, token.kind.isInner = true := by
  -- Inner symbols bring inner symbols only and consume inner tokens only.
  induction works with
  | refl => exact ⟨inner, [], rfl, by simp⟩
  | tail _ step ih =>
      obtain ⟨symbols, taken, split, kinds⟩ := ih
      cases step with
      | @replace symbol symbols' pending tokens expands =>
          have own : (symbol.expand dialect (frontOf stop tokens)).Inner _ :=
            symbol.expand_inner (symbols symbol List.mem_cons_self) _
          rw [expands] at own
          refine ⟨?_, taken, split, kinds⟩
          intro next member
          rcases List.mem_append.mp member with new | old
          · exact own next new
          · exact symbols next (List.mem_cons_of_mem _ old)
      | @consume symbol symbols' pending current tokens expands =>
          have own : (symbol.expand dialect current).Inner current :=
            symbol.expand_inner (symbols symbol List.mem_cons_self) current
          rw [expands] at own
          refine ⟨?_, taken ++ [current], by simp [split], ?_⟩
          · intro next member
            rcases List.mem_append.mp member with new | old
            · exact own.2 next new
            · exact symbols next (List.mem_cons_of_mem _ old)
          · intro token member
            rcases List.mem_append.mp member with before | last
            · exact kinds token before
            · rw [List.mem_singleton.mp last]
              exact own.1
      | announce expands =>
          exact ⟨fun next member => symbols next (List.mem_cons_of_mem _ member), taken, split,
            kinds⟩

end Work

end MiniJ
