import MiniJ.Recognition.Recognizer

/-!
# What stays true of an agenda

Three facts about expansions that every run keeps. The token for the end is never consumed, because
no symbol that comes onto an agenda accepts it (`Symbol.isGuarded`), and the entries that symbols
make in the trace are milestones. Every error that an expansion
finds has the code of a violation of the grammar. `Symbol.expand_proper` states both for a single
symbol. The loop over classes stays at the bottom of the agenda until the end is in front
(`IsGrounded`), so nothing is accepted before.
-/

set_option autoImplicit false

namespace MiniJ

namespace TokenKind

theorem isPrefixOperator_eot : eot.isPrefixOperator = false := rfl

theorem isInfixOperator_eot : eot.isInfixOperator = false := rfl

theorem isLiteral_eot : eot.isLiteral = false := rfl

end TokenKind

/-- Whether an entry of a trace tells how far the grammar has come, and not of a token. -/
def Event.isMilestone : Event → Bool
  | classNamed _ | methodNamed _ | statement _ _ | typeOrReference _ => true
  | _ => false

/-- Whether a symbol does not accept the end of the text as a token, and makes no entry about a
token. -/
def Symbol.isGuarded : Symbol → Bool
  | terminal kinds => .eot ∉ kinds
  | announce event => event.isMilestone
  | elements closing | elementsEnd closing => closing ≠ .eot
  | _ => true

/-- What an expansion keeps: what takes the place of a guarded symbol is guarded and does not
consume the end, and errors are violations of the grammar. -/
def Expansion.Proper (symbol : Symbol) (current : Token) : Expansion → Prop
  | replace symbols => symbol.isGuarded = true → ∀ next ∈ symbols, next.isGuarded = true
  | consume symbols =>
    symbol.isGuarded = true →
      current.kind ≠ .eot ∧ ∀ next ∈ symbols, next.isGuarded = true
  | announce event => symbol.isGuarded = true → event.isMilestone = true
  | reject error => error.code.isLexical = false

namespace Grammar

open MiniJ.Symbol

theorem expandClassified_proper (purpose : Purpose) (result : Classification) (current : Token) :
    (expandClassified purpose result current).Proper (classified purpose result) current := by
  cases purpose with
  | operand first | update operator =>
      simp only [expandClassified]
      split
      · rfl
      · simp [Expansion.Proper]
  | statement place =>
      simp only [expandClassified, assign, standAlone]
      cases place
      all_goals repeat' split
      all_goals first | rfl | simp_all [Expansion.Proper, isGuarded, Event.isMilestone,
          afterStatement]
  | forUpdate =>
      simp only [expandClassified, assign, standAlone]
      repeat' split
      all_goals first | rfl | simp_all [Expansion.Proper, isGuarded]

theorem expandExpression_proper (arrayLiteral : Bool) (current : Token) :
    (expandExpression arrayLiteral current).Proper (expression arrayLiteral) current := by
  have signless := TokenKind.isPrefixOperator_eot
  have valueless := TokenKind.isLiteral_eot
  rw [expandExpression]
  repeat' split
  all_goals simp_all [Expansion.Proper, isGuarded, Event.isMilestone]
  all_goals
    intro finished
    simp_all

theorem expandExpressionEnd_proper (current : Token) :
    (expandExpressionEnd current).Proper expressionEnd current := by
  have signless := TokenKind.isInfixOperator_eot
  rw [expandExpressionEnd]
  repeat' split
  all_goals simp_all [Expansion.Proper, isGuarded, Event.isMilestone]
  intro finished
  simp_all

theorem expandStatementBody_proper (place : Place) (current : Token) :
    (expandStatementBody place current).Proper (statementBody place) current := by
  simp only [expandStatementBody]
  cases place
  all_goals repeat' split
  all_goals simp_all [Expansion.Proper, isGuarded, condition, afterStatement]

theorem expandMemberEnd_proper (dialect : Dialect) (isVoid : Bool) (first : Token)
    (several : Bool) (current : Token) :
    (expandMemberEnd dialect isVoid first several current).Proper
      (memberEnd isVoid first several) current := by
  rw [expandMemberEnd]
  repeat' split
  all_goals first | rfl | simp_all [Expansion.Proper, isGuarded, Event.isMilestone]

end Grammar

open Grammar MiniJ.Symbol in
theorem Symbol.expand_proper (dialect : Dialect) (current : Token) (symbol : Symbol) :
    (symbol.expand dialect current).Proper symbol current := by
  cases symbol with
  | terminal kinds =>
      simp only [expand]
      split
      · rename_i accepted
        -- A guarded terminal does not name the end.
        intro guarded
        refine ⟨fun finished => ?_, by simp⟩
        rw [finished] at accepted
        simp [isGuarded, accepted] at guarded
      · rfl
  | elements closing | elementsEnd closing =>
      simp only [expand]
      split
      all_goals
        simp_all [Expansion.Proper, isGuarded, Event.isMilestone]
        try exact Ne.symm
  | classified purpose result => exact expandClassified_proper purpose result current
  | expression arrayLiteral => exact expandExpression_proper arrayLiteral current
  | expressionEnd => exact expandExpressionEnd_proper current
  | statementBody place => exact expandStatementBody_proper place current
  | memberEnd isVoid first several =>
      exact expandMemberEnd_proper dialect isVoid first several current
  | reference | suffixes | insideBrackets =>
      simp only [expand, expandReference, expandSuffixes, expandInsideBrackets, classify]
      repeat' split
      all_goals first | rfl | simp_all [Expansion.Proper, isGuarded, Event.isMilestone]
  | statement place | declarationEnd place =>
      simp only [expand, expandDeclarationEnd]
      cases place
      all_goals repeat' split
      all_goals simp_all [Expansion.Proper, isGuarded, Event.isMilestone,
          afterStatement]
  | program | classes =>
      simp only [expand, wholeProgram, classDeclaration]
      cases dialect
      all_goals repeat' split
      all_goals simp [Expansion.Proper, isGuarded, Event.isMilestone]
  | _ =>
      simp only [expand, expandType, expandTypeSuffixes, expandConstructorArguments,
        expandForUpdate, expandTryEnd, expandImportName, Grammar.optional]
      repeat' split
      all_goals first | rfl | simp_all [Expansion.Proper, isGuarded, Event.isMilestone]

/-! ## The bottom of an agenda -/

/-- Whether the loop over classes is still to come, or the end is in front. -/
def IsGrounded (agenda : List Symbol) (current : Token) : Prop :=
  match agenda.getLast? with
  | some symbol => symbol = .program ∨ symbol = .classes
  | none => current.kind = .eot

theorem isGrounded_program (current : Token) : IsGrounded [.program] current :=
  Or.inl rfl

/-- Work in front of other symbols does not touch the bottom. -/
theorem isGrounded_of_append {front pending : List Symbol} {current next : Token}
    (more : pending ≠ []) (grounded : IsGrounded pending current) :
    IsGrounded (front ++ pending) next := by
  obtain ⟨rest, symbol, rfl⟩ := List.eq_nil_or_concat pending |>.resolve_left more
  simpa [IsGrounded] using grounded

theorem isGrounded_tail {symbol : Symbol} {pending : List Symbol} {current : Token}
    (more : pending ≠ []) (grounded : IsGrounded (symbol :: pending) current) :
    IsGrounded pending current := by
  obtain ⟨rest, last, rfl⟩ := List.eq_nil_or_concat pending |>.resolve_left more
  rw [IsGrounded, List.concat_eq_append, ← List.cons_append, List.getLast?_concat] at grounded
  simpa [IsGrounded] using grounded

/-- The symbol at the bottom is replaced by nothing in front of the end only. -/
theorem isGrounded_replace {dialect : Dialect} {current : Token} {symbol : Symbol}
    {symbols pending : List Symbol} (grounded : IsGrounded (symbol :: pending) current)
    (expands : symbol.expand dialect current = .replace symbols) :
    IsGrounded (symbols ++ pending) current := by
  by_cases alone : pending = []
  · -- the symbol is the bottom itself: only the loop at the end leaves nothing
    subst alone
    rcases grounded with rfl | rfl
    · simp only [Symbol.expand, Expansion.replace.injEq] at expands
      subst expands
      simp [IsGrounded, Grammar.wholeProgram]
    · simp only [Symbol.expand] at expands
      split at expands
      · rename_i finished
        cases expands
        exact finished
      · cases expands
        simp [IsGrounded]
  · exact isGrounded_of_append alone (isGrounded_tail alone grounded)

/-- The symbol at the bottom consumes no token itself. -/
theorem isGrounded_consume {dialect : Dialect} {current next : Token} {symbol : Symbol}
    {symbols pending : List Symbol} (grounded : IsGrounded (symbol :: pending) current)
    (expands : symbol.expand dialect current = .consume symbols) :
    IsGrounded (symbols ++ pending) next := by
  by_cases alone : pending = []
  · subst alone
    rcases grounded with rfl | rfl
    · simp [Symbol.expand] at expands
    · simp only [Symbol.expand] at expands
      split at expands <;> cases expands
  · exact isGrounded_of_append alone (isGrounded_tail alone grounded)

theorem isGrounded_announce {dialect : Dialect} {current : Token} {symbol : Symbol}
    {pending : List Symbol} {event : Event} (grounded : IsGrounded (symbol :: pending) current)
    (expands : symbol.expand dialect current = .announce event) :
    IsGrounded pending current := by
  by_cases alone : pending = []
  · subst alone
    rcases grounded with rfl | rfl
    · simp [Symbol.expand] at expands
    · simp only [Symbol.expand] at expands
      split at expands <;> cases expands
  · exact isGrounded_tail alone grounded

end MiniJ
