import MiniJ.Recognition.Recognizer

/-!
# Recognition ends within its bound

Recognition works off an agenda, and most steps make the agenda lighter: every symbol has a weight
(`Symbol.weight`), and the symbols that take its place weigh less. Two kinds of steps do not. A
consumed token may leave heavier symbols behind, which the token pays for. The three loops over
statements, members and classes put one more round in front of themselves before a token is
consumed; they go on credit, and the agenda then owes a token (`owesToken`): it cannot go on for
long without consuming one.

`Symbol.expand_affordable` says this of a single symbol. `potential_step_lt` adds it up over an
agenda, and `stepBound_suffices` concludes that recognition never runs out of steps.
-/

set_option autoImplicit false

namespace MiniJ

namespace Symbol

/-- What a symbol weighs: one more than what takes its place without a token. -/
@[simp] def weight : Symbol → Nat
  | typeSuffixes _ | typeArgumentsEnd | elementsEnd _ | forUpdate | markers | parametersEnd => 2
  | suffixes _ _ _ | expression _ | importName | memberType => 3
  | typeArguments | block => 4
  | typeArgumentsOrNone | returnValue => 5
  | elements _ | parameter | tryEnd => 7
  | forBody => 8
  | insideBrackets _ _ | program => 9
  | parameters => 9
  | statementBody .body => 3
  | statement .body => 6
  | declarationEnd .body => 7
  | forCondition => 15
  | memberEnd _ _ _ => 18
  | statementBody .forHead => 18
  | statement .forHead => 20
  | declarationEnd .forHead => 21
  | forInit => 21
  | _ => 1

/-- Whether a symbol goes away with a token only. -/
@[simp] def isHungry : Symbol → Bool
  | terminal _ | type _ | reference _ | update | statement _ | statementBody _ | block
  | memberType => true
  | _ => false

/-- Whether a symbol leaves nothing that could stand between it and a token. -/
@[simp] def isPassing : Symbol → Bool
  | announce _ | markers | modifiers => true
  | _ => false

end Symbol

/-- What an agenda weighs. -/
def agendaWeight : List Symbol → Nat
  | [] => 0
  | symbol :: agenda => symbol.weight + agendaWeight agenda

/-- Whether the work on an agenda ends or consumes a token before it comes to a loop. -/
def owesToken : List Symbol → Bool
  | [] => false
  | symbol :: agenda => symbol.isHungry || (symbol.isPassing && owesToken agenda)

@[simp] theorem agendaWeight_nil : agendaWeight [] = 0 := rfl

@[simp] theorem agendaWeight_cons (symbol : Symbol) (agenda : List Symbol) :
    agendaWeight (symbol :: agenda) = symbol.weight + agendaWeight agenda := rfl

@[simp] theorem agendaWeight_append (front agenda : List Symbol) :
    agendaWeight (front ++ agenda) = agendaWeight front + agendaWeight agenda := by
  induction front with
  | nil => simp
  | cons symbol front ih =>
      rw [List.cons_append, agendaWeight_cons, agendaWeight_cons, ih, Nat.add_assoc]

/-- What a loop may put in front of itself on credit. -/
def credit : Nat := 12

/-- What an expansion may leave on the agenda in place of a symbol: less than its weight, or on
credit no more than the credit above it, or behind a token no more than the token pays for. -/
def Expansion.Affordable (symbol : Symbol) : Expansion → Prop
  | replace symbols =>
    (agendaWeight symbols < symbol.weight ∧ (symbol.isHungry = true → owesToken symbols = true) ∧
      (symbol.isPassing = true → symbols.all Symbol.isPassing = true)) ∨
    (symbol.isHungry = false ∧ symbol.isPassing = false ∧ owesToken symbols = true ∧
      agendaWeight symbols < symbol.weight + credit)
  | consume symbols => agendaWeight symbols + credit < symbol.weight + 64
  | announce _ => symbol.isPassing = true
  | reject _ => True

namespace Grammar

open MiniJ.Symbol

/-! ## What each expansion costs -/

theorem expandType_affordable (dialect : Dialect) (brackets : Bool) (current : Token) :
    (expandType dialect brackets current).Affordable (type brackets) := by
  rw [expandType]
  repeat' split
  all_goals simp [Expansion.Affordable, credit]

theorem expandTypeSuffixes_affordable (dialect : Dialect) (brackets : Bool) (current : Token) :
    (expandTypeSuffixes dialect brackets current).Affordable (typeSuffixes brackets) := by
  rw [expandTypeSuffixes]
  repeat' split
  all_goals simp [Expansion.Affordable, credit]

theorem expandReference_affordable (dialect : Dialect) (purpose : Purpose) (current : Token) :
    (expandReference dialect purpose current).Affordable (reference purpose) := by
  rw [expandReference]
  repeat' split
  all_goals simp [Expansion.Affordable, credit, classify]

theorem expandSuffixes_affordable (dialect : Dialect) (purpose : Purpose)
    (soFar : Classification) (last : LastPart) (current : Token) :
    (expandSuffixes dialect purpose soFar last current).Affordable
      (suffixes purpose soFar last) := by
  rw [expandSuffixes]
  repeat' split
  all_goals simp [Expansion.Affordable, credit, classify]

theorem expandInsideBrackets_affordable (dialect : Dialect) (purpose : Purpose)
    (soFar : Classification) (current : Token) :
    (expandInsideBrackets dialect purpose soFar current).Affordable
      (insideBrackets purpose soFar) := by
  rw [expandInsideBrackets]
  repeat' split
  all_goals simp [Expansion.Affordable, credit, classify]

/-- What may follow a type-or-reference is paid for by the one token in front, the longest
continuation being that of a statement in the head of a loop. -/
theorem expandClassified_affordable (purpose : Purpose) (result : Classification)
    (current : Token) :
    (expandClassified purpose result current).Affordable (classified purpose result) := by
  cases purpose with
  | operand first | update operator =>
      simp only [expandClassified]
      split <;> simp [Expansion.Affordable]
  | statement place =>
      simp only [expandClassified, assign, standAlone]
      cases place
      all_goals repeat' split
      all_goals simp [Expansion.Affordable, credit, afterStatement]
  | forUpdate =>
      simp only [expandClassified, assign, standAlone]
      repeat' split
      all_goals simp [Expansion.Affordable, credit]

theorem expandExpression_affordable (arrayLiteral : Bool) (current : Token) :
    (expandExpression arrayLiteral current).Affordable (expression arrayLiteral) := by
  rw [expandExpression]
  repeat' split
  all_goals simp [Expansion.Affordable, credit]

theorem expandExpressionEnd_affordable (current : Token) :
    (expandExpressionEnd current).Affordable expressionEnd := by
  rw [expandExpressionEnd]
  repeat' split
  all_goals simp [Expansion.Affordable, credit]

theorem expandConstructorArguments_affordable (dialect : Dialect) (current : Token) :
    (expandConstructorArguments dialect current).Affordable constructorArguments := by
  rw [expandConstructorArguments]
  repeat' split
  all_goals simp [Expansion.Affordable, credit]

theorem expandStatementBody_affordable (place : Place) (current : Token) :
    (expandStatementBody place current).Affordable (statementBody place) := by
  simp only [expandStatementBody]
  cases place
  all_goals repeat' split
  all_goals
    simp_all [Expansion.Affordable, owesToken, credit, condition, afterStatement]

theorem expandDeclarationEnd_affordable (dialect : Dialect) (place : Place) (current : Token) :
    (expandDeclarationEnd dialect place current).Affordable (declarationEnd place) := by
  rw [expandDeclarationEnd]
  cases place
  all_goals repeat' split
  all_goals simp_all [Expansion.Affordable, credit, afterStatement]

theorem expandForUpdate_affordable (current : Token) :
    (expandForUpdate current).Affordable forUpdate := by
  rw [expandForUpdate]
  repeat' split
  all_goals simp [Expansion.Affordable]

theorem expandTryEnd_affordable (current : Token) :
    (expandTryEnd current).Affordable tryEnd := by
  rw [expandTryEnd]
  split <;> simp [Expansion.Affordable, credit]

theorem expandMemberEnd_affordable (dialect : Dialect) (isVoid : Bool) (first : Token)
    (several : Bool) (current : Token) :
    (expandMemberEnd dialect isVoid first several current).Affordable
      (memberEnd isVoid first several) := by
  rw [expandMemberEnd]
  repeat' split
  all_goals simp [Expansion.Affordable, credit]

theorem expandImportName_affordable (current : Token) :
    (expandImportName current).Affordable importName := by
  rw [expandImportName]
  split <;> simp [Expansion.Affordable, credit]

/-- A part that may be missing weighs one, so it is paid for when it is there. -/
theorem optional_affordable {symbol : Symbol} {kind : TokenKind} {symbols : List Symbol}
    (current : Token) (light : agendaWeight symbols + credit < symbol.weight + 64)
    (heavy : 0 < symbol.weight) (sated : symbol.isHungry = false) :
    (optional kind symbols current).Affordable symbol := by
  rw [optional]
  split
  · exact light
  · exact Or.inl ⟨heavy, fun hungry => Bool.noConfusion (sated.symm.trans hungry), fun _ => rfl⟩

end Grammar

open Grammar MiniJ.Symbol in
/-- **Every expansion is affordable.** Only the loops over statements, members and classes go on
credit. -/
theorem Symbol.expand_affordable (dialect : Dialect) (current : Token) (symbol : Symbol) :
    (symbol.expand dialect current).Affordable symbol := by
  cases symbol with
  | type brackets => exact expandType_affordable dialect brackets current
  | typeSuffixes brackets => exact expandTypeSuffixes_affordable dialect brackets current
  | reference purpose => exact expandReference_affordable dialect purpose current
  | suffixes purpose soFar last =>
      exact expandSuffixes_affordable dialect purpose soFar last current
  | insideBrackets purpose soFar =>
      exact expandInsideBrackets_affordable dialect purpose soFar current
  | classified purpose result => exact expandClassified_affordable purpose result current
  | expression arrayLiteral => exact expandExpression_affordable arrayLiteral current
  | expressionEnd => exact expandExpressionEnd_affordable current
  | constructorArguments => exact expandConstructorArguments_affordable dialect current
  | statementBody place => exact expandStatementBody_affordable place current
  | declarationEnd place => exact expandDeclarationEnd_affordable dialect place current
  | forUpdate => exact expandForUpdate_affordable current
  | tryEnd => exact expandTryEnd_affordable current
  | memberEnd isVoid first several =>
      exact expandMemberEnd_affordable dialect isVoid first several current
  | importName => exact expandImportName_affordable current
  | emptyBrackets | dimensions | elseBranch | finallyBlock | dottedNames | imports | importNames
  | modifiers | superclass | ellipsis | throwsClause =>
      exact optional_affordable current (by decide) (by decide) rfl
  | statement place =>
      simp only [expand]
      cases place
      all_goals split
      all_goals
        simp [Expansion.Affordable, owesToken, afterStatement]
  -- the loop over classes goes on credit: a class begins with a token
  | program | classes =>
      simp only [expand, wholeProgram, classDeclaration]
      cases dialect
      all_goals repeat' split
      all_goals
        simp [Expansion.Affordable, owesToken, credit]
  | terminal | announce | close | typeArgumentsOrNone | typeArguments | typeArgumentsEnd
  | elements | elementsEnd | block | statements | returnValue | update | forInit | forCondition
  | forBody | markers | className | members | memberType | memberName | parameters | parameter
  | parametersEnd =>
      simp only [expand]
      repeat' split
      all_goals
        simp [Expansion.Affordable, owesToken, credit]

theorem Symbol.weight_pos (symbol : Symbol) : 0 < symbol.weight := by
  cases symbol with
  | statement place | statementBody place | declarationEnd place =>
      cases place <;> decide
  | _ => simp

/-! ## The potential of an agenda -/

/-- The credit that an agenda still has. -/
def creditLeft (agenda : List Symbol) : Nat :=
  bif owesToken agenda then 0 else credit

/-- How many steps an agenda can go on for at most, before so many tokens. -/
def potential (agenda : List Symbol) (ahead : Nat) : Nat :=
  agendaWeight agenda + creditLeft agenda + 64 * ahead

theorem creditLeft_le (agenda : List Symbol) : creditLeft agenda ≤ credit := by
  rw [creditLeft]
  cases owesToken agenda <;> simp

theorem owesToken_append (front agenda : List Symbol) :
    owesToken (front ++ agenda) =
      (owesToken front || (front.all Symbol.isPassing && owesToken agenda)) := by
  induction front with
  | nil => simp [owesToken]
  | cons symbol front ih =>
      rw [List.cons_append, owesToken, ih, owesToken, List.all_cons]
      cases symbol.isHungry <;> cases symbol.isPassing <;> simp

/-- A debt stays a debt when a symbol is replaced by what is hungry or passing as it is. -/
theorem creditLeft_append_le {symbol : Symbol} {symbols : List Symbol}
    (hungry : symbol.isHungry = true → owesToken symbols = true)
    (passing : symbol.isPassing = true → symbols.all Symbol.isPassing = true)
    (pending : List Symbol) : creditLeft (symbols ++ pending) ≤ creditLeft (symbol :: pending) := by
  cases owed : owesToken (symbol :: pending) with
  | false =>
      have full : creditLeft (symbol :: pending) = credit := by simp [creditLeft, owed]
      rw [full]
      exact creditLeft_le _
  -- who owes a token owes it at the first symbol, or behind symbols that pass
  | true =>
      have owes : owesToken (symbols ++ pending) = true := by
        rw [owesToken_append]
        rw [owesToken, Bool.or_eq_true, Bool.and_eq_true] at owed
        rcases owed with now | ⟨soon, later⟩
        · simp [hungry now]
        · simp [passing soon, later]
      simp [creditLeft, owes]

section Steps

variable {dialect : Dialect} {current : Token} {symbol : Symbol} {symbols pending : List Symbol}

theorem potential_replace_lt (expands : symbol.expand dialect current = .replace symbols)
    (pending : List Symbol) (ahead : Nat) :
    potential (symbols ++ pending) ahead < potential (symbol :: pending) ahead := by
  have affordable := symbol.expand_affordable dialect current
  rw [expands] at affordable
  simp only [potential, agendaWeight_append, agendaWeight_cons]
  rcases affordable with ⟨lighter, hungry, passing⟩ | ⟨sated, blocking, owes, cheap⟩
  · have kept := creditLeft_append_le hungry passing pending
    omega
  · have before : creditLeft (symbol :: pending) = credit := by
      rw [creditLeft, owesToken, sated, blocking]
      rfl
    have behind : creditLeft (symbols ++ pending) = 0 := by
      simp [creditLeft, owesToken_append, owes]
    omega

theorem potential_consume_lt (expands : symbol.expand dialect current = .consume symbols)
    (pending : List Symbol) (ahead : Nat) :
    potential (symbols ++ pending) ahead < potential (symbol :: pending) (ahead + 1) := by
  have affordable := symbol.expand_affordable dialect current
  rw [expands] at affordable
  have paid : agendaWeight symbols + credit < symbol.weight + 64 := affordable
  have few := creditLeft_le (symbols ++ pending)
  simp only [potential, agendaWeight_append, agendaWeight_cons]
  omega

theorem potential_announce_lt {event : Event}
    (expands : symbol.expand dialect current = .announce event) (pending : List Symbol)
    (ahead : Nat) :
    potential pending ahead < potential (symbol :: pending) ahead := by
  have affordable := symbol.expand_affordable dialect current
  rw [expands] at affordable
  have passing : symbol.isPassing = true := affordable
  have positive := symbol.weight_pos
  have kept : creditLeft pending ≤ creditLeft (symbol :: pending) := by
    cases symbol <;> simp_all [creditLeft, owesToken]
  simp only [potential, agendaWeight_cons]
  omega

end Steps

/-- A run that has ended does not change when it is given more steps. -/
theorem Recognizer.run_of_le {bound more : Nat} {recognizer : Recognizer}
    (ended : (run bound recognizer).1 ≠ .unfinished) (enough : bound ≤ more) :
    run more recognizer = run bound recognizer := by
  induction bound generalizing more recognizer with
  | zero => exact absurd rfl ended
  | succ bound ih =>
      obtain ⟨more, rfl⟩ : ∃ n, more = n + 1 := ⟨more - 1, by omega⟩
      cases worked : recognizer.step with
      | more next =>
          simp only [run, worked] at ended ⊢
          exact ih ended (Nat.le_of_succ_le_succ enough)
      | done verdict cursor => simp only [run, worked]

/-- The bound that recognition starts with is above the potential of a whole program. -/
theorem potential_program_lt {ahead length : Nat} (few : ahead ≤ length) :
    potential [.program] ahead < Recognizer.stepBound length := by
  have full : potential [.program] ahead = 9 + credit + 64 * ahead := rfl
  rw [full, credit, Recognizer.stepBound]
  omega

end MiniJ
