import MiniJ.Proofs.Language.Soundness.References

/-!
# Sound expansions of expressions and statements

The symbols for expressions, for lists of them and for statements mean no less than what they
expand to. A statement in the head of a loop is followed by the rest of the head, which belongs to
its meaning there.
-/

set_option autoImplicit false

namespace MiniJ

namespace Language

open Ebnf Grammar

variable {dialect : Dialect} {stop current : Token} {ts us vs : List Token}

/-! ## Expressions -/

/-- An expression is also an initial value. -/
theorem means_expression {arrayLiteral : Bool}
    (derives : Derives dialect (phrase .expression) ts us) :
    Means dialect (.expression arrayLiteral) ts us := by
  cases arrayLiteral with
  | false => exact derives
  | true => exact .nonterminal (.one derives)

/-- An operand and what follows it are an expression. -/
theorem means_of_operand {arrayLiteral : Bool}
    (operand : Derives dialect (phrase .operand) ts us)
    (ending : Derives dialect (opt (phrase .tail)) us vs) :
    Means dialect (.expression arrayLiteral) ts vs :=
  means_expression (.nonterminal (.other (.one (.sequence operand (.sequence ending .empty)))))

theorem operand_of_literal (here : current.kind.isLiteral = true) :
    Derives dialect (phrase .operand) (current :: us) us := by
  have derives : Derives dialect literal (current :: us) us := by
    refine .terminal ?_
    simp only [TokenKind.isLiteral] at here
    split at here
    · rename_i sort same
      simp only [Sign.Admits, same]
      exact List.mem_map_of_mem (by cases sort <;> decide)
    · cases here
  cases dialect with
  | mini => exact .nonterminal (.one derives)
  | extended => exact .nonterminal (.one derives)

theorem operand_of_condition (derives : Derives dialect condition ts us) :
    Derives dialect (phrase .operand) ts us := by
  cases dialect with
  | mini => exact .nonterminal (.other (.one derives))
  | extended => exact .nonterminal (.other (.one derives))

/-- What `new` makes: an object or an array, by what follows the type. -/
theorem operand_of_new {ws : List Token} (here : current.kind = .keyword .new_)
    (type : Means dialect (.type false) ts us)
    (arguments : Means dialect .constructorArguments us vs)
    (sizes : Means dialect .dimensions vs ws) :
    Derives dialect (phrase .operand) (current :: ts) ws := by
  have isNew : Derives dialect (word .new_) (current :: ts) ts := .terminal here
  cases dialect with
  | mini =>
      exact .nonterminal (.alternative 2 rfl (.sequence isNew (.sequence (nominal_of_type type)
        (.sequence arguments (.sequence sizes .empty)))))
  | extended =>
      rcases arguments.reads with some | none
      · exact .nonterminal (.alternative 4 rfl (.sequence isNew
          (.sequence (nominal_of_type type) (.sequence some (.sequence sizes .empty)))))
      · obtain rfl : us = vs := none
        cases Relation.ReflTransGen.cases_head (derives_many.mp sizes) with
        | inl isOver =>
            -- Nothing follows the type, so only a primitive one may stand before a chevron.
            subst isOver
            rcases type.reads with primitive | named | never
            · exact .nonterminal (.alternative 2 rfl
                (.sequence isNew (.sequence (.of_reads primitive) .empty)))
            · exact .nonterminal (.alternative 3 rfl (.notBefore
                (.sequence isNew (.sequence (.of_reads named.1) .empty)) named.2))
            · exact never.elim
        | inr more =>
            obtain ⟨xs, first, others⟩ := more
            exact .nonterminal (.alternative 5 rfl (.sequence isNew
              (.sequence (nominal_of_type type) (.sequence first
                (.sequence (derives_many.mpr others) .empty)))))

theorem operand_of_reference {first : Token}
    (derives : Means dialect (.reference (.operand first)) ts us) :
    Derives dialect (phrase .operand) ts us := by
  cases dialect with
  | mini => exact .nonterminal (.alternative 3 rfl derives)
  | extended =>
      exact .nonterminal (.alternative 6 rfl derives)

theorem expandExpression_sound (arrayLiteral : Bool) (current : Token) :
    (expandExpression arrayLiteral current).Sound dialect stop current
      (Means dialect (.expression arrayLiteral)) := by
  rw [expandExpression]
  split
  · -- an operator before an operand
    rename_i sign
    rintro ts us ⟨vs, expression, ws, ending, rfl⟩
    have isPrefix : Derives dialect prefixOperator (current :: ts) ts := by
      refine .terminal ?_
      simp only [TokenKind.isPrefixOperator] at sign
      split at sign <;> simp_all [Sign.Admits]
    exact means_expression (.nonterminal (.one (.sequence isPrefix (.sequence expression
      (.sequence ending .empty)))))
  split
  · -- an array written out, and what may follow it
    rename_i brace
    rw [Bool.and_eq_true, decide_eq_true_eq] at brace
    obtain ⟨rfl, here⟩ := brace
    rintro ts us ⟨vs, inside, ws, closed, xs, ending, rfl⟩
    obtain ⟨ys, values, zs, closing, rfl⟩ := inside.reads
    obtain rfl : zs = ws := closed.reads
    exact .nonterminal (.other (.one (.sequence (.terminal here) (.sequence (.of_reads values)
      (.sequence (.of_reads closing) (.sequence ending .empty))))))
  split
  · -- a literal
    rename_i here
    rintro ts us ⟨vs, ending, rfl⟩
    exact means_of_operand (operand_of_literal here) ending
  split
  · -- an expression in parentheses
    rename_i here
    rintro ts us ⟨vs, expression, ws, closing, xs, ending, rfl⟩
    exact means_of_operand (operand_of_condition (.sequence (.terminal here)
      (.sequence expression (.sequence closing .empty)))) ending
  split
  · -- `new`
    rename_i here
    rintro ts us ⟨vs, type, ws, arguments, xs, sizes, ys, closed, zs, ending, rfl⟩
    obtain rfl : xs = ys := closed.reads
    exact means_of_operand (operand_of_new here type arguments sizes) ending
  · -- anything else is read as a reference
    rintro ts us - ⟨vs, reference, ws, ending, rfl⟩
    exact means_of_operand (operand_of_reference reference) ending

theorem expandExpressionEnd_sound (current : Token) :
    (expandExpressionEnd current).Sound dialect stop current
      (Means dialect .expressionEnd) := by
  rw [expandExpressionEnd]
  split
  · -- counting up or down
    rename_i here
    rintro ts us rfl
    exact .one (.nonterminal (.one (.terminal here)))
  split
  · -- an operator and the rest of the expression
    rename_i sign
    rintro ts us ⟨vs, expression, rfl⟩
    have isInfix : Derives dialect infixOperator (current :: ts) ts := by
      refine .terminal ?_
      simp only [TokenKind.isInfixOperator] at sign
      split at sign <;> simp_all [Sign.Admits]
    exact .one (.nonterminal (.other (.one (.sequence isInfix (.sequence expression .empty)))))
  split
  · -- two branches
    rename_i here
    rintro ts us ⟨vs, first, ws, colon, xs, second, rfl⟩
    exact .one (.nonterminal (.alternative 2 rfl (.sequence (.terminal here) (.sequence first
      (.sequence colon (.sequence second .empty))))))
  · rintro ts us - rfl
    exact .other .empty

theorem expandConstructorArguments_sound (current : Token) :
    (expandConstructorArguments dialect current).Sound dialect stop current
      (Means dialect .constructorArguments) := by
  rw [expandConstructorArguments]
  split
  · rename_i here
    cases dialect with
    | mini =>
        rintro ts us ⟨vs, closing, rfl⟩
        exact .one (.sequence (.terminal here) (.sequence closing .empty))
    | extended =>
        rintro ts us ⟨vs, inside, ws, closed, rfl⟩
        obtain rfl : vs = ws := closed.reads
        exact .one (derives_arguments here inside)
  · rintro ts us - rfl
    cases dialect with
    | mini => exact .other .empty
    | extended => exact .other .empty

/-- An expression in front of others, or alone before the closing token. -/
theorem elements_sound (closing : TokenKind) (current : Token) :
    ((Symbol.elements closing).expand dialect current).Sound dialect stop current
      (Means dialect (.elements closing)) := by
  rw [Symbol.expand]
  split
  · rintro ts us - ⟨vs, close, rfl⟩
    exact .sequence (.other .empty) (.sequence close .empty)
  · rintro ts us - ⟨vs, first, ws, rest, rfl⟩
    obtain ⟨xs, list, ys, comma, zs, close, rfl⟩ := (commaList_of_first first rest).reads
    exact .sequence (.one (.sequence (.of_reads list) (.sequence (.of_reads comma) .empty)))
      (.sequence (.of_reads close) .empty)

theorem elementsEnd_sound (closing : TokenKind) (current : Token) :
    ((Symbol.elementsEnd closing).expand dialect current).Sound dialect stop current
      (Means dialect (.elementsEnd closing)) := by
  refine either_sound ?_ ?_
  · rintro here ts us ⟨vs, more, rfl⟩
    obtain ⟨ws, some | none, xs, close, rfl⟩ := more.reads
    · -- behind the comma comes a further expression
      obtain ⟨ys, list, _, comma, rfl⟩ := some
      exact commaList_again here (.sequence (.of_reads list) (.sequence (.of_reads comma)
        (.sequence (.of_reads close) .empty)))
    · -- the comma was the last one
      obtain rfl : ts = ws := none
      exact .sequence .stop (.sequence (.one (.terminal here))
        (.sequence (.of_reads close) .empty))
  · rintro ts us ⟨vs, close, rfl⟩
    exact .sequence .stop (.sequence (.other .empty) (.sequence close .empty))

/-! ## Statements -/

/-- A statement that may also be the first clause in the head of a loop. -/
theorem statementAt_of_start {place : Place} (start : Part)
    (isStart : start ∈ [phrase .block, returnStatement, count, phrase .simple])
    (derives : Derives dialect start ts vs)
    (rest : MeansAll dialect (afterStatement place) vs us) :
    Derives dialect (statementAt place) ts us := by
  cases place with
  | body =>
      obtain rfl : vs = us := rest
      simp only [List.mem_cons, List.not_mem_nil, or_false] at isStart
      rcases isStart with rfl | rfl | rfl | rfl
      · exact .nonterminal (.one derives)
      · exact .nonterminal (.other (.one derives))
      · exact .nonterminal (.alternative 5 rfl derives)
      · exact .nonterminal (.alternative 6 rfl derives)
  | forHead =>
      obtain ⟨ws, more, rfl⟩ := rest
      have first : Derives dialect forStart ts vs := by
        simp only [List.mem_cons, List.not_mem_nil, or_false] at isStart
        rcases isStart with rfl | rfl | rfl | rfl
        · exact .other (.one derives)
        · exact .alternative 2 rfl derives
        · exact .alternative 3 rfl derives
        · exact .alternative 4 rfl derives
      exact .one (.sequence first (.sequence more .empty))

/-- A statement that begins with a type-or-reference. -/
theorem statementAt_of_simpleAt {place : Place} (derives : Derives dialect (simpleAt place) ts us) :
    Derives dialect (statementAt place) ts us := by
  cases place with
  | body => exact .nonterminal (.alternative 6 rfl derives)
  | forHead =>
      rcases derives.reads with ⟨ws, simple, xs, more, rfl⟩ | each | never
      · exact .one (.sequence (.alternative 4 rfl (.of_reads simple))
          (.sequence (.of_reads more) .empty))
      · exact .other (.one (.of_reads each))
      · exact never.elim

/-- A statement of the extended dialect. -/
theorem statement_of_extended (derives : Derives .extended extendedStatement ts us) :
    Derives .extended (phrase .statement) ts us :=
  .nonterminal (.alternative 7 rfl derives)

theorem expandStatementBody_sound (place : Place) (legal : current.Legal dialect) :
    (expandStatementBody place current).Sound dialect stop current
      (Means dialect (.statementBody place)) := by
  simp only [expandStatementBody]
  split
  · -- `return`
    rename_i here
    rintro ts us ⟨vs, value, rest⟩
    refine statementAt_of_start returnStatement (by simp) ?_ rest
    exact .sequence (.terminal here) value
  · -- `throw`
    rename_i here
    obtain rfl := dialect_of_extendedOnly legal (by rw [here]; rfl)
    rintro ts us ⟨vs, value, ws, semicolon, rfl⟩
    exact statement_of_extended (.one (.sequence (.terminal here) (.sequence value
      (.sequence semicolon .empty))))
  · -- `break`
    rename_i here
    obtain rfl := dialect_of_extendedOnly legal (by rw [here]; rfl)
    rintro ts us ⟨vs, semicolon, rfl⟩
    exact statement_of_extended (.other (.one (.sequence (.terminal here)
      (.sequence semicolon .empty))))
  · -- `continue`
    rename_i here
    obtain rfl := dialect_of_extendedOnly legal (by rw [here]; rfl)
    rintro ts us ⟨vs, semicolon, rfl⟩
    exact statement_of_extended (.alternative 2 rfl (.sequence (.terminal here)
      (.sequence semicolon .empty)))
  · -- `try`, whose node is closed behind its last block
    rename_i here
    obtain rfl := dialect_of_extendedOnly legal (by rw [here]; rfl)
    rintro ts us ⟨vs, block, ws, ending, xs, closed, rfl⟩
    obtain rfl : ws = xs := closed.reads
    exact statement_of_extended (.alternative 4 rfl (.sequence (.terminal here)
      (.sequence block (.sequence ending .empty))))
  · -- `if`
    rename_i here
    rintro ts us ⟨v₁, opening, v₂, test, v₃, closing, v₄, branch, v₅, other, v₆, closed, rfl⟩
    obtain rfl : v₅ = v₆ := closed.reads
    exact .nonterminal (.alternative 2 rfl (.sequence (.terminal here) (.sequence
      (.sequence opening (.sequence test (.sequence closing .empty)))
      (.sequence branch (.sequence other .empty)))))
  · -- `for`
    rename_i here
    rintro ts us ⟨vs, opening, ws, loop, xs, closed, rfl⟩
    obtain rfl : ws = xs := closed.reads
    refine .nonterminal (.alternative 4 rfl (.nonterminal ?_))
    exact .sequence (.terminal here) (.sequence opening (.sequence loop .empty))
  · -- `do`
    rename_i here
    obtain rfl := dialect_of_extendedOnly legal (by rw [here]; rfl)
    rintro ts us ⟨v₁, body, v₂, again, v₃, opening, v₄, test, v₅, closing, v₆, semicolon, v₇,
      closed, rfl⟩
    obtain rfl : v₆ = v₇ := closed.reads
    exact statement_of_extended (.alternative 3 rfl (.sequence (.terminal here)
      (.sequence body (.sequence again (.sequence
        (.sequence opening (.sequence test (.sequence closing .empty)))
        (.sequence semicolon .empty))))))
  · -- `while`
    rename_i here
    rintro ts us ⟨v₁, opening, v₂, test, v₃, closing, v₄, body, v₅, closed, rfl⟩
    obtain rfl : v₄ = v₅ := closed.reads
    exact .nonterminal (.alternative 3 rfl (.sequence (.terminal here) (.sequence
      (.sequence opening (.sequence test (.sequence closing .empty)))
      (.sequence body .empty))))
  · -- counting by a sign in front, which is a clause of a loop, too
    rintro ts us - ⟨vs, counted, ws, semicolon, rest⟩
    refine statementAt_of_start count (by simp) ?_ rest
    obtain ⟨xs, sign, ys, reference, rfl⟩ := counted.reads
    exact .sequence (.of_reads sign) (.sequence (.of_reads reference) (.sequence semicolon .empty))
  · rintro ts us - ⟨vs, simple, rfl⟩
    exact statementAt_of_simpleAt simple

theorem statement_sound (place : Place) (current : Token) :
    ((Symbol.statement place).expand dialect current).Sound dialect stop current
      (Means dialect (.statement place)) := by
  rw [Symbol.expand]
  split
  · rintro ts us - ⟨vs, block, rest⟩
    exact statementAt_of_start (phrase .block) (by simp) block rest
  · rintro ts us - ⟨vs, entry, ws, body, rfl⟩
    obtain rfl : ts = vs := entry.reads
    exact body

theorem block_sound (current : Token) :
    (Symbol.block.expand dialect current).Sound dialect stop current (Means dialect .block) := by
  rintro ts us - ⟨vs, opening, ws, statements, xs, closed, rfl⟩
  obtain rfl : ws = xs := closed.reads
  exact .nonterminal (.sequence opening statements)

theorem statements_sound (current : Token) :
    (Symbol.statements.expand dialect current).Sound dialect stop current
      (Means dialect .statements) := by
  refine either_sound ?_ ?_
  · rintro here ts us rfl
    exact .sequence .stop (.sequence (.terminal here) .empty)
  · rintro ts us ⟨vs, statement, ws, more, rfl⟩
    exact .cons statement more

theorem returnValue_sound (current : Token) :
    (Symbol.returnValue.expand dialect current).Sound dialect stop current
      (Means dialect .returnValue) := by
  refine either_sound ?_ ?_
  · rintro here ts us rfl
    exact .sequence (.other .empty) (.sequence (.terminal here) .empty)
  · rintro ts us ⟨vs, value, ws, semicolon, rfl⟩
    exact .sequence (.one value) (.sequence semicolon .empty)

theorem forInit_sound (current : Token) :
    (Symbol.forInit.expand dialect current).Sound dialect stop current
      (Means dialect .forInit) := by
  refine either_sound ?_ ?_
  · rintro here ts us ⟨vs, rest, rfl⟩
    exact .one (.sequence (.one (.terminal here)) (.sequence rest .empty))
  · rintro ts us ⟨vs, start, rfl⟩
    exact start

theorem forCondition_sound (current : Token) :
    (Symbol.forCondition.expand dialect current).Sound dialect stop current
      (Means dialect .forCondition) := by
  refine either_sound ?_ ?_
  · rintro here ts us ⟨vs, update, ws, body, rfl⟩
    exact .sequence (.other .empty) (.sequence (.terminal here) (.sequence update body))
  · rintro ts us ⟨v₁, test, v₂, semicolon, v₃, update, v₄, body, rfl⟩
    exact .sequence (.one test) (.sequence semicolon (.sequence update body))

theorem forBody_sound (current : Token) :
    (Symbol.forBody.expand dialect current).Sound dialect stop current
      (Means dialect .forBody) := by
  rintro ts us - ⟨vs, closing, ws, body, rfl⟩
  exact .sequence closing (.sequence body .empty)

theorem expandDeclarationEnd_sound (place : Place) (current : Token) :
    (expandDeclarationEnd dialect place current).Sound dialect stop current
      (Means dialect (.declarationEnd place)) := by
  rw [expandDeclarationEnd]
  -- With an initial value or without, the declaration is over at its semicolon.
  have ends {ts vs us : List Token} (derives : Derives dialect (declarationEnd dialect) ts vs)
      (rest : MeansAll dialect (afterStatement place) vs us) :
      Means dialect (.declarationEnd place) ts us := by
    cases place with
    | body =>
        obtain rfl : vs = us := rest
        exact derives
    | forHead =>
        obtain ⟨ws, more, rfl⟩ := rest
        exact .one (.sequence derives (.sequence more .empty))
  split
  · -- a loop over values
    rename_i colon
    rw [Bool.and_eq_true, decide_eq_true_eq, decide_eq_true_eq] at colon
    obtain ⟨rfl, here⟩ := colon
    rintro ts us ⟨vs, expression, ws, body, rfl⟩
    exact .other (.one (.sequence (.terminal here) (.sequence expression body)))
  split
  · -- no initial value
    rename_i semicolon
    rw [Bool.and_eq_true, decide_eq_true_eq] at semicolon
    obtain ⟨extended, here⟩ := semicolon
    intro ts us rest
    cases dialect with
    | mini => cases extended
    | extended => exact ends (.sequence (.other .empty) (.sequence (.terminal here) .empty)) rest
  · -- an initial value
    rintro ts us - ⟨vs, sign, ws, value, xs, semicolon, rest⟩
    refine ends ?_ rest
    have initial : Derives dialect initial ts ws := .sequence sign (.sequence value .empty)
    cases dialect with
    | mini => exact .sequence initial (.sequence semicolon .empty)
    | extended => exact .sequence (.one initial) (.sequence semicolon .empty)

theorem expandForUpdate_sound (current : Token) :
    (expandForUpdate current).Sound dialect stop current (Means dialect .forUpdate) := by
  rw [expandForUpdate]
  split
  · rintro ts us - rfl
    exact .other .empty
  split
  · rintro ts us - ⟨vs, counted, rfl⟩
    obtain ⟨ws, sign, xs, reference, rfl⟩ := counted.reads
    exact .one (.nonterminal (.one (.sequence (.of_reads sign)
      (.sequence (.of_reads reference) .empty))))
  · rintro ts us - ⟨vs, update, rfl⟩
    exact .one update

theorem expandTryEnd_sound (current : Token) :
    (expandTryEnd current).Sound dialect stop current (Means dialect .tryEnd) := by
  rw [expandTryEnd]
  refine either_sound ?_ ?_
  · rintro here ts us ⟨v₁, opening, v₂, type, v₃, name, v₄, closing, v₅, block, v₆, last, rfl⟩
    exact .one (.sequence (.terminal here) (.sequence opening (.sequence (nominal_of_type type)
      (.sequence name (.sequence closing (.sequence block (.sequence last .empty)))))))
  · rintro ts us ⟨vs, sign, ws, block, rfl⟩
    exact .other (.one (.sequence sign (.sequence block .empty)))

end Language

end MiniJ
