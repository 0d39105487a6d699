import MiniJ.Proofs.Language.Completeness.Expressions

/-!
# Statements of programs are accepted

The rules for statements keep the property of their phrases. An `if` statement without another
branch is accepted although the symbol for the branch is there: what stands behind a statement
yields to it (`EndsStatement`).

What begins a loop may be a statement or the variable of a loop over values. Both are read by the
symbols for a statement in the head, and what follows settles which it is.
-/

set_option autoImplicit false

namespace MiniJ

namespace Language

open Ebnf Grammar

variable {dialect : Dialect} {stop : Token} {rest : List Symbol} {ts us vs : List Token}

/-! ## Parts of statements -/

theorem endsStatement_close {construct : Construct} (ends : EndsStatement dialect stop rest) :
    EndsStatement dialect stop (.close construct :: rest) :=
  Yields.close ends

/-- What is accepted as a statement but a block is accepted as a statement. -/
theorem accepts_statement {place : Place}
    (accepts : Accepts dialect stop (.statementBody place :: rest) ts) :
    Accepts dialect stop (.statement place :: rest) ts := by
  have expands : (Symbol.statement place).expand dialect (frontOf stop ts) =
      .replace [.announce (.statement (frontOf stop ts).kind (place = .body)),
        .statementBody place] := by
    rw [Symbol.expand, if_neg (accepts.front_ne_of_statementBody (by decide))]
  exact .replace expands (accepts_announce_then accepts)

/-- A statement may begin with a type-or-reference. -/
theorem accepts_statementBody {place : Place}
    (accepts : Accepts dialect stop (.reference (.statement place) :: rest) ts) :
    Accepts dialect stop (.statementBody place :: rest) ts := by
  have begins := accepts.beginsReference
  have expands : (Symbol.statementBody place).expand dialect (frontOf stop ts) =
      .replace [.reference (.statement place)] := by
    simp only [TokenKind.beginsReference] at begins
    split at begins <;> simp_all [Symbol.expand, expandStatementBody]
  exact .replace expands accepts

/-- Statements up to the closing brace. -/
theorem accepts_statements {closing : Token} (isClosing : closing.kind = .rBrace)
    (row : Takes dialect stop (many (phrase .statement)) ts (closing :: us))
    (accepts : Accepts dialect stop rest us) :
    Accepts dialect stop (.statements :: rest) ts := by
  -- on the statements that are left before the brace
  induction row using Relation.ReflTransGen.head_induction_on with
  | refl =>
      have expands : Symbol.statements.expand dialect closing = .consume [] := by
        rw [Symbol.expand, if_pos isClosing]
      exact .consume expands accepts
  | @head ts vs once _ ih =>
      have inside : Accepts dialect stop (.statement .body :: .statements :: rest) ts :=
        once _ endsStatement_statements ih
      have expands : Symbol.statements.expand dialect (frontOf stop ts) =
          .replace [.statement .body, .statements] := by
        rw [Symbol.expand, if_neg (inside.front_ne_of_statement (by decide) (by decide))]
      exact .replace expands inside

theorem block_accepting (row : Takes dialect stop (rule dialect .block) ts us) :
    Accepting dialect stop .block ts us := by
  intro rest accepts
  obtain ⟨_, ⟨opening, isOpening, rfl⟩, _, statements, _, ⟨closing, isClosing, rfl⟩, rfl⟩ := row
  exact .replace rfl (accepts_token isOpening
    (accepts_statements isClosing statements (accepts_close accepts)))

/-- In front of its brace a block is accepted as a statement. -/
theorem accepts_statement_block {place : Place}
    (accepts : Accepts dialect stop (.block :: (afterStatement place ++ rest)) ts) :
    Accepts dialect stop (.statement place :: rest) ts := by
  have opens : (frontOf stop ts).kind = .lBrace := by
    have expands : Symbol.block.expand dialect (frontOf stop ts) =
        .replace [.token .lBrace, .statements, .close .block] := rfl
    exact ((accepts_replace expands).mp accepts).front_of_token
  have expands : (Symbol.statement place).expand dialect (frontOf stop ts) =
      .replace (.block :: afterStatement place) := by
    rw [Symbol.expand, if_pos opens]
  exact .replace expands accepts

theorem accepts_conditionSymbols (test : Takes dialect stop condition ts us)
    (accepts : Accepts dialect stop rest us) :
    Accepts dialect stop (Grammar.condition ++ rest) ts := by
  obtain ⟨_, ⟨opening, isOpening, rfl⟩, _, expression, _, ⟨closing, isClosing, rfl⟩, rfl⟩ := test
  exact accepts_token isOpening
    (expression _ (endsExpression_token (by decide)) (accepts_token isClosing accepts))

theorem accepts_return {place : Place} (row : Takes dialect stop returnStatement ts us)
    (accepts : Accepts dialect stop (afterStatement place ++ rest) us) :
    Accepts dialect stop (.statementBody place :: rest) ts := by
  obtain ⟨vs, ⟨current, (here : current.kind = .keyword .return_), rfl⟩, ws, value, _,
    ⟨semicolon, (isSemicolon : semicolon.kind = .semicolon), rfl⟩, rfl⟩ := row
  have expands : (Symbol.statementBody place).expand dialect current =
      .consume (.returnValue :: afterStatement place) := by
    cases place <;> simp [Symbol.expand, expandStatementBody, here]
  refine .consume expands ?_
  rcases value with expression | none
  · -- a value: what begins it is no semicolon
    have inside : Accepts dialect stop
        (.expression false :: .token .semicolon :: (afterStatement place ++ rest)) vs :=
      expression _ (endsExpression_token (by decide)) (accepts_token isSemicolon accepts)
    have some : Symbol.returnValue.expand dialect (frontOf stop vs) =
        .replace [.expression false, .token .semicolon] := by
      rw [Symbol.expand, if_neg (inside.front_ne_of_expression (by decide))]
    exact .replace some inside
  · obtain rfl : vs = semicolon :: _ := none
    have missing : Symbol.returnValue.expand dialect semicolon = .consume [] := by
      rw [Symbol.expand, if_pos isSemicolon]
    exact .consume missing accepts

/-- A reference that is counted up or down by the sign in front. -/
theorem accepts_update {sign : Token} (isSign : sign.kind = .incDec)
    (reference : Accepting dialect stop .reference ts us)
    (free : (frontOf stop us).kind ∉ [.dot, .lBracket, .lParen, .leftChevron])
    (accepts : Accepts dialect stop rest us) :
    Accepts dialect stop (.update :: rest) (sign :: ts) := by
  have expands : Symbol.update.expand dialect sign = .consume [.reference (.update sign)] := by
    rw [Symbol.expand, if_pos isSign]
  refine .consume expands (reference _ _ fun symbols ended => ?_)
  refine ended.accepts (by simp_all) (by simp_all) fun result noType => ?_
  have classified : (Symbol.classified (.update sign) result).expand dialect (frontOf stop us) =
      .replace [] := by
    simp [Symbol.expand, expandClassified, noType]
  exact accepts_announce_then (.replace classified accepts)

theorem accepts_count {place : Place} (row : Takes dialect stop count ts us)
    (accepts : Accepts dialect stop (afterStatement place ++ rest) us) :
    Accepts dialect stop (.statementBody place :: rest) ts := by
  obtain ⟨_, ⟨sign, (isSign : sign.kind = .incDec), rfl⟩, _, reference, _,
    ⟨semicolon, (isSemicolon : semicolon.kind = .semicolon), rfl⟩, rfl⟩ := row
  have expands : (Symbol.statementBody place).expand dialect sign =
      .replace ([Symbol.update, .token .semicolon] ++ afterStatement place) := by
    cases place <;> simp [Symbol.expand, expandStatementBody, isSign]
  exact .replace expands (accepts_update isSign reference (by simp [isSemicolon])
    (accepts_token isSemicolon accepts))

/-! ## Declarations, assignments and calls -/

theorem accepts_declarationEnd {place : Place}
    (row : Takes dialect stop (declarationEnd dialect) ts us)
    (accepts : Accepts dialect stop (afterStatement place ++ rest) us) :
    Accepts dialect stop (.declarationEnd place :: rest) ts := by
  -- an initial value is read alike in both dialects
  have initialized {semicolon : Token} {us : List Token} (isSemicolon : semicolon.kind = .semicolon)
      (initial : Takes dialect stop initial ts (semicolon :: us))
      (accepts : Accepts dialect stop (afterStatement place ++ rest) us) :
      Accepts dialect stop (.declarationEnd place :: rest) ts := by
    obtain ⟨_, ⟨sign, (isSign : sign.kind = .assign), rfl⟩, _, value, rfl⟩ := initial
    have expands : (Symbol.declarationEnd place).expand dialect sign =
        .replace ([Symbol.token .assign, .expression true, .token .semicolon] ++
          afterStatement place) := by
      simp [Symbol.expand, expandDeclarationEnd, isSign]
    exact .replace expands (accepts_token isSign
      (value _ (endsExpression_token (by decide)) (accepts_token isSemicolon accepts)))
  cases dialect with
  | mini =>
      obtain ⟨_, initial, _, ⟨semicolon, isSemicolon, rfl⟩, rfl⟩ := row
      exact initialized isSemicolon initial accepts
  | extended =>
      obtain ⟨vs, initial | none, _, ⟨semicolon, (isSemicolon : semicolon.kind = .semicolon), rfl⟩,
        rfl⟩ := row
      · exact initialized isSemicolon initial accepts
      · obtain rfl : ts = semicolon :: _ := none
        have expands : (Symbol.declarationEnd place).expand .extended semicolon =
            .consume (afterStatement place) := by
          simp [Symbol.expand, expandDeclarationEnd, isSemicolon, Dialect.isExtended]
        exact .consume expands accepts

/-- A declaration whose name and end are accepted. -/
theorem accepts_declaration {place : Place} {name : Token} (isName : name.kind = .ident)
    (declared : Accepting dialect stop .declared ts (name :: us))
    (accepts : Accepts dialect stop (.declarationEnd place :: rest) us) :
    Accepts dialect stop (.reference (.statement place) :: rest) ts := by
  refine declared _ _ isName fun result mayBeType => accepts_announce_then ?_
  have expands : (Symbol.classified (.statement place) result).expand dialect name =
      .consume [.declarationEnd place] := by
    simp [Symbol.expand, expandClassified, isName, mayBeType]
  exact .consume expands accepts

/-- What is assignable is assigned to by the operator in front. -/
theorem assign_of_isAssignable {result : Classification} {sign : Token} {symbols : List Symbol}
    (assignable : result.isAssignable = true) :
    assign result sign symbols =
      if sign.kind = .incDec then .consume symbols
      else .consume (.expression false :: symbols) := by
  cases result with
  | undetermined | reference => rfl
  | type | referenceUnassignable => cases assignable

/-- The target of an assignment or an update, and what the operator behind it makes of it. -/
theorem accepts_assigned {purpose : Purpose} {sign : Token} {symbols : List Symbol}
    (isSign : sign.kind ∈ [.assign, .compoundAssign, .incDec])
    (target : Accepting dialect stop .target ts (sign :: us))
    (same : ∀ result, (Symbol.classified purpose result).expand dialect sign =
      assign result sign symbols)
    (accepts : Accepts dialect stop
      ((if sign.kind = .incDec then symbols else .expression false :: symbols) ++ rest) us) :
    Accepts dialect stop (.reference purpose :: rest) ts := by
  have isSign : sign.kind = .assign ∨ sign.kind = .compoundAssign ∨ sign.kind = .incDec := by
    simpa using isSign
  refine target _ _ fun ended reached => reached.accepts ?_ ?_ fun result assignable => ?_
  · rcases isSign with here | here | here <;> simp [here]
  · rcases isSign with here | here | here <;> simp [here]
  · have expands := (same result).trans (assign_of_isAssignable assignable)
    apply accepts_announce_then
    split at expands
    · rename_i here
      rw [if_pos here] at accepts
      exact .consume expands accepts
    · rename_i here
      rw [if_neg here] at accepts
      exact .consume expands accepts

/-- The sign of an assignment is not that of an update. -/
theorem sign_of_assignment {sign : Token}
    (among : (Sign.anyOf [.assign, .compoundAssign]).Admits sign) :
    sign.kind ∈ [.assign, .compoundAssign, .incDec] ∧ sign.kind ≠ .incDec := by
  have among : sign.kind = .assign ∨ sign.kind = .compoundAssign := by
    simpa [Sign.Admits] using among
  rcases among with here | here
  · exact ⟨by simp [here], by simp [here]⟩
  · exact ⟨by simp [here], by simp [here]⟩

theorem expand_classified_statement {place : Place} {sign : Token}
    (isSign : sign.kind ∈ [.assign, .compoundAssign, .incDec]) (result : Classification) :
    (Symbol.classified (.statement place) result).expand dialect sign =
      assign result sign (.token .semicolon :: afterStatement place) := by
  simp only [List.mem_cons, List.not_mem_nil, or_false] at isSign
  rcases isSign with here | here | here <;> simp [Symbol.expand, expandClassified, here]

theorem expand_classified_forUpdate {sign : Token}
    (isSign : sign.kind ∈ [.assign, .compoundAssign, .incDec]) (result : Classification) :
    (Symbol.classified .forUpdate result).expand dialect sign = assign result sign [] := by
  simp only [List.mem_cons, List.not_mem_nil, or_false] at isSign
  rcases isSign with here | here | here <;> simp [Symbol.expand, expandClassified, here]

theorem simple_accepting (row : Takes dialect stop (rule dialect .simple) ts us) :
    Accepting dialect stop .simple ts us := by
  intro place rest accepts
  rcases row with ⟨_, declared, _, ⟨name, isName, rfl⟩, _, ending, rfl⟩ |
    ⟨_, target, _, ⟨sign, among, rfl⟩, _, value, _, ⟨semicolon, isSemicolon, rfl⟩, rfl⟩ |
    ⟨_, target, _, ⟨sign, (isSign : sign.kind = .incDec), rfl⟩, _, ⟨semicolon, isSemicolon, rfl⟩,
      rfl⟩ |
    ⟨_, call, _, ⟨semicolon, (isSemicolon : semicolon.kind = .semicolon), rfl⟩, rfl⟩ | never
  · -- a declaration
    exact accepts_declaration isName declared (accepts_declarationEnd ending accepts)
  · -- an assignment
    obtain ⟨isSign, notUpdate⟩ := sign_of_assignment among
    apply accepts_assigned isSign target (expand_classified_statement isSign)
    rw [if_neg notUpdate]
    exact value _ (endsExpression_token (by decide)) (accepts_token isSemicolon accepts)
  · -- an update
    have among : sign.kind ∈ [.assign, .compoundAssign, .incDec] := by simp [isSign]
    apply accepts_assigned among target (expand_classified_statement among)
    rw [if_pos isSign]
    exact accepts_token isSemicolon accepts
  · -- a call
    refine call _ _ (accepts_callEnd (by simp [isSemicolon]) (by simp [isSemicolon]) ?_)
    have expands : (Symbol.classified (.statement place) .referenceUnassignable).expand dialect
        semicolon = .consume (afterStatement place) := by
      simp [Symbol.expand, expandClassified, isSemicolon, standAlone]
    exact accepts_announce_then (.consume expands accepts)
  · exact never.elim

/-- The last clause in the head of a loop may begin with a type-or-reference. -/
theorem accepts_forUpdate (accepts : Accepts dialect stop (.reference .forUpdate :: rest) ts) :
    Accepts dialect stop (.forUpdate :: rest) ts := by
  have begins := accepts.beginsReference
  have expands : Symbol.forUpdate.expand dialect (frontOf stop ts) =
      .replace [.reference .forUpdate] := by
    simp only [TokenKind.beginsReference] at begins
    split at begins <;> simp_all [Symbol.expand, expandForUpdate]
  exact .replace expands accepts

theorem update_accepting (row : Takes dialect stop (rule dialect .update) ts us) :
    Accepting dialect stop .update ts us := by
  intro rest ends free accepts
  rcases row with ⟨_, ⟨sign, (isSign : sign.kind = .incDec), rfl⟩, _, reference, rfl⟩ |
    ⟨_, target, _, ⟨sign, among, rfl⟩, _, value, rfl⟩ |
    ⟨_, target, _, ⟨sign, (isSign : sign.kind = .incDec), rfl⟩, rfl⟩ | call | never
  · -- an update with the sign in front
    have expands : Symbol.forUpdate.expand dialect sign = .replace [.update] := by
      simp [Symbol.expand, expandForUpdate, isSign]
    exact .replace expands (accepts_update isSign reference (by simp [free]) accepts)
  · -- an assignment
    obtain ⟨isSign, notUpdate⟩ := sign_of_assignment among
    refine accepts_forUpdate
      (accepts_assigned isSign target (expand_classified_forUpdate isSign) ?_)
    rw [if_neg notUpdate]
    exact value _ ends accepts
  · -- an update with the sign behind
    have among : sign.kind ∈ [.assign, .compoundAssign, .incDec] := by simp [isSign]
    refine accepts_forUpdate
      (accepts_assigned among target (expand_classified_forUpdate among) ?_)
    rw [if_pos isSign]
    exact accepts
  · -- a call
    refine accepts_forUpdate (call _ _ (accepts_callEnd (by simp [free]) (by simp [free]) ?_))
    have expands : (Symbol.classified .forUpdate .referenceUnassignable).expand dialect
        (frontOf stop us) = .replace [] := by
      simp [Symbol.expand, expandClassified, free, standAlone]
    exact accepts_announce_then (.replace expands accepts)
  · exact never.elim

/-! ## Loops -/

theorem accepts_forRest (row : Takes dialect stop forRest ts us)
    (ends : EndsStatement dialect stop rest) (accepts : Accepts dialect stop rest us) :
    Accepts dialect stop (.forCondition :: rest) ts := by
  obtain ⟨vs, test, ws, ⟨semicolon, (isSemicolon : semicolon.kind = .semicolon), rfl⟩, xs, update,
    _, ⟨closing, (isClosing : closing.kind = .rParen), rfl⟩, _, body, rfl⟩ := row
  -- built from behind: the body, then the last clause, then the condition
  have loop : Accepts dialect stop (.forBody :: rest) (closing :: _) :=
    .replace rfl (accepts_token isClosing (body _ ends accepts))
  have clause : Accepts dialect stop (.forUpdate :: .forBody :: rest) ws := by
    rcases update with some | none
    · exact some _ endsExpression_forBody isClosing loop
    · obtain rfl : ws = closing :: _ := none
      have expands : Symbol.forUpdate.expand dialect closing = .replace [] := by
        simp [Symbol.expand, expandForUpdate, isClosing]
      exact .replace expands loop
  rcases test with expression | none
  · have inside : Accepts dialect stop
        (.expression false :: .token .semicolon :: .forUpdate :: .forBody :: rest) ts :=
      expression _ (endsExpression_token (by decide)) (accepts_token isSemicolon clause)
    have expands : Symbol.forCondition.expand dialect (frontOf stop ts) =
        .replace [.expression false, .token .semicolon, .forUpdate, .forBody] := by
      rw [Symbol.expand, if_neg (inside.front_ne_of_expression (by decide))]
    exact .replace expands inside
  · obtain rfl : ts = semicolon :: ws := none
    have expands : Symbol.forCondition.expand dialect semicolon =
        .consume [.forUpdate, .forBody] := by
      rw [Symbol.expand, if_pos isSemicolon]
    exact .consume expands clause

/-- What is accepted as a statement in the head of a loop is accepted as its first clause. -/
theorem accepts_forInit (accepts : Accepts dialect stop (.statement .forHead :: rest) ts) :
    Accepts dialect stop (.forInit :: rest) ts := by
  have expands : Symbol.forInit.expand dialect (frontOf stop ts) =
      .replace [.statement .forHead] := by
    rw [Symbol.expand, if_neg (accepts.front_ne_of_statement (by decide) (by decide))]
  exact .replace expands accepts

theorem accepts_forStart (row : Takes dialect stop forStart ts us)
    (accepts : Accepts dialect stop (.forCondition :: rest) us) :
    Accepts dialect stop (.forInit :: rest) ts := by
  have behind : Accepts dialect stop (afterStatement .forHead ++ rest) us := accepts
  rcases row with ⟨semicolon, (isSemicolon : semicolon.kind = .semicolon), rfl⟩ | block | value |
    counted | simple | never
  · have expands : Symbol.forInit.expand dialect semicolon = .consume [.forCondition] := by
      rw [Symbol.expand, if_pos isSemicolon]
    exact .consume expands accepts
  · exact accepts_forInit (accepts_statement_block (block _ behind))
  · exact accepts_forInit (accepts_statement (accepts_return value behind))
  · exact accepts_forInit (accepts_statement (accepts_count counted behind))
  · exact accepts_forInit (accepts_statement (accepts_statementBody (simple .forHead rest behind)))
  · exact never.elim

/-- A loop over values declares its variable. -/
theorem accepts_forEach (row : Takes dialect stop forEach ts us)
    (ends : EndsStatement dialect stop rest) (accepts : Accepts dialect stop rest us) :
    Accepts dialect stop (.forInit :: rest) ts := by
  obtain ⟨_, declared, _, ⟨name, isName, rfl⟩, _, ⟨colon, (isColon : colon.kind = .colon), rfl⟩, _,
    values, _, ⟨closing, isClosing, rfl⟩, _, body, rfl⟩ := row
  have loop : Accepts dialect stop (.forBody :: rest) (closing :: _) :=
    .replace rfl (accepts_token isClosing (body _ ends accepts))
  have expands : (Symbol.declarationEnd .forHead).expand dialect colon =
      .consume [.expression false, .forBody] := by
    simp [Symbol.expand, expandDeclarationEnd, isColon]
  have declaration := accepts_declaration isName declared
    (.consume expands (values _ endsExpression_forBody loop))
  exact accepts_forInit (accepts_statement (accepts_statementBody declaration))

theorem forLoop_accepting (row : Takes dialect stop (rule dialect .forLoop) ts us) :
    Accepting dialect stop .forLoop ts us := by
  intro rest ends accepts
  obtain ⟨_, ⟨current, (here : current.kind = .keyword .for_), rfl⟩, _, ⟨opening, isOpening, rfl⟩,
    _, loop, rfl⟩ := row
  have expands : (Symbol.statementBody .body).expand dialect current =
      .consume [.token .lParen, .forInit, .close .forLoop] := by
    simp [Symbol.expand, expandStatementBody, here]
  refine .consume expands (accepts_token isOpening ?_)
  rcases loop with ⟨_, start, _, more, rfl⟩ | each | never
  · exact accepts_forStart start
      (accepts_forRest more (endsStatement_close ends) (accepts_close accepts))
  · exact accepts_forEach each (endsStatement_close ends) (accepts_close accepts)
  · exact never.elim

/-! ## All statements -/

theorem accepts_if {sign : Token} (here : sign.kind = .keyword .if_)
    (test : Takes dialect stop condition ts us)
    (accepts : Accepts dialect stop
      (.statement .body :: .elseBranch :: .close .ifStatement :: rest) us) :
    Accepts dialect stop (.statementBody .body :: rest) (sign :: ts) := by
  have expands : (Symbol.statementBody .body).expand dialect sign =
      .consume (Grammar.condition ++
        [Symbol.statement .body, .elseBranch, .close .ifStatement]) := by
    simp [Symbol.expand, expandStatementBody, here]
  exact .consume expands (accepts_conditionSymbols test accepts)

theorem accepts_while {sign : Token} (here : sign.kind = .keyword .while_)
    (test : Takes dialect stop condition ts us)
    (accepts : Accepts dialect stop (.statement .body :: .close .whileLoop :: rest) us) :
    Accepts dialect stop (.statementBody .body :: rest) (sign :: ts) := by
  have expands : (Symbol.statementBody .body).expand dialect sign =
      .consume (Grammar.condition ++ [Symbol.statement .body, .close .whileLoop]) := by
    simp [Symbol.expand, expandStatementBody, here]
  exact .consume expands (accepts_conditionSymbols test accepts)

theorem accepts_finally (row : Takes dialect stop finallyBlock ts us)
    (accepts : Accepts dialect stop rest us) :
    Accepts dialect stop (.finallyBlock :: rest) ts ∧
      Accepts dialect stop (.tryEnd :: rest) ts := by
  obtain ⟨_, ⟨sign, (here : sign.kind = .keyword .finally_), rfl⟩, _, block, rfl⟩ := row
  have expands : Symbol.tryEnd.expand dialect sign =
      .replace [.token (.keyword .finally_), .block] := by
    simp [Symbol.expand, expandTryEnd, here]
  exact ⟨accepts_present (fun _ => rfl) here (block _ accepts),
    .replace expands (accepts_token here (block _ accepts))⟩

theorem accepts_tryEnd (row : Takes dialect stop tryEnd ts us)
    (free : (frontOf stop us).kind ≠ .keyword .finally_) (accepts : Accepts dialect stop rest us) :
    Accepts dialect stop (.tryEnd :: rest) ts := by
  rcases row with ⟨_, ⟨sign, (here : sign.kind = .keyword .catch_), rfl⟩, _,
      ⟨opening, isOpening, rfl⟩, _, type, _, ⟨name, (isName : name.kind = .ident), rfl⟩, _,
      ⟨closing, isClosing, rfl⟩, vs, block, ws, last, rfl⟩ | last | never
  · -- a `catch` clause, with a last block or without
    have behind : Accepts dialect stop (.finallyBlock :: rest) vs := by
      rcases last with some | none
      · exact (accepts_finally some accepts).1
      · obtain rfl : vs = ws := none
        exact accepts_missing (fun _ => rfl) free accepts
    have expands : Symbol.tryEnd.expand dialect sign =
        .consume [.token .lParen, .type false, .token .ident, .token .rParen, .block,
          .finallyBlock] := by
      simp [Symbol.expand, expandTryEnd, here]
    refine .consume expands (accepts_token isOpening ?_)
    exact type false _ (fun _ => rfl)
      (accepts_token isName (accepts_token isClosing (block _ behind)))
      (by simp [isName]) (by simp [isName])
  · exact (accepts_finally last accepts).2
  · exact never.elim

/-- The statements that only the extended dialect has. -/
theorem accepts_extendedStatement (row : Takes dialect stop extendedStatement ts us)
    (ends : EndsStatement dialect stop rest) (accepts : Accepts dialect stop rest us) :
    Accepts dialect stop (.statementBody .body :: rest) ts := by
  rcases row with ⟨_, ⟨sign, (here : sign.kind = .keyword .throw_), rfl⟩, _, value, _,
      ⟨semicolon, isSemicolon, rfl⟩, rfl⟩ |
    ⟨_, ⟨sign, (here : sign.kind = .keyword .break_), rfl⟩, _, ⟨semicolon, isSemicolon, rfl⟩,
      rfl⟩ |
    ⟨_, ⟨sign, (here : sign.kind = .keyword .continue_), rfl⟩, _, ⟨semicolon, isSemicolon, rfl⟩,
      rfl⟩ |
    ⟨_, ⟨sign, (here : sign.kind = .keyword .do_), rfl⟩, _, body, _, ⟨again, isAgain, rfl⟩, _, test,
      _, ⟨semicolon, isSemicolon, rfl⟩, rfl⟩ |
    ⟨_, ⟨sign, (here : sign.kind = .keyword .try_), rfl⟩, _, block, _, ending, rfl⟩ | never
  · -- `throw`
    have expands : (Symbol.statementBody .body).expand dialect sign =
        .consume [.expression false, .token .semicolon] := by
      simp [Symbol.expand, expandStatementBody, here]
    exact .consume expands
      (value _ (endsExpression_token (by decide)) (accepts_token isSemicolon accepts))
  · -- `break`
    have expands : (Symbol.statementBody .body).expand dialect sign =
        .consume [.token .semicolon] := by
      simp [Symbol.expand, expandStatementBody, here]
    exact .consume expands (accepts_token isSemicolon accepts)
  · -- `continue`
    have expands : (Symbol.statementBody .body).expand dialect sign =
        .consume [.token .semicolon] := by
      simp [Symbol.expand, expandStatementBody, here]
    exact .consume expands (accepts_token isSemicolon accepts)
  · -- `do`
    have expands : (Symbol.statementBody .body).expand dialect sign =
        .consume ([Symbol.statement .body, .token (.keyword .while_)] ++ Grammar.condition ++
          [Symbol.token .semicolon, .close .doWhileLoop]) := by
      simp [Symbol.expand, expandStatementBody, here]
    refine .consume expands (body _ (endsStatement_token (by decide)) (accepts_token isAgain ?_))
    exact accepts_conditionSymbols test (accepts_token isSemicolon (accepts_close accepts))
  · -- `try`
    have expands : (Symbol.statementBody .body).expand dialect sign =
        .consume [.block, .tryEnd, .close .tryStatement] := by
      simp [Symbol.expand, expandStatementBody, here]
    exact .consume expands
      (block _ (accepts_tryEnd ending (ends.front accepts) (accepts_close accepts)))
  · exact never.elim

theorem statement_accepting (row : Takes dialect stop (rule dialect .statement) ts us) :
    Accepting dialect stop .statement ts us := by
  intro rest ends accepts
  have behind : Accepts dialect stop (afterStatement .body ++ rest) us := accepts
  rcases row with block | value |
    ⟨_, ⟨sign, isIf, rfl⟩, _, test, vs, branch, ws, other, rfl⟩ |
    ⟨_, ⟨sign, isWhile, rfl⟩, _, test, _, body, rfl⟩ | loop | counted | simple | extended | never
  · exact accepts_statement_block (block _ behind)
  · exact accepts_statement (accepts_return value behind)
  · refine accepts_statement (accepts_if isIf test ?_)
    have closed : Accepts dialect stop (.close .ifStatement :: rest) ws := accepts_close accepts
    -- The branch ends before an `else` of its own or before what stands behind the whole.
    apply branch _ (Yields.again (endsStatement_close ends))
    rcases other with ⟨_, ⟨sign, isElse, rfl⟩, _, second, rfl⟩ | none
    · exact accepts_present (fun _ => rfl) isElse (second _ (endsStatement_close ends) closed)
    · obtain rfl : vs = ws := none
      exact accepts_elseBranch (endsStatement_close ends) closed
  · exact accepts_statement (accepts_while isWhile test
      (body _ (endsStatement_close ends) (accepts_close accepts)))
  · exact accepts_statement (loop rest ends accepts)
  · exact accepts_statement (accepts_count counted behind)
  · exact accepts_statement (accepts_statementBody (simple .body rest behind))
  · cases dialect with
    | mini => exact extended.elim
    | extended => exact accepts_statement (accepts_extendedStatement extended ends accepts)
  · exact never.elim

end Language

end MiniJ
