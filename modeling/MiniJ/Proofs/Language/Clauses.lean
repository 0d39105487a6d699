import MiniJ.Proofs.Language.Phrases

/-!
# The last clause in the head of a loop

The last clause in the head of a loop is an update, an assignment or a call, and so is a statement
that is no declaration. They are recognized by different symbols and end in front of different
tokens, one in front of a parenthesis, the other behind a semicolon. Still they take the same tokens
(`clause_iff_statement`), whatever expressions and arguments stand inside of them: both take the
updates of the grammar.
-/

set_option autoImplicit false

namespace MiniJ

open Ebnf Grammar MiniJ.Language

variable {dialect : Dialect} {stop closing semicolon : Token} {u ts us vs after behind : List Token}

/-- That a type-or-reference is directly followed by a name. -/
def BeginsDeclaration (dialect : Dialect) (stop : Token) (u : List Token) : Prop :=
  ∃ front name rest result, u = front ++ name :: rest ∧ name.kind = .ident ∧
    Classifies dialect stop (front ++ [name]) result [name]

/-! ## The clause -/

/-- **The clause takes the updates of the grammar**, in front of its parenthesis. -/
theorem works_forUpdate_iff (stops : stop.kind = .eot) (isClosing : closing.kind = .rParen)
    (some : u ≠ []) :
    Works dialect stop ([.forUpdate], u ++ closing :: after) ([], closing :: after) ↔
      Derives dialect (phrase .update) u [] := by
  constructor
  · intro works
    have legal : closing.Legal dialect := by
      simp [Token.Legal, isClosing, TokenKind.isExtendedOnly]
    have clause : Derives dialect (opt (phrase .update)) u [] := by
      refine derives_of_works stops rfl legal ?_ works
      exact fun ts us means => means
    rcases clause.reads with update | none
    · exact .of_reads update
    · exact absurd none some
  · intro update
    have longer : Derives dialect (phrase .update) (u ++ closing :: after) (closing :: after) :=
      derives_in_front (by simp [isClosing]) (by simp [phrase, excluded]) update
    refine works_exactly_iff.mpr ?_
    exact longer.least (accepting_of_takes stops) _ (endsExpression_token (by simp [isClosing,
      continuing])) isClosing (accepts_agendaOf _)

/-! ## The statement -/

/-- With a semicolon behind it an update is a statement. -/
theorem statement_of_update (isSemicolon : semicolon.kind = .semicolon)
    (update : Derives dialect (phrase .update) ts (semicolon :: us)) :
    Derives dialect (oneOf [count, phrase .simple]) ts us := by
  have ends : Derives dialect (seq [tok .semicolon]) (semicolon :: us) us :=
    .sequence (.terminal isSemicolon) .empty
  rcases update.rule.reads with ⟨_, ⟨sign, isSign, rfl⟩, _, reference, rfl⟩ |
    ⟨_, target, _, ⟨sign, among, rfl⟩, _, value, rfl⟩ |
    ⟨_, target, _, ⟨sign, isSign, rfl⟩, rfl⟩ | call | never
  · exact .one (.sequence (.terminal isSign) (.sequence (.of_reads reference) ends))
  · exact .other (.one (.nonterminal (.alternative 1 rfl (.sequence (.of_reads target)
      (.sequence (.terminal among) (.sequence (.of_reads value) ends))))))
  · exact .other (.one (.nonterminal (.alternative 2 rfl (.sequence (.of_reads target)
      (.sequence (.terminal isSign) ends)))))
  · exact .other (.one (.nonterminal (.alternative 3 rfl (.sequence (.of_reads call) ends))))
  · exact never.elim

/-- Such a statement is worked off, whatever stands behind it. -/
theorem works_statement_of_update (stops : stop.kind = .eot)
    (isSemicolon : semicolon.kind = .semicolon) (update : Derives dialect (phrase .update) u []) :
    Works dialect stop ([.statement .body], u ++ semicolon :: behind) ([], behind) := by
  have longer : Derives dialect (phrase .update) (u ++ semicolon :: behind) (semicolon :: behind) :=
    derives_in_front (by simp [isSemicolon]) (by simp [phrase, excluded]) update
  have accepts : Accepts dialect stop (.statement .body :: agendaOf behind)
      (u ++ semicolon :: behind) := by
    apply accepts_statement
    rcases (statement_of_update isSemicolon longer).least (accepting_of_takes stops) with counted |
      simple | never
    · exact accepts_count counted (accepts_agendaOf behind)
    · exact accepts_statementBody (simple .body _ (accepts_agendaOf behind))
    · exact never.elim
  have same : u ++ semicolon :: behind = (u ++ [semicolon]) ++ behind := List.append_cons _ _ _
  rw [same] at accepts ⊢
  exact works_exactly_iff.mpr accepts

/-- Work that leaves nothing goes through every state that work comes to. -/
theorem Works.rest {here there : List Symbol × List Token}
    (whole : Works dialect stop here ([], us)) (part : Works dialect stop here there) :
    Works dialect stop there ([], us) := by
  rcases part.comparable whole with onward | back
  · exact onward
  · rw [Works.eq_of_nil back]

/-- **What may stand behind the type-or-reference that begins a statement.** -/
inductive Continues (dialect : Dialect) (stop : Token) (result : Classification)
    (us : List Token) : List Token → Prop
  /-- A name: the statement is a declaration. -/
  | name {token : Token} {ts : List Token} : token.kind = .ident → us <:+ ts →
      Continues dialect stop result us (token :: ts)
  /-- An assignment sign, a value and a semicolon. -/
  | value {token semicolon : Token} {ts : List Token} :
      (Sign.anyOf [.assign, .compoundAssign]).Admits token → result.isAssignable = true →
      semicolon.kind = .semicolon →
      Works dialect stop ([.expression false], ts) ([], semicolon :: us) →
      Continues dialect stop result us (token :: ts)
  /-- A sign that counts, and a semicolon. -/
  | sign {token semicolon : Token} : token.kind = .incDec → result.isAssignable = true →
      semicolon.kind = .semicolon → Continues dialect stop result us (token :: semicolon :: us)
  /-- Only the semicolon, behind a call. -/
  | semicolon {token : Token} : token.kind = .semicolon → result = .referenceUnassignable →
      Continues dialect stop result us (token :: us)

theorem isAssignable_of_assign {result : Classification} {sign : Token}
    {symbols others : List Symbol} (takes : assign result sign symbols = .consume others) :
    result.isAssignable = true := by
  cases result with
  | undetermined | reference => rfl
  | type | referenceUnassignable => cases takes

theorem continues_of_works {result : Classification}
    (works : Works dialect stop ([.classified (.statement .body) result], ts) ([], us)) :
    Continues dialect stop result us ts := by
  cases Relation.ReflTransGen.cases_head works with
  | inl same => cases same
  | inr more =>
      obtain ⟨there, step, further⟩ := more
      cases step with
      | @consume _ symbols _ token ts expands =>
          by_cases among : token.kind ∈ [.assign, .compoundAssign, .incDec]
          · -- a sign: what is left of the statement is the semicolon, and a value in front of it
            rw [expand_classified_statement among] at expands
            have assignable := isAssignable_of_assign expands
            rw [assign_of_isAssignable assignable] at expands
            split at expands
            · rename_i isSign
              cases expands
              obtain ⟨semicolon, isSemicolon, rfl⟩ := Works.of_token further
              exact .sign isSign assignable isSemicolon
            · rename_i noSign
              cases expands
              have further : Works dialect stop ([.expression false] ++ [.token .semicolon], ts)
                ([], us) := further
              obtain ⟨vs, value, ends⟩ := further.split_nil
              obtain ⟨semicolon, isSemicolon, rfl⟩ := Works.of_token ends
              exact .value (by simpa [Sign.Admits, noSign] using among) assignable isSemicolon value
          · simp only [Symbol.expand, expandClassified, standAlone] at expands
            split at expands
            · rename_i isName
              exact .name isName (Works.suffix further)
            · simp_all
            · simp_all
            · simp_all
            · rename_i isSemicolon
              split at expands
              · rename_i isCall
                cases expands
                cases Works.eq_of_nil further
                exact .semicolon isSemicolon isCall
              · cases expands
            · cases expands
      | replace expands =>
          simp only [Symbol.expand, expandClassified, assign, standAlone] at expands
          repeat' split at expands
          all_goals cases expands
      | announce expands =>
          simp only [Symbol.expand, expandClassified, assign, standAlone] at expands
          repeat' split at expands
          all_goals cases expands

/-- Where a name follows the type-or-reference, in front of the last semicolon, the tokens begin a
declaration. -/
theorem beginsDeclaration_of_name {result : Classification} {t : List Token} {token : Token}
    (isName : token.kind = .ident) (isSemicolon : semicolon.kind = .semicolon)
    (classifies : Classifies dialect stop (t ++ token :: ts) result (token :: ts))
    (split : t ++ token :: ts = u ++ semicolon :: behind) (left : behind <:+ ts) :
    BeginsDeclaration dialect stop u := by
  obtain ⟨ys, rfl⟩ := left
  have whole : t ++ token :: ys = u ++ [semicolon] := by
    have split : (t ++ token :: ys) ++ behind = (u ++ [semicolon]) ++ behind := by simpa using split
    exact List.append_cancel_right split
  cases ys using List.reverseRecOn with
  | nil =>
      -- the name would be the semicolon
      obtain ⟨-, same⟩ := List.append_inj' whole rfl
      cases same
      cases isName.symm.trans isSemicolon
  | append_singleton ys last =>
      rw [← List.cons_append, ← List.append_assoc] at whole
      obtain ⟨rfl, -⟩ := List.append_inj' whole rfl
      exact ⟨t, token, ys, result, rfl, isName, classifies.exchange []⟩

/-- What an assignment sign or a sign that counts follows is a target of the grammar. -/
theorem Classifies.target_in_front {result : Classification} {t : List Token} {token : Token}
    (stops : stop.kind = .eot) (isSign : token.kind ∈ [.assign, .compoundAssign, .incDec])
    (classifies : Classifies dialect stop (t ++ token :: ts) result (token :: ts))
    (assignable : result.isAssignable = true) (us : List Token) :
    Derives dialect (phrase .target) (t ++ token :: us) (token :: us) := by
  have plain : token.kind.isExtendedOnly = false ∧ ¬ dialect.startsSuffix token.kind ∧
      token.kind ≠ .leftChevron := by
    simp only [List.mem_cons, List.not_mem_nil, or_false] at isSign
    rcases isSign with here | here | here <;>
      simp [here, TokenKind.isExtendedOnly, Dialect.startsSuffix]
  obtain ⟨common, noSuffix, free⟩ := plain
  exact derives_in_front free (by simp [phrase, excluded])
    (classifies.target stops (fun _ => common) noSuffix assignable)

/-- What a statement takes that begins with a type-or-reference is an update of the grammar, unless
it is a declaration. -/
theorem update_of_continues {result : Classification} (stops : stop.kind = .eot)
    (isSemicolon : semicolon.kind = .semicolon)
    (noDeclaration : ¬ BeginsDeclaration dialect stop u)
    (classifies : Classifies dialect stop (u ++ semicolon :: behind) result vs)
    (continues : Continues dialect stop result behind vs) :
    Derives dialect (phrase .update) u [] := by
  obtain ⟨t, split⟩ := (classifies (.update stop)).suffix
  have split : t ++ vs = u ++ semicolon :: behind := split
  rw [← split] at classifies
  cases continues with
  | name isName left =>
      exact absurd (beginsDeclaration_of_name isName isSemicolon classifies split left) noDeclaration
  | @value token last ts among assignable isLast value =>
      obtain ⟨v, rfl⟩ := Works.suffix value
      -- Both sides end alike, so target, sign and value are all of `u`.
      have whole : (t ++ token :: v) ++ last :: behind = u ++ semicolon :: behind := by
        simpa using split
      obtain ⟨rfl, -⟩ := List.append_inj' whole rfl
      have isSign : token.kind ∈ [.assign, .compoundAssign, .incDec] := by
        have among : token.kind ∈ [.assign, .compoundAssign] := among
        exact List.mem_append_left [TokenKind.incDec] among
      have expression : Derives dialect (phrase .expression) v [] := by
        refine derives_of_works stops rfl ?_ ?_ value
        · simp [Token.Legal, isLast, TokenKind.isExtendedOnly]
        · exact fun ts us means => means
      exact .nonterminal (.alternative 1 rfl
        (.sequence (classifies.target_in_front stops isSign assignable v)
          (.sequence (.terminal among) (.sequence expression .empty))))
  | @sign token last isSign assignable isLast =>
      have whole : (t ++ [token]) ++ last :: behind = u ++ semicolon :: behind := by
        simpa using split
      obtain ⟨rfl, -⟩ := List.append_inj' whole rfl
      exact .nonterminal (.alternative 2 rfl
        (.sequence (classifies.target_in_front stops (by simp [isSign]) assignable [])
          (.sequence (.terminal isSign) .empty)))
  | @semicolon token isLast isCall =>
      obtain ⟨rfl, -⟩ := List.append_inj' split rfl
      subst isCall
      exact .nonterminal (.alternative 3 rfl (classifies.call stops
        (by simp [Token.Legal, isLast, TokenKind.isExtendedOnly])
        (by simp [Dialect.startsSuffix, isLast])))

/-- **A statement that is no declaration takes the updates of the grammar**, and its semicolon. -/
theorem works_statement_iff (stops : stop.kind = .eot) (isSemicolon : semicolon.kind = .semicolon)
    (begins : (frontOf stop u).kind = .incDec ∨ (frontOf stop u).kind.beginsReference = true)
    (noDeclaration : ¬ BeginsDeclaration dialect stop u) :
    Works dialect stop ([.statement .body], u ++ semicolon :: behind) ([], behind) ↔
      Derives dialect (phrase .update) u [] := by
  refine ⟨fun works => ?_, works_statement_of_update stops isSemicolon⟩
  cases u with
  | nil => simp [stops, TokenKind.beginsReference] at begins
  | cons first rest =>
      rcases begins with isSign | isReference
      · -- a sign in front: a reference is left, and the semicolon behind it
        have left : Works dialect stop ([.reference (.update first)] ++ [.token .semicolon],
          rest ++ semicolon :: behind) ([], behind) :=
          works.rest (UpdatePlace.statement.works_sign isSign)
        obtain ⟨vs, reference, ends⟩ := left.split_nil
        obtain ⟨last, isLast, rfl⟩ := Works.of_token ends
        obtain ⟨r, split⟩ := reference.suffix
        obtain ⟨rfl, same⟩ := List.append_inj' split rfl
        cases same
        have derives : Derives dialect (phrase .reference) r [] := by
          refine derives_of_works stops rfl ?_ ?_ reference
          · simp [Token.Legal, isSemicolon, TokenKind.isExtendedOnly]
          · exact fun ts us means => means
        exact .nonterminal (.one (.sequence (.terminal isSign) (.sequence derives .empty)))
      · have left := works.rest (works_statement_reference .body isReference)
        rcases left.through_reference with ⟨inner, reading, isOver, -⟩ |
          ⟨result, vs, classifies, further⟩
        · exact absurd isOver (by simp)
        · exact update_of_continues stops isSemicolon noDeclaration classifies
            (continues_of_works further)

/-- **The last clause in the head of a loop agrees with a statement.** Tokens that begin with a sign
that counts, a name, `this` or a primitive type and do not begin a declaration are worked off as the
clause in front of its parenthesis exactly when they are worked off as a statement with a semicolon
behind them, whatever stands behind either. -/
theorem clause_iff_statement (dialect : Dialect) (stop closing semicolon : Token)
    (u after behind : List Token) (stops : stop.kind = .eot) (isClosing : closing.kind = .rParen)
    (isSemicolon : semicolon.kind = .semicolon)
    (begins : (frontOf stop u).kind = .incDec ∨ (frontOf stop u).kind.beginsReference = true)
    (noDeclaration : ¬ BeginsDeclaration dialect stop u) :
    Works dialect stop ([.forUpdate], u ++ closing :: after) ([], closing :: after) ↔
      Works dialect stop ([.statement .body], u ++ semicolon :: behind) ([], behind) := by
  have some : u ≠ [] := by
    rintro rfl
    simp [stops, TokenKind.beginsReference] at begins
  rw [works_forUpdate_iff stops isClosing some,
    works_statement_iff stops isSemicolon begins noDeclaration]

/-- `i++` is taken as either. -/
theorem clause_iff_statement_count :
    let u : List Token := [⟨.ident, "i", ⟨1, 1⟩⟩, ⟨.incDec, "++", ⟨1, 2⟩⟩]
    let closing : Token := ⟨.rParen, ")", ⟨1, 4⟩⟩
    let semicolon : Token := ⟨.semicolon, ";", ⟨1, 4⟩⟩
    let stop : Token := ⟨.eot, "", ⟨1, 5⟩⟩
    Works .extended stop ([.forUpdate], u ++ [closing]) ([], [closing]) ∧
      Works .extended stop ([.statement .body], u ++ [semicolon]) ([], []) := by
  intro u closing semicolon stop
  have update : Derives .extended (phrase .update) u [] :=
    .nonterminal (.alternative 2 rfl (.sequence
      (.nonterminal (.one (.terminal (by simp [Sign.Admits]))))
      (.sequence (.terminal rfl) .empty)))
  have noDeclaration : ¬ BeginsDeclaration .extended stop u := by
    rintro ⟨front, name, rest, result, split, isName, classifies⟩
    -- only the first token is a name, and in front of it there is nothing
    cases front with
    | nil => exact absurd classifies.length_lt (Nat.lt_irrefl _)
    | cons first front =>
        obtain ⟨-, split⟩ := List.cons.inj split
        cases front with
        | nil =>
            obtain ⟨rfl, -⟩ := List.cons.inj split
            cases isName
        | cons => simp at split
  have works : Works .extended stop ([.forUpdate], u ++ [closing]) ([], [closing]) :=
    (works_forUpdate_iff rfl rfl (by simp [u])).mpr update
  exact ⟨works, (clause_iff_statement .extended stop closing semicolon u [] [] rfl rfl rfl
    (.inr rfl) noDeclaration).mp works⟩

end MiniJ
