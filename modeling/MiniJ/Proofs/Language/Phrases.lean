import MiniJ.Proofs.Language.Updates
import MiniJ.Proofs.Recognition.InnerTokens
import MiniJ.Proofs.Recognition.Readings

/-!
# Phrases in front of a token

Symbols that are worked off up to a token took a word of the grammar, whatever stands behind that
token (`derives_of_works`), and a word of the grammar is one in front of every token that does not
go on with it (`derives_in_front`). For a type-or-reference the way through the recognizer tells
more: what it is classified as is the phrase that it is (`Classifies.target`, `Classifies.call`,
`Classifies.declared`). These are the two directions in which claims about where one construct ends
are carried over to the grammar and back.
-/

set_option autoImplicit false

namespace MiniJ

open Ebnf Grammar MiniJ.Language

section Phrases

variable {dialect : Dialect} {stop last : Token} {t after us : List Token} {part : Part}

/-! ## Words of the grammar -/

/-- **What an inner symbol takes up to a token is a word of its part.** The tokens behind that one
need not belong to the dialect: none of them is looked at. -/
theorem derives_of_works {symbol : Symbol} (stops : stop.kind = .eot)
    (inner : symbol.isInner = true) (legal : last.Legal dialect)
    (means : ∀ ts us, Means dialect symbol ts us → Derives dialect part ts us)
    (works : Works dialect stop ([symbol], t ++ last :: after) ([], last :: after)) :
    Derives dialect part t [] := by
  obtain ⟨-, taken, split, kinds⟩ := Works.inner works (by simpa using inner)
  obtain rfl : t = taken := List.append_cancel_right split
  have known : ∀ token ∈ t ++ [last], token.Legal dialect := by
    intro token member
    rcases List.mem_append.mp member with within | isLast
    · exact fun _ => TokenKind.isExtendedOnly_of_isInner (kinds token within)
    · rwa [List.mem_singleton.mp isLast]
  have alone : Works dialect stop ([symbol], t ++ [last]) ([], [] ++ [last]) :=
    Works.exchange works []
  obtain ⟨vs, first, ws, closing, isOver⟩ :=
    meansAll_of_accepts stops known (works_exactly_iff.mp alone)
  obtain rfl : ws = [] := isOver
  have closing : Derives dialect (tok last.kind) vs [] := closing
  obtain ⟨token, -, rfl⟩ := closing.reads
  -- one token is left, so it is the last
  have derives := means _ _ first
  obtain ⟨front, split⟩ := derives.suffix
  obtain ⟨rfl, -⟩ := List.append_inj' split rfl
  obtain ⟨word, whole, own⟩ := Ebnf.Derives.cut derives (List.nil_append [token]).symm
  obtain ⟨rfl, -⟩ := List.append_inj' (split.trans whole) rfl
  exact own

/-- A word of a part is one in front of every token that opens no type arguments. -/
theorem derives_in_front (free : last.kind ≠ .leftChevron)
    (own : ∀ sign ∈ part.excluded, sign = .kind .leftChevron)
    (derives : Derives dialect part t []) :
    Derives dialect part (t ++ last :: after) (last :: after) := by
  have longer : Derives dialect part (t ++ last :: after) ([] ++ last :: after) := by
    refine derives.append [.kind .leftChevron] ?_ ?_ ?_
    · intro name sign member
      rw [excluded_rule dialect name sign member]
      exact List.mem_singleton_self _
    · intro sign member
      rw [own sign member]
      exact List.mem_singleton_self _
    · intro _ sign member letter front
      rw [List.mem_singleton.mp member]
      obtain rfl : last = letter := by simpa using front
      exact free
  exact longer

/-! ## What a type-or-reference is -/

/-- A row of suffixes is classified by its stage, in front of a token that goes on with none. -/
theorem Row.classified {stage : SuffixStage} (row : Row dialect stage t [])
    (stops : stop.kind = .eot) (noSuffix : ¬ dialect.startsSuffix last.kind) :
    Classifies dialect stop (t ++ last :: after) stage.result (last :: after) := by
  intro purpose
  have free : ¬ dialect.startsSuffix (frontOf stop (last :: after)).kind := noSuffix
  exact (row.classifies stops free purpose []).tail (.announce rfl)

/-- A value in front of a token is a reference of the grammar. -/
theorem Classifies.reference {result : Classification} (stops : stop.kind = .eot)
    (legal : last.Legal dialect)
    (classifies : Classifies dialect stop (t ++ last :: after) result (last :: after))
    (noType : result ≠ .type) : Derives dialect (phrase .reference) t [] := by
  -- read for an update nothing else is asked of it
  have judges : (Symbol.classified (.update last) result).expand dialect
      (frontOf stop (last :: after)) = .replace [] := by
    simp [Symbol.expand, expandClassified, noType]
  have works : Works dialect stop ([.reference (.update last)], t ++ last :: after)
      ([], last :: after) := (classifies (.update last)).tail (.replace judges)
  refine derives_of_works stops rfl legal ?_ works
  exact fun ts us means => means

variable {result : Classification}

/-- What can be assigned to is a target. -/
theorem Classifies.target (stops : stop.kind = .eot) (legal : last.Legal dialect)
    (noSuffix : ¬ dialect.startsSuffix last.kind)
    (classifies : Classifies dialect stop (t ++ last :: after) result (last :: after))
    (assignable : result.isAssignable = true) : Derives dialect (phrase .target) t [] := by
  have noType : result ≠ .type := by
    rintro rfl
    cases assignable
  rcases (classifies.reference stops legal noType).rule.reads with target | call | never
  · exact .of_reads target
  · obtain ⟨stage, row, isCall⟩ := rowed_of_derives call
    obtain ⟨same, -⟩ := classifies.unique (row.classified stops noSuffix)
    rw [same, isCall] at assignable
    cases assignable
  · exact never.elim

/-- What can only be read is a call. -/
theorem Classifies.call (stops : stop.kind = .eot) (legal : last.Legal dialect)
    (noSuffix : ¬ dialect.startsSuffix last.kind)
    (classifies : Classifies dialect stop (t ++ last :: after) .referenceUnassignable
      (last :: after)) : Derives dialect (phrase .call) t [] := by
  rcases (classifies.reference stops legal (by simp)).rule.reads with target | call | never
  · obtain ⟨stage, row, assignable⟩ := rowed_of_derives target
    obtain ⟨same, -⟩ := classifies.unique (row.classified stops noSuffix)
    rw [← same] at assignable
    cases assignable
  · exact .of_reads call
  · exact never.elim

/-- The phrases that a type-or-reference is read for. -/
def readPhrases : List Phrase := [.target, .call, .reference, .declared]

theorem row_of_derives {name : Phrase} {ts us : List Token} (among : name ∈ readPhrases)
    (derives : Derives dialect (phrase name) ts us) : ∃ stage, Row dialect stage ts us := by
  have rowed := rowed_of_derives derives
  simp only [readPhrases, List.mem_cons, List.not_mem_nil, or_false] at among
  rcases among with rfl | rfl | rfl | rfl
  all_goals
    obtain ⟨stage, row, -⟩ := rowed
    exact ⟨stage, row⟩

/-- **Where a type-or-reference ends, there ends each phrase for it** that is not followed by one
more suffix. -/
theorem Classifies.ends {name : Phrase} {front : Token} {behind : List Token}
    (stops : stop.kind = .eot)
    (classifies : Classifies dialect stop (t ++ last :: after) result (last :: after))
    (among : name ∈ readPhrases)
    (derives : Derives dialect (phrase name) (t ++ last :: after) (front :: behind))
    (noSuffix : ¬ dialect.startsSuffix front.kind) :
    front = last ∧ Derives dialect (phrase name) t [] := by
  obtain ⟨word, split, own⟩ := Ebnf.Derives.cut derives (List.nil_append (front :: behind)).symm
  obtain ⟨stage, row⟩ := row_of_derives among own
  have other : Classifies dialect stop (word ++ front :: behind) stage.result (front :: behind) :=
    row.classified stops noSuffix
  rw [← split] at other
  obtain ⟨-, same⟩ := classifies.unique other
  rw [← same] at split
  obtain rfl := List.append_cancel_right split
  exact ⟨(List.cons.inj same).1.symm, own⟩

/-- What stands behind the token in view does not matter to what was classified. -/
theorem Classifies.exchange
    (classifies : Classifies dialect stop (t ++ last :: after) result (last :: after))
    (behind : List Token) :
    Classifies dialect stop (t ++ last :: behind) result (last :: behind) := by
  intro purpose
  have works : Works dialect stop ([.reference purpose], t ++ last :: after)
    ([.classified purpose result], [] ++ last :: after) := classifies purpose
  exact works.exchange behind

/-- With a name, an assignment sign, an integer and a semicolon behind it, what may be a type is a
statement. -/
theorem Classifies.simple_of_name {sign value semicolon : Token} (stops : stop.kind = .eot)
    (isName : last.kind = .ident) (isSign : sign.kind = .assign)
    (isValue : value.kind = .literal .int) (isSemicolon : semicolon.kind = .semicolon)
    (classifies : Classifies dialect stop (t ++ last :: after) result (last :: after))
    (mayBeType : result.canBeType = true) :
    Derives dialect (phrase .simple) (t ++ [last, sign, value, semicolon]) [] := by
  have names : (Symbol.classified (.statement .body) result).expand dialect last =
      .consume [.declarationEnd .body] := by
    simp [Symbol.expand, expandClassified, isName, mayBeType]
  -- An initial value completes the declaration, to have a statement whose derivation is known.
  have initialized : Works dialect stop
      ([.declarationEnd .body], [sign, value, semicolon] ++ [semicolon]) ([], [semicolon]) := by
    refine works_exactly_iff.mpr ?_
    have opens : (Symbol.declarationEnd .body).expand dialect sign =
        .replace [.token .assign, .expression true, .token .semicolon] := by
      simp [Symbol.expand, expandDeclarationEnd, afterStatement, isSign]
    have takes : (Symbol.expression true).expand dialect value = .consume [.expressionEnd] := by
      simp [Symbol.expand, expandExpression, isValue, TokenKind.isPrefixOperator,
        TokenKind.isLiteral]
    have ends : Symbol.expressionEnd.expand dialect semicolon = .replace [] := by
      simp [Symbol.expand, expandExpressionEnd, isSemicolon, TokenKind.isInfixOperator]
    exact .replace opens (accepts_token isSign (.consume takes (.replace ends
      (accepts_token isSemicolon (accepts_agendaOf [semicolon])))))
  have works : Works dialect stop ([.reference (.statement .body)],
      (t ++ [last, sign, value, semicolon]) ++ [semicolon]) ([], [semicolon]) := by
    rw [List.append_assoc]
    exact ((classifies.exchange _ (.statement .body)).tail (.consume names)).trans initialized
  refine derives_of_works stops rfl ?_ ?_ works
  · simp [Token.Legal, isSemicolon, TokenKind.isExtendedOnly]
  · exact fun ts us means => means

/-- **What may be a type, in front of a name, is the type of a variable.** Read at the beginning of
a statement it is followed by the name and an initial value. The statement is a declaration, since
each other one goes on behind its type-or-reference with another kind of token. -/
theorem Classifies.declared (stops : stop.kind = .eot) (isName : last.kind = .ident)
    (classifies : Classifies dialect stop (t ++ last :: after) result (last :: after))
    (mayBeType : result.canBeType = true) : Derives dialect (phrase .declared) t [] := by
  let sign : Token := ⟨.assign, "=", last.position⟩
  let value : Token := ⟨.literal .int, "0", last.position⟩
  let semicolon : Token := ⟨.semicolon, ";", last.position⟩
  have simple : Derives dialect (phrase .simple) (t ++ [last, sign, value, semicolon]) [] :=
    classifies.simple_of_name stops isName rfl rfl rfl mayBeType
  -- each alternative says with which token it goes on where the type-or-reference ends
  have ends := classifies.exchange [sign, value, semicolon]
  rcases simple.rule.reads with ⟨_, declared, _, ⟨name, isOther, rfl⟩, -⟩ |
    ⟨_, target, _, ⟨other, among, rfl⟩, -⟩ | ⟨_, target, _, ⟨other, isOther, rfl⟩, -⟩ |
    ⟨_, call, _, ⟨other, isOther, rfl⟩, -⟩ | never
  · have isOther : name.kind = .ident := isOther
    exact (ends.ends stops (by decide) (.of_reads declared)
      (by simp [Dialect.startsSuffix, isOther])).2
  · obtain ⟨isOther, -⟩ := sign_of_assignment among
    have isOther : other.kind = .assign ∨ other.kind = .compoundAssign ∨ other.kind = .incDec := by
      simpa using isOther
    obtain ⟨rfl, -⟩ := ends.ends stops (by decide) (.of_reads target)
      (by rcases isOther with here | here | here <;> simp [Dialect.startsSuffix, here])
    simp [isName] at isOther
  · have isOther : other.kind = .incDec := isOther
    obtain ⟨rfl, -⟩ := ends.ends stops (by decide) (.of_reads target)
      (by simp [Dialect.startsSuffix, isOther])
    cases isName.symm.trans isOther
  · have isOther : other.kind = .semicolon := isOther
    obtain ⟨rfl, -⟩ := ends.ends stops (by decide) (.of_reads call)
      (by simp [Dialect.startsSuffix, isOther])
    cases isName.symm.trans isOther
  · exact never.elim

end Phrases

end MiniJ
