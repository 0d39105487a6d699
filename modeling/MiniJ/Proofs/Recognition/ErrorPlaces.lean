import MiniJ.Proofs.Recognition.Origins
import MiniJ.Proofs.Recognition.Streaming
import MiniJ.Proofs.Scanning.Tiling

/-!
# Where a syntax error points

A syntax error is located at the token in view, with three exceptions that are located at a token
before it (`PointsBack`): a type where a value is needed is at fault from its first token on, an
operator in front of a type is at fault itself, and `void` in front of several names is reported at
the first of them. What stands between that token and the one in view is known then, because the
symbol that remembers the token is behind the work that began there (`Works.originates`).

The main statement is `syntax_error_points`.
-/

set_option autoImplicit false

namespace MiniJ

open Grammar

/-! ## Judged types-or-references -/

section Judged

variable {dialect : Dialect} {stop : Token} {ts us : List Token} {result : Classification}

/-- What is read for a judgement only is classified where the judgement stands. -/
theorem Works.classifies {purpose : Purpose} {error : SyntaxError}
    (judges : ∀ result current, (Symbol.classified purpose result).expand dialect current =
      if result = .type then .reject error else .replace [])
    (works : Works dialect stop ([.reference purpose], ts) ([.classified purpose result], us)) :
    Classifies dialect stop ts result us := by
  rcases works.through_reference with ⟨inner, reading, shape, all⟩ |
    ⟨other, vs, classifies, further⟩
  · obtain ⟨rfl, same⟩ : inner = [] ∧ reading.symbol purpose = .classified purpose result := by
      have shape : [] ++ [Symbol.classified purpose result] =
        inner ++ [reading.symbol purpose] := shape
      obtain ⟨rfl, same⟩ := List.append_inj' shape rfl
      exact ⟨rfl, (List.cons.inj same).1.symm⟩
    cases reading with
    | classified other =>
        cases same
        exact all
    | start | suffixes | insideBrackets => cases same
  · rcases Works.of_judged (judges other) further with same | isOver
    · cases same
      exact classifies
    · cases isOver

/-- A type-or-reference begins with the token in front. -/
theorem Classifies.exists_front {first : Token} (classifies : Classifies dialect stop ts result us)
    (front : frontOf stop ts = first) : ∃ rest, ts = first :: rest ++ us := by
  obtain ⟨read, rfl⟩ := Works.suffix (classifies (.update stop))
  have less := classifies.length_lt
  cases read with
  | nil => exact absurd less (Nat.lt_irrefl _)
  | cons token rest =>
      cases front
      exact ⟨rest, rfl⟩

end Judged

/-! ## Names behind `void` -/

/-- Further names, each behind a comma. -/
inductive MoreNames : List Token → Prop
  | nil : MoreNames []
  | snoc {names : List Token} {comma name : Token} :
      MoreNames names → comma.kind = .comma → name.kind = .ident →
      MoreNames (names ++ [comma, name])

/-- How far the names of a member without a type have come. -/
inductive NamesRead (ts : List Token) : List Symbol × List Token → Prop
  | start : NamesRead ts ([.memberName true], ts)
  /-- A first name and further ones were read. -/
  | names {first : Token} {names us : List Token} {several : Bool} :
      ts = first :: (names ++ us) → first.kind = .ident → MoreNames names →
      (several = true ↔ names ≠ []) → NamesRead ts ([.memberEnd true first several], us)
  /-- A comma was read, too. -/
  | comma {first comma : Token} {names us : List Token} :
      ts = first :: (names ++ comma :: us) → first.kind = .ident → MoreNames names →
      comma.kind = .comma → NamesRead ts ([.token .ident, .memberEnd true first true], us)

section Names

variable {dialect : Dialect} {stop : Token} {ts : List Token}
  {here there : List Symbol × List Token}

/-- One step on the names reads one more token of them, or no name goes on. -/
theorem NamesRead.step (reads : NamesRead ts here) (step : WorkStep dialect stop here there)
    (remembers : ∃ inner last, there.1 = inner ++ [last] ∧
      last.origin? = some (.memberName true)) : NamesRead ts there := by
  cases reads with
  | start =>
      cases step with
      | @consume _ _ _ current tokens expands =>
          simp only [Symbol.expand] at expands
          split at expands
          · rename_i isName
            cases expands
            exact .names rfl isName .nil (by simp)
          · cases expands
      | replace expands | announce expands =>
          simp only [Symbol.expand] at expands
          split at expands <;> cases expands
  | @names first names us several split isName more counts =>
      cases step with
      | @consume _ symbols _ current tokens expands =>
          simp only [Symbol.expand, expandMemberEnd] at expands
          split at expands
          · rename_i isComma
            cases expands
            exact .comma split isName more isComma
          · -- nothing else is consumed behind `void`
            repeat' split at expands
            all_goals first | (cases expands; done) | simp_all
      | @replace _ symbols _ tokens expands =>
          -- a method begins, and its symbols do not go on with the name
          obtain ⟨inner, last, shape, same⟩ := remembers
          simp only [Symbol.expand, expandMemberEnd] at expands
          repeat' split at expands
          all_goals cases expands
          have shape : [Symbol.announce (.methodNamed first), .token .lParen, .parameters,
            .throwsClause] ++ [Symbol.block] = inner ++ [last] := shape
          obtain ⟨-, isBlock⟩ := List.append_inj' shape rfl
          cases isBlock
          cases same
      | announce expands =>
          simp only [Symbol.expand, expandMemberEnd] at expands
          repeat' split at expands
          all_goals cases expands
  | @comma first sign names us split isName more isComma =>
      cases step with
      | @consume _ _ _ current tokens expands =>
          simp only [Symbol.expand] at expands
          split at expands
          · rename_i isOther
            cases expands
            have further := more.snoc isComma (List.mem_singleton.mp isOther)
            exact .names (by simp [split]) isName further (by simp)
          · cases expands
      | replace expands | announce expands =>
          simp only [Symbol.expand] at expands
          split at expands <;> cases expands

theorem Pursues.namesRead (pursues : Pursues dialect stop (.memberName true) ts there) :
    NamesRead ts there := by
  induction pursues with
  | refl => exact .start
  | tail _ both ih => exact ih.step both.1 both.2

end Names

/-! ## Errors of one expansion -/

/-- Whether a violation may be located at a token that was consumed. Of one that is only stated in
words this is not known. -/
def Violation.mayPointBack : Violation → Bool
  | typeAsValue _ | updateOfType _ | voidField | stated _ _ => true
  | _ => false

/-- At which token an expansion finds an error. -/
inductive Symbol.RejectsAt (current : Token) (error : SyntaxError) : Symbol → Prop
  /-- At the token in front. -/
  | front {symbol : Symbol} : error.position = current.position →
      error.violation.mayPointBack = false → RejectsAt current error symbol
  /-- At the token in front, for the only name of a field without a type. -/
  | oneName {first : Token} : error = .located .voidField current →
      RejectsAt current error (.memberEnd true first false)
  /-- At the first of several such names. -/
  | severalNames {first : Token} : error = .located .voidField first →
      RejectsAt current error (.memberEnd true first true)
  /-- At the first token of a type where a value is needed. -/
  | operand {first : Token} : error = .located (.typeAsValue first) first →
      RejectsAt current error (.classified (.operand first) .type)
  /-- At the operator in front of a type. -/
  | update {operator : Token} : error = .located (.updateOfType operator) operator →
      RejectsAt current error (.classified (.update operator) .type)

section Errors

open MiniJ.Symbol

variable {dialect : Dialect} {current : Token} {error : SyntaxError}

theorem rejectsAt_of_classified {purpose : Purpose} {result : Classification}
    (rejects : expandClassified purpose result current = .reject error) :
    (classified purpose result).RejectsAt current error := by
  cases purpose with
  | operand first =>
      simp only [expandClassified] at rejects
      split at rejects
      · rename_i isType
        cases rejects
        subst isType
        exact .operand rfl
      · cases rejects
  | update operator =>
      simp only [expandClassified] at rejects
      split at rejects
      · rename_i isType
        cases rejects
        subst isType
        exact .update rfl
      · cases rejects
  | statement place | forUpdate =>
      simp only [expandClassified, assign, standAlone] at rejects
      repeat' split at rejects
      all_goals cases rejects
      all_goals exact .front rfl rfl

theorem rejectsAt_of_memberEnd {isVoid several : Bool} {first : Token}
    (rejects : expandMemberEnd dialect isVoid first several current = .reject error) :
    (memberEnd isVoid first several).RejectsAt current error := by
  cases isVoid with
  | false =>
      simp only [expandMemberEnd, Bool.false_and, Bool.false_eq_true, if_false] at rejects
      repeat' split at rejects
      all_goals cases rejects
      all_goals exact .front rfl rfl
  | true =>
      cases several with
      | true =>
          simp only [expandMemberEnd, Bool.true_and, if_true] at rejects
          split at rejects <;> cases rejects
          exact .severalNames rfl
      | false =>
          simp only [expandMemberEnd, Bool.and_false, Bool.false_eq_true, if_false,
            if_true] at rejects
          repeat' split at rejects
          all_goals cases rejects
          all_goals first | exact .oneName rfl | exact .front rfl rfl

/-- **Where one expansion finds an error.** -/
theorem Symbol.rejectsAt {symbol : Symbol}
    (rejects : symbol.expand dialect current = .reject error) :
    symbol.RejectsAt current error := by
  cases symbol with
  | classified purpose result => exact rejectsAt_of_classified rejects
  | memberEnd isVoid first several => exact rejectsAt_of_memberEnd rejects
  | _ =>
      simp only [expand, expandType, expandTypeSuffixes, expandReference, expandSuffixes,
        expandInsideBrackets, expandExpression, expandExpressionEnd, expandConstructorArguments,
        expandStatementBody, expandDeclarationEnd, expandForUpdate, expandTryEnd, expandImportName,
        Grammar.optional] at rejects
      repeat' split at rejects
      all_goals cases rejects
      all_goals exact .front rfl rfl

/-- **What one expansion finds**: a violation that is located at a token, in no construct yet. Only
the end of the head of a member finds fault with a member. -/
theorem Symbol.exists_located {symbol : Symbol}
    (rejects : symbol.expand dialect current = .reject error) :
    ∃ violation place, error = .located violation place ∧
      (violation.code = .invalidMember →
        ∃ isVoid first several, symbol = .memberEnd isVoid first several) := by
  cases symbol with
  | memberEnd isVoid first several =>
      have isEnd (violation : Violation) : violation.code = .invalidMember →
          ∃ here name many, memberEnd isVoid first several = .memberEnd here name many :=
        fun _ => ⟨isVoid, first, several, rfl⟩
      simp only [expand, expandMemberEnd] at rejects
      repeat' split at rejects
      all_goals cases rejects
      all_goals exact ⟨_, _, rfl, isEnd _⟩
  | _ =>
      simp only [expand, expandType, expandTypeSuffixes, expandReference, expandSuffixes,
        expandInsideBrackets, expandClassified, assign, standAlone, expandExpression,
        expandExpressionEnd, expandConstructorArguments, expandStatementBody, expandDeclarationEnd,
        expandForUpdate, expandTryEnd, expandImportName, Grammar.optional] at rejects
      repeat' split at rejects
      all_goals cases rejects
      all_goals exact ⟨_, _, rfl, fun member => by cases member⟩

end Errors

/-! ## The three exceptions -/

/-- That consumed tokens end with `void` and several names, the first of which is given. -/
def SeveralNames (before : List Token) (first : Token) : Prop :=
  ∃ earlier word names, before = earlier ++ word :: first :: names ∧
    word.kind = .keyword .void_ ∧ first.kind = .ident ∧ MoreNames names ∧ names ≠ []

/-- What is written of the errors that do not point at the token in view. -/
def PointsBack (before : List Token) (code message : String) : Prop :=
  code = "E1006" ∨
    (code = "E1004" ∧ ∃ operator, message = "Operator " ++ operator ++ " not valid for Type") ∨
    (code = "E1003" ∧ message = "void keyword not allowed in field declaration" ∧
      ∃ first, SeveralNames before first)

/-- At which consumed token such an error points, and what stands between it and the tokens
ahead. -/
inductive PointsBackAt (dialect : Dialect) (stop : Token) (before ahead : List Token)
    (code message : String) : Token → Prop
  /-- The first token of a type where a value is needed. -/
  | typeAsValue {earlier type : List Token} {first : Token} :
      code = "E1006" → before = earlier ++ first :: type →
      Classifies dialect stop (first :: type ++ ahead) .type ahead →
      PointsBackAt dialect stop before ahead code message first
  /-- The operator in front of a type. -/
  | updateOfType {earlier type : List Token} {operator : Token} :
      code = "E1004" → message = "Operator " ++ operator.text ++ " not valid for Type" →
      operator.kind = .incDec → before = earlier ++ operator :: type → type ≠ [] →
      Classifies dialect stop (type ++ ahead) .type ahead →
      PointsBackAt dialect stop before ahead code message operator
  /-- The first of several names behind `void`. -/
  | voidNames {first : Token} :
      code = "E1003" → message = "void keyword not allowed in field declaration" →
      SeveralNames before first → PointsBackAt dialect stop before ahead code message first

theorem PointsBackAt.pointsBack {dialect : Dialect} {stop token : Token}
    {before ahead : List Token} {code message : String}
    (points : PointsBackAt dialect stop before ahead code message token) :
    token ∈ before ∧ PointsBack before code message := by
  cases points with
  | typeAsValue same split => exact ⟨by simp [split], .inl same⟩
  | updateOfType same worded _ split => exact ⟨by simp [split], .inr (.inl ⟨same, _, worded⟩)⟩
  | voidNames same worded several =>
      refine ⟨?_, .inr (.inr ⟨same, worded, _, several⟩)⟩
      obtain ⟨earlier, word, names, rfl, -⟩ := several
      simp

/-- A violation that may not point back is none of the three. -/
theorem not_pointsBack {violation : Violation} (here : violation.mayPointBack = false)
    (before : List Token) : ¬ PointsBack before violation.code.text violation.message := by
  rintro (code | ⟨code, operator, worded⟩ | ⟨code, worded, -⟩)
  · cases violation with
    | typeAsValue | updateOfType | voidField | stated => cases here
    | _ => simp [Violation.code, ErrorCode.text] at code
  · -- where the codes agree, the texts begin with other letters
    have first : violation.message.toList.head? = some 'O' := by
      rw [worded, String.toList_append, String.toList_append]
      rfl
    cases violation with
    | typeAsValue | updateOfType | voidField | stated => cases here
    | assignmentToType sign =>
        have text : (Violation.assignmentToType sign).message.toList.head? = some 'T' := by
          change ("Type missing identifier; unexpected token " ++ sign.description).toList.head? = _
          rw [String.toList_append]
          rfl
        cases text.symm.trans first
    | assignmentToValue => exact absurd first (by decide)
    | _ => simp [Violation.code, ErrorCode.text] at code
  · cases violation with
    | typeAsValue | updateOfType | voidField | stated => cases here
    | parametersAfterNames | fieldInitializer => exact absurd worded (by decide)
    | _ => simp [Violation.code, ErrorCode.text] at code

/-! ## The error that ends a run -/

theorem SyntaxError.before_eq (error : SyntaxError) (agenda : List Symbol) :
    (error.before agenda).violation = error.violation ∧
      (error.before agenda).position = error.position := by
  rw [SyntaxError.before]
  split <;> exact ⟨rfl, rfl⟩

/-- A comma is no `void`, so behind `void` and one name there are not several. -/
theorem not_severalNames {earlier : List Token} {word first other : Token}
    (isVoid : word.kind = .keyword .void_) : ¬ SeveralNames (earlier ++ [word, first]) other := by
  rintro ⟨before, sign, names, split, -, -, more, several⟩
  cases more with
  | nil => exact several rfl
  | @snoc names comma name more isComma isName =>
      have split : earlier ++ [word, first] =
          (before ++ sign :: other :: names) ++ [comma, name] := by simpa using split
      obtain ⟨-, same⟩ := List.append_inj' split rfl
      cases same
      cases isComma.symm.trans isVoid

section Rejection

variable {dialect : Dialect} {stop : Token} {words before ahead : List Token} {symbol : Symbol}
  {pending : List Symbol} {found : SyntaxError}

/-- Work in front of the end of a member without a type has read `void` and the names, as many as
the symbol says. -/
theorem Works.exists_voidNames {first : Token} {several : Bool}
    (works : Works dialect stop ([.program], words) (.memberEnd true first several :: pending, ahead))
    (split : words = before ++ ahead) :
    ∃ earlier word names, before = earlier ++ word :: first :: names ∧
      word.kind = .keyword .void_ ∧ first.kind = .ident ∧ MoreNames names ∧
      (several = true ↔ names ≠ []) := by
  obtain ⟨_, ts, whole, ⟨earlier, word, rfl, isVoid⟩, pursues⟩ :=
    works.originates [] _ pending _ rfl rfl
  cases pursues.namesRead with
  | @names _ names _ _ all isName more counts =>
      refine ⟨earlier, word, names, ?_, isVoid, isName, more, counts⟩
      rw [split, all] at whole
      exact List.append_cancel_right (by simpa using whole)

/-- **Where the symbol that ends the work finds the error**: at the token in view, or at a token
before it that the symbol remembers from its origin. -/
theorem Works.rejects_at (works : Works dialect stop ([.program], words) (symbol :: pending, ahead))
    (split : words = before ++ ahead)
    (rejects : symbol.expand dialect (frontOf stop ahead) = .reject found) :
    (found.position = (frontOf stop ahead).position ∧
        ¬ PointsBack before found.code.text found.message) ∨
      ∃ token, found.position = token.position ∧
        PointsBackAt dialect stop before ahead found.code.text found.message token := by
  have origin := works.originates [] symbol pending
  -- what was read behind a part of the consumed tokens are the others of them
  have others {earlier read : List Token} (whole : words = earlier ++ (read ++ ahead)) :
      before = earlier ++ read := by
    rw [split, ← List.append_assoc] at whole
    exact List.append_cancel_right whole
  have rejectsAt := symbol.rejectsAt rejects
  generalize frontOf stop ahead = current at rejectsAt ⊢
  cases rejectsAt with
  | front position here => exact .inl ⟨position, not_pointsBack here before⟩
  | @oneName first same =>
      left
      subst same
      refine ⟨rfl, ?_⟩
      obtain ⟨earlier, word, names, rfl, isVoid, -, -, counts⟩ := works.exists_voidNames split
      obtain rfl : names = [] := by simpa using counts
      rintro (code | ⟨code, -⟩ | ⟨-, -, other, several⟩)
      · exact absurd (show "E1003" = "E1006" from code) (by decide)
      · exact absurd (show "E1003" = "E1004" from code) (by decide)
      · exact not_severalNames isVoid several
  | @severalNames first same =>
      right
      subst same
      obtain ⟨earlier, word, names, read, isVoid, isName, more, counts⟩ :=
        works.exists_voidNames split
      exact ⟨first, rfl, .voidNames rfl rfl ⟨earlier, word, names, read, isVoid, isName, more,
        counts.mp rfl⟩⟩
  | @operand first same =>
      right
      subst same
      obtain ⟨earlier, ts, whole, front, pursues⟩ := origin _ rfl rfl
      have classifies := Works.classifies (fun _ _ => rfl) pursues.works
      obtain ⟨type, rfl⟩ := classifies.exists_front front
      exact ⟨first, rfl, .typeAsValue rfl (others whole) classifies⟩
  | @update operator same =>
      right
      subst same
      obtain ⟨_, ts, whole, ⟨isSign, earlier, rfl⟩, pursues⟩ := origin _ rfl rfl
      have classifies := Works.classifies (fun _ _ => rfl) pursues.works
      obtain ⟨first, type, rfl⟩ : ∃ first type, ts = first :: type ++ ahead :=
        ⟨_, classifies.exists_front rfl⟩
      have read : before = earlier ++ [operator] ++ first :: type := others whole
      rw [List.append_assoc] at read
      exact ⟨operator, rfl, .updateOfType rfl rfl isSign read (List.cons_ne_nil _ _) classifies⟩

end Rejection

/-- A parse that ends with an error is work up to the symbol that finds it, in front of the tokens
that were not consumed. -/
theorem exists_reject_of_parse {dialect : Dialect} {source : Source} {file : Option String}
    {error : SyntaxError} (rejected : (parse dialect source file).verdict = .rejected error) :
    ∃ symbol pending found before ahead,
      (lex dialect source).words = before ++ ahead ∧
      before.length = (parse dialect source file).cursor.consumed ∧
      Works dialect (Scanner.start dialect source).stop ([.program], (lex dialect source).words)
        (symbol :: pending, ahead) ∧
      symbol.expand dialect (frontOf (Scanner.start dialect source).stop ahead) = .reject found ∧
      found.before pending = error := by
  have guarded : ∀ symbol ∈ [Symbol.program], symbol.isGuarded = true := by decide
  obtain ⟨same, -, count⟩ := @run_eq_runOn dialect (Recognizer.stepBound source.size) _
    (.opening dialect source file) guarded
  rw [parse_eq_run (Nat.le_refl _) file] at rejected ⊢
  simp only at rejected
  rw [TokenCursor.last_opening, TokenCursor.ahead_opening, rejected] at same
  obtain ⟨symbol, pending, found, works, rejects, ends⟩ :=
    exists_reject_of_runOn (Scanner.kind_stop _) guarded same
  obtain ⟨before, split⟩ := Works.suffix works
  refine ⟨symbol, pending, found, before, _, split.symm, ?_, works, rejects, ends⟩
  have begins : (TokenCursor.opening dialect source file).consumed = 0 := rfl
  have lengths := congrArg List.length split
  simp only [List.length_append] at lengths
  rw [TokenCursor.ahead_opening, begins] at count
  rw [(conclude_eq _ _).2.1]
  omega

/-- A violation of the grammar that is reported is the one that ended the parse. -/
theorem exists_rejected_of_reported {dialect : Dialect} {source : Source} {file : Option String}
    {diagnostic : Diagnostic} (reported : diagnostic ∈ (parse dialect source file).reports)
    (syntactic : diagnostic.code.IsE1) :
    ∃ error, (parse dialect source file).verdict = .rejected error ∧
      diagnostic = error.diagnostic.under file := by
  have ends := parse_reports dialect source file
  -- what is reported while scanning has another code
  have other (faults : List LexicalFault) :
      diagnostic ∉ faults.map fun fault => fault.diagnostic.under file := by
    intro member
    obtain ⟨fault, -, rfl⟩ := List.mem_map.mp member
    exact fault.not_isE1 syntactic
  obtain ⟨-, -, all⟩ | ⟨error, rejected, -, all⟩ := ends
  · rw [all] at reported
    exact absurd reported (other _)
  · rw [all, List.mem_append, List.mem_singleton] at reported
    rcases reported with lexical | same
    · exact absurd lexical (other _)
    · exact ⟨error, rejected, same⟩

/-- A syntax error that is reported was found where the work of the parse was stuck, in front of the
tokens that were not consumed. It names a construct only in addition. -/
theorem exists_reject_of_reported {dialect : Dialect} {source : Source} {file : Option String}
    {diagnostic : Diagnostic} (reported : diagnostic ∈ (parse dialect source file).reports)
    (syntactic : diagnostic.code.IsE1) :
    ∃ symbol pending found before ahead,
      (lex dialect source).words = before ++ ahead ∧
      before.length = (parse dialect source file).cursor.consumed ∧
      Works dialect (Scanner.start dialect source).stop ([.program], (lex dialect source).words)
        (symbol :: pending, ahead) ∧
      symbol.expand dialect (frontOf (Scanner.start dialect source).stop ahead) = .reject found ∧
      diagnostic = (found.before pending).diagnostic.under file ∧
      diagnostic.code = found.code ∧ diagnostic.message = found.message ∧
      diagnostic.position = some found.position := by
  obtain ⟨error, rejected, rfl⟩ := exists_rejected_of_reported reported syntactic
  obtain ⟨symbol, pending, found, before, ahead, split, count, works, rejects, rfl⟩ :=
    exists_reject_of_parse rejected
  obtain ⟨violation, position⟩ := found.before_eq pending
  exact ⟨symbol, pending, found, before, ahead, split, count, works, rejects, rfl,
    congrArg Violation.code violation, congrArg Violation.message violation,
    congrArg some position⟩

/-- **Where a syntax error points.** The tokens of a text are those that were consumed and those
ahead, of which the first is in view. Every syntax error that is reported points at the token in
view, but for a type where a value is needed, for an operator in front of a type and for `void` in
front of several names: these three point at a token that was consumed, which stands strictly
before the one in view. -/
theorem syntax_error_points (dialect : Dialect) (source : Source) (file : Option String)
    (diagnostic : Diagnostic) (reported : diagnostic ∈ (parse dialect source file).reports)
    (syntactic : diagnostic.code.IsE1) :
    let stop := (Scanner.start dialect source).stop
    let current := (parse dialect source file).cursor.current
    let code := diagnostic.code.text
    let message := diagnostic.message
    ∃ before ahead position,
      (lex dialect source).words = before ++ ahead ∧
      before.length = (parse dialect source file).cursor.consumed ∧
      current = frontOf stop ahead ∧
      diagnostic.position = some position ∧
      ((¬ PointsBack before code message ∧ position = current.position) ∨
        (PointsBack before code message ∧
          ∃ token ∈ before, PointsBackAt dialect stop before ahead code message token ∧
            position = token.position ∧ position.Before current.position)) := by
  obtain ⟨symbol, pending, found, before, ahead, split, count, works, rejects, -, code, message,
    position⟩ := exists_reject_of_reported reported syntactic
  have tokens : (lex dialect source).tokens =
      before ++ (ahead ++ [(Scanner.start dialect source).stop]) := by
    rw [tokens_lex, split, List.append_assoc]
  have current : (parse dialect source file).cursor.current =
      frontOf (Scanner.start dialect source).stop ahead := by
    have shown := parse_shows dialect source file
    rw [← count, tokens, List.getElem?_append_right (Nat.le_refl _), Nat.sub_self] at shown
    cases ahead <;> exact (Option.some.inj shown).symm
  refine ⟨before, ahead, found.position, split, count, current, position, ?_⟩
  rw [current]
  simp only [code, message]
  rcases works.rejects_at split rejects with ⟨here, plain⟩ | ⟨token, there, points⟩
  · exact .inl ⟨plain, here⟩
  · obtain ⟨consumed, back⟩ := points.pointsBack
    refine .inr ⟨back, token, consumed, points, there, ?_⟩
    -- the tokens of a text stand one behind the other
    obtain ⟨pieces, last, tiling⟩ := exists_tiling dialect source
    have ordered := tiling.positions_ordered
    rw [tokens, List.pairwise_append] at ordered
    rw [there]
    refine ordered.2.2 token consumed _ ?_
    cases ahead <;> simp

/-- Two names behind `void`: the error points at the first of them, and `;` is in view. -/
theorem syntax_error_points_names :
    let source := Source.ofString "class A \x7b void x, y; \x7d"
    let error := (SyntaxError.located .voidField ⟨.ident, "x", ⟨1, 16⟩⟩).within .memberDeclaration
    let diagnostic := error.diagnostic
    let outcome := parse .mini source none
    diagnostic ∈ outcome.reports ∧ diagnostic.code.IsE1 ∧
      ∃ before ahead position,
        (lex .mini source).words = before ++ ahead ∧
        before.length = outcome.cursor.consumed ∧
        outcome.cursor.current = frontOf (Scanner.start .mini source).stop ahead ∧
        diagnostic.position = some position ∧
        ((¬ PointsBack before diagnostic.code.text diagnostic.message ∧
            position = outcome.cursor.current.position) ∨
          (PointsBack before diagnostic.code.text diagnostic.message ∧
            ∃ token ∈ before,
              PointsBackAt .mini (Scanner.start .mini source).stop before ahead
                diagnostic.code.text diagnostic.message token ∧
              position = token.position ∧
              position.Before outcome.cursor.current.position)) := by
  intro source error diagnostic outcome
  have reports : outcome.reports = [diagnostic] := by decide +kernel
  have reported : diagnostic ∈ outcome.reports := by
    rw [reports]
    exact List.mem_cons_self
  have syntactic : diagnostic.code.IsE1 := (ErrorCode.isE1_iff _).mpr rfl
  exact ⟨reported, syntactic,
    syntax_error_points .mini source none diagnostic reported syntactic⟩

end MiniJ
