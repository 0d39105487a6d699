import MiniJ.Proofs.Language.Completeness.Statements

/-!
# Programs are accepted

The rules for declarations and for programs keep the property of their phrases, as those for
expressions and statements do. Derivations are the least relations that the rules keep, so every
program is accepted (`Language.accepts_of_isProgram`).

Where a rule leaves a choice, the token in front has to settle it the same way. That is not read off
the grammar again: the part that a rule takes is accepted, and an accepted symbol says with which
tokens it may begin.
-/

set_option autoImplicit false

namespace MiniJ

namespace Language

open Ebnf Grammar

variable {dialect : Dialect} {stop : Token} {rest : List Symbol} {ts us vs : List Token}

/-! ## Names and markers -/

/-- Further names of a dotted name are all taken. -/
theorem accepts_dottedNames (names : Takes dialect stop (many dotted) ts us)
    (free : (frontOf stop us).kind ≠ .dot) (accepts : Accepts dialect stop rest us) :
    Accepts dialect stop (.dottedNames :: rest) ts := by
  induction names using Relation.ReflTransGen.head_induction_on with
  | refl => exact accepts_missing (fun _ => rfl) free accepts
  | head once _ ih =>
      refine accepts_dotted once (fun current isDot => ?_) ih
      simp [Symbol.expand, Grammar.optional, isDot]

theorem accepts_modifiers (row : Takes dialect stop (many (tok .modifier)) ts us)
    (free : (frontOf stop us).kind ≠ .modifier) (accepts : Accepts dialect stop rest us) :
    Accepts dialect stop (.modifiers :: rest) ts := by
  induction row using Relation.ReflTransGen.head_induction_on with
  | refl => exact accepts_missing (fun _ => rfl) free accepts
  | head once _ ih =>
      obtain ⟨modifier, here, rfl⟩ := once
      exact accepts_present (fun _ => rfl) here ih

theorem accepts_markers (row : Takes dialect stop markers ts us)
    (free : (frontOf stop us).kind ∉ [.protection, .modifier])
    (accepts : Accepts dialect stop rest us) : Accepts dialect stop (.markers :: rest) ts := by
  obtain ⟨vs, protection, _, modifiers, rfl⟩ := row
  have behind := accepts_modifiers modifiers (by simp_all) accepts
  rcases protection with ⟨sign, (here : sign.kind = .protection), rfl⟩ | none
  · have expands : Symbol.markers.expand dialect sign = .consume [.modifiers] := by
      rw [Symbol.expand, if_pos here]
    exact .consume expands behind
  · obtain rfl : ts = vs := none
    -- without a protection the first token is a modifier or stands behind the markers
    have noProtection : (frontOf stop ts).kind ≠ .protection := by
      cases Relation.ReflTransGen.cases_head modifiers with
      | inl isOver =>
          rw [isOver]
          simp_all
      | inr some =>
          obtain ⟨_, ⟨modifier, (here : modifier.kind = .modifier), rfl⟩, _⟩ := some
          rw [frontOf_cons, here]
          decide
    have expands : Symbol.markers.expand dialect (frontOf stop ts) = .replace [.modifiers] := by
      rw [Symbol.expand, if_neg noProtection]
    exact .replace expands behind

/-- A clause that names a type, which only the extended dialect has. -/
theorem accepts_typeClause {symbol : Symbol} {keyword : Keyword}
    (same : ∀ current, symbol.expand dialect current =
      Grammar.optional (.keyword keyword) [.type false] current)
    (row : Takes dialect stop (inExtended dialect (opt (seq [word keyword, phrase .nominal])))
      ts us)
    (brace : (frontOf stop us).kind = .lBrace) (accepts : Accepts dialect stop rest us) :
    Accepts dialect stop (symbol :: rest) ts := by
  cases dialect with
  | mini =>
      obtain rfl : ts = us := row
      exact accepts_missing same (by simp [brace]) accepts
  | extended =>
      rcases row with ⟨_, ⟨sign, here, rfl⟩, _, type, rfl⟩ | none
      · exact accepts_present same here
          (type false _ (fun _ => rfl) accepts (by simp [brace]) (by simp [brace]))
      · obtain rfl : ts = us := none
        exact accepts_missing same (by simp [brace]) accepts

/-! ## Parameters -/

/-- A parameter in front of what may follow it. -/
theorem accepts_parameter (row : Takes dialect stop (parameter dialect) ts us)
    (accepts : Accepts dialect stop (.parametersEnd :: rest) us) :
    Accepts dialect stop (.parameter :: rest) ts := by
  obtain ⟨vs, type, ws, dots, xs, ⟨name, (isName : name.kind = .ident), rfl⟩, rfl⟩ := row
  have named : Accepts dialect stop (.token .ident :: .parametersEnd :: rest) (name :: xs) :=
    accepts_token isName accepts
  refine .replace rfl ?_
  -- without an ellipsis both dialects read the name behind the type
  have plain (isOver : vs = name :: xs) : Accepts dialect stop
      (.type true :: .ellipsis :: .token .ident :: .parametersEnd :: rest) ts := by
    subst isOver
    have behind : Accepts dialect stop
        (.ellipsis :: .token .ident :: .parametersEnd :: rest) (name :: xs) :=
      accepts_missing (fun _ => rfl) (by simp [isName]) named
    exact type _ behind (by simp [isName])
  cases dialect with
  | mini => exact plain dots
  | extended =>
      rcases dots with ⟨sign, (here : sign.kind = .ellipsis), rfl⟩ | none
      · exact type _ (accepts_present (fun _ => rfl) here named) (by simp [here])
      · exact plain none

theorem accepts_parametersEnd {closing : Token} (isClosing : closing.kind = .rParen)
    (others : Takes dialect stop (many (seq [tok .comma, parameter dialect])) ts (closing :: us))
    (accepts : Accepts dialect stop rest us) :
    Accepts dialect stop (.parametersEnd :: rest) ts := by
  induction others using Relation.ReflTransGen.head_induction_on with
  | refl =>
      have expands : Symbol.parametersEnd.expand dialect closing = .replace [.token .rParen] := by
        simp [Symbol.expand, isClosing]
      exact .replace expands (accepts_token isClosing accepts)
  | head once _ ih =>
      obtain ⟨_, ⟨comma, (isComma : comma.kind = .comma), rfl⟩, _, parameter, rfl⟩ := once
      have expands : Symbol.parametersEnd.expand dialect comma = .consume [.parameter] := by
        rw [Symbol.expand, if_pos isComma]
      exact .consume expands (accepts_parameter parameter ih)

theorem parameters_accepting (row : Takes dialect stop (rule dialect .parameters) ts us) :
    Accepting dialect stop .parameters ts us := by
  intro rest accepts
  obtain ⟨vs, ⟨opening, isOpening, rfl⟩, _, list, _,
    ⟨closing, (isClosing : closing.kind = .rParen), rfl⟩, rfl⟩ := row
  apply accepts_token isOpening
  rcases list with ⟨_, first, _, others, rfl⟩ | none
  · have inside : Accepts dialect stop (.parameter :: .close .parameters :: rest) vs :=
      accepts_parameter first (accepts_parametersEnd isClosing others (accepts_close accepts))
    have notOver : (frontOf stop vs).kind ≠ .rParen := by
      have expands : Symbol.parameter.expand dialect (frontOf stop vs) =
          .replace [.type true, .ellipsis, .token .ident, .parametersEnd] := rfl
      exact ((accepts_replace expands).mp inside).front_ne_of_type rfl
    have expands : Symbol.parameters.expand dialect (frontOf stop vs) =
        .replace [.parameter, .close .parameters] := by
      rw [Symbol.expand, if_neg notOver]
    exact .replace expands inside
  · obtain rfl : vs = closing :: _ := none
    have expands : Symbol.parameters.expand dialect closing = .consume [] := by
      rw [Symbol.expand, if_pos isClosing]
    exact .consume expands accepts

/-! ## Members -/

/-- What follows the type of a method. -/
theorem accepts_method (isVoid : Bool) (row : Takes dialect stop (method dialect) ts us)
    (accepts : Accepts dialect stop rest us) :
    Accepts dialect stop (.memberName isVoid :: rest) ts := by
  obtain ⟨vs, ⟨name, (isName : name.kind = .ident), rfl⟩, ws, parameters, xs, thrown, _, block,
    rfl⟩ := row
  have body := block _ accepts
  have brace : (frontOf stop xs).kind = .lBrace := by
    have expands : Symbol.block.expand dialect (frontOf stop xs) =
        .replace [.token .lBrace, .statements, .close .block] := rfl
    exact ((accepts_replace expands).mp body).front_of_token
  have isClause (current : Token) : Symbol.throwsClause.expand dialect current =
      Grammar.optional (.keyword .throws_) [.type false] current := rfl
  have inside := parameters _ (accepts_typeClause isClause thrown brace body)
  have opening := inside.front_of_token
  have named : (Symbol.memberName isVoid).expand dialect name =
      .consume [.memberEnd isVoid name false] := by
    rw [Symbol.expand, if_pos isName]
  have expands : (Symbol.memberEnd isVoid name false).expand dialect (frontOf stop vs) =
      .replace [.announce (.methodNamed name), .token .lParen, .parameters, .throwsClause,
        .block] := by
    simp [Symbol.expand, expandMemberEnd, opening]
  exact .consume named (.replace expands (accepts_announce_then inside))

/-- The last name of fields, with an initial value or without. -/
theorem accepts_fieldEnd {first semicolon : Token} {several : Bool}
    (isSemicolon : semicolon.kind = .semicolon)
    (value : Takes dialect stop (inExtended dialect (opt initial)) ts (semicolon :: us))
    (accepts : Accepts dialect stop rest us) :
    Accepts dialect stop (.memberEnd false first several :: rest) ts := by
  have bare (isOver : ts = semicolon :: us) :
      Accepts dialect stop (.memberEnd false first several :: rest) ts := by
    subst isOver
    have expands : (Symbol.memberEnd false first several).expand dialect semicolon =
        .consume [] := by
      simp [Symbol.expand, expandMemberEnd, isSemicolon]
    exact .consume expands accepts
  cases dialect with
  | mini => exact bare value
  | extended =>
      rcases value with ⟨_, ⟨sign, (here : sign.kind = .assign), rfl⟩, _, value, rfl⟩ | none
      · have expands : (Symbol.memberEnd false first several).expand .extended sign =
            .consume [.expression true, .token .semicolon] := by
          simp [Symbol.expand, expandMemberEnd, here, Dialect.isMini]
        exact .consume expands
          (value _ (endsExpression_token (by decide)) (accepts_token isSemicolon accepts))
      · exact bare none

/-- What follows the type of fields. -/
theorem accepts_fields (row : Takes dialect stop (fields dialect) ts us)
    (accepts : Accepts dialect stop rest us) :
    Accepts dialect stop (.memberName false :: rest) ts := by
  obtain ⟨_, ⟨vs, ⟨name, (isName : name.kind = .ident), rfl⟩, _, others, rfl⟩, _, value, _,
    ⟨semicolon, isSemicolon, rfl⟩, rfl⟩ := row
  have named : (Symbol.memberName false).expand dialect name =
      .consume [.memberEnd false name false] := by
    rw [Symbol.expand, if_pos isName]
  -- on the names that are left; only the first one may still be a method
  have further (several : Bool) :
      Accepts dialect stop (.memberEnd false name several :: rest) vs := by
    induction others using Relation.ReflTransGen.head_induction_on generalizing several with
    | refl => exact accepts_fieldEnd isSemicolon value accepts
    | head once _ ih =>
        obtain ⟨_, ⟨comma, (isComma : comma.kind = .comma), rfl⟩, _, ⟨other, isOther, rfl⟩, rfl⟩ :=
          once
        have expands : (Symbol.memberEnd false name several).expand dialect comma =
            .consume [.token .ident, .memberEnd false name true] := by
          simp [Symbol.expand, expandMemberEnd, isComma]
        exact .consume expands (accepts_token isOther (ih true))
  exact .consume named (further false)

/-- A member that is not declared with `void`. -/
theorem accepts_memberType
    (accepts : Accepts dialect stop (.type true :: .memberName false :: rest) ts) :
    Accepts dialect stop (.memberType :: rest) ts := by
  have expands : Symbol.memberType.expand dialect (frontOf stop ts) =
      .replace [.type true, .memberName false] := by
    rw [Symbol.expand, if_neg (accepts.front_ne_of_type rfl)]
  exact .replace expands accepts

/-- Where a name of a member stands, no type goes on. -/
theorem front_of_memberName (accepts : Accepts dialect stop (.memberName false :: rest) ts) :
    (frontOf stop ts).kind ∉ [.dot, .leftChevron, .lBracket] := by
  have isName : (frontOf stop ts).kind = .ident := by
    refine Decidable.byContradiction fun other => ?_
    have rejects : (Symbol.memberName false).expand dialect (frontOf stop ts) =
        .reject (.expectedKinds [.ident] (frontOf stop ts)) := by
      rw [Symbol.expand, if_neg other]
    exact not_accepts_reject rejects accepts
  simp [isName]

theorem member_accepting (row : Takes dialect stop (rule dialect .member) ts us) :
    Accepting dialect stop .member ts us := by
  intro rest accepts
  have closed : Accepts dialect stop (.close .memberDeclaration :: rest) us := accepts_close accepts
  obtain ⟨vs, marks, _, body, rfl⟩ := row
  -- a type in front shows that the markers and `void` are over
  have typed (accepts : Accepts dialect stop
      (.type true :: .memberName false :: .close .memberDeclaration :: rest) vs) :
      Accepts dialect stop (.markers :: .memberType :: .close .memberDeclaration :: rest) ts := by
    refine accepts_markers marks ?_ (accepts_memberType accepts)
    intro marker
    simp only [List.mem_cons, List.not_mem_nil, or_false] at marker
    rcases marker with here | here
    · exact accepts.front_ne_of_type rfl here
    · exact accepts.front_ne_of_type rfl here
  rcases body with ⟨_, ⟨sign, (isVoid : sign.kind = .keyword .void_), rfl⟩, _, method, rfl⟩ |
    ⟨_, type, _, method, rfl⟩ | ⟨_, type, _, fields, rfl⟩ | never
  · have expands : Symbol.memberType.expand dialect sign = .consume [.memberName true] := by
      rw [Symbol.expand, if_pos isVoid]
    exact accepts_markers marks (by simp [isVoid])
      (.consume expands (accepts_method true method closed))
  · have behind := accepts_method false method closed
    exact typed (type _ behind (front_of_memberName behind))
  · have behind := accepts_fields fields closed
    exact typed (type _ behind (front_of_memberName behind))
  · exact never.elim

/-- No member begins with a closing brace. -/
theorem front_of_member (accepts : Accepts dialect stop (.markers :: .memberType :: rest) ts) :
    (frontOf stop ts).kind ≠ .rBrace := by
  intro closing
  have markers : Symbol.markers.expand dialect (frontOf stop ts) = .replace [.modifiers] := by
    simp [Symbol.expand, closing]
  have modifiers : Symbol.modifiers.expand dialect (frontOf stop ts) = .replace [] := by
    simp [Symbol.expand, Grammar.optional, closing]
  have type : Symbol.memberType.expand dialect (frontOf stop ts) =
      .replace [.type true, .memberName false] := by
    simp [Symbol.expand, closing]
  have inside := (accepts_replace type).mp
    ((accepts_replace modifiers).mp ((accepts_replace markers).mp accepts))
  exact inside.front_ne_of_type rfl closing

/-- Members up to the closing brace. -/
theorem accepts_members {closing : Token} (isClosing : closing.kind = .rBrace)
    (row : Takes dialect stop (many (phrase .member)) ts (closing :: us))
    (accepts : Accepts dialect stop rest us) :
    Accepts dialect stop (.members :: rest) ts := by
  induction row using Relation.ReflTransGen.head_induction_on with
  | refl =>
      have expands : Symbol.members.expand dialect closing = .consume [] := by
        rw [Symbol.expand, if_pos isClosing]
      exact .consume expands accepts
  | @head ts vs once _ ih =>
      have inside : Accepts dialect stop
          (.markers :: .memberType :: .close .memberDeclaration :: .members :: rest) ts :=
        once _ ih
      have expands : Symbol.members.expand dialect (frontOf stop ts) =
          .replace [.markers, .memberType, .close .memberDeclaration, .members] := by
        rw [Symbol.expand, if_neg]
        exact front_of_member inside
      exact .replace expands inside

/-! ## Classes and programs -/

theorem classDeclaration_accepting
    (row : Takes dialect stop (rule dialect .classDeclaration) ts us) :
    Accepting dialect stop .classDeclaration ts us := by
  intro rest accepts
  have closed : Accepts dialect stop (.close .classDeclaration :: rest) us := accepts_close accepts
  obtain ⟨vs, marks, _, ⟨sign, (isSign : sign.kind = .keyword .class_), rfl⟩, ws,
    ⟨name, (isName : name.kind = .ident), rfl⟩, _, super, ys,
    ⟨opening, (isOpening : opening.kind = .lBrace), rfl⟩, _, members, _,
    ⟨closing, isClosing, rfl⟩, rfl⟩ := row
  have body : Accepts dialect stop
      (.token .lBrace :: .members :: .close .classDeclaration :: rest) (opening :: ys) :=
    accepts_token isOpening (accepts_members isClosing members closed)
  have isClause (current : Token) : Symbol.superclass.expand dialect current =
      Grammar.optional (.keyword .extends_) [.type false] current := rfl
  have extending := accepts_typeClause isClause super isOpening body
  have named : Symbol.className.expand dialect name =
      .consume [.announce (.classNamed name)] := by
    rw [Symbol.expand, if_pos isName]
  have declared : Accepts dialect stop
      (.token (.keyword .class_) :: .className :: .superclass :: .token .lBrace :: .members ::
        .close .classDeclaration :: rest) (sign :: name :: ws) :=
    accepts_token isSign (.consume named (accepts_announce_then extending))
  cases dialect with
  | mini =>
      obtain rfl : ts = sign :: name :: ws := marks
      exact declared
  | extended => exact accepts_markers marks (by simp [isSign]) declared

theorem front_of_classDeclaration
    (accepts : Accepts dialect stop (classDeclaration dialect ++ rest) ts) :
    (frontOf stop ts).kind ≠ .eot ∧ (frontOf stop ts).kind ≠ .keyword .import_ := by
  have front (kind : TokenKind) (noClass : kind ≠ .keyword .class_)
      (noProtection : kind ≠ .protection) (noModifier : kind ≠ .modifier) :
      (frontOf stop ts).kind ≠ kind := by
    intro here
    cases dialect with
    | mini =>
        have isClass := accepts.front_of_token
        exact noClass (here.symm.trans isClass)
    | extended =>
        have markers : Symbol.markers.expand .extended (frontOf stop ts) =
            .replace [.modifiers] := by
          rw [Symbol.expand, if_neg]
          rw [here]
          exact noProtection
        have modifiers : Symbol.modifiers.expand .extended (frontOf stop ts) = .replace [] := by
          rw [Symbol.expand, Grammar.optional, if_neg]
          rw [here]
          exact noModifier
        have inside := (accepts_replace modifiers).mp ((accepts_replace markers).mp accepts)
        exact noClass (here.symm.trans inside.front_of_token)
  exact ⟨front .eot (by simp) (by simp) (by simp), front _ (by simp) (by simp) (by simp)⟩

/-- Classes up to the end of the text. -/
theorem accepts_classes (stops : stop.kind = .eot)
    (row : Takes dialect stop (many (phrase .classDeclaration)) ts []) :
    Accepts dialect stop [.classes] ts ∧ (frontOf stop ts).kind ≠ .keyword .import_ := by
  -- on the classes that are left; what the imports need is carried along
  induction row using Relation.ReflTransGen.head_induction_on with
  | refl =>
      have expands : Symbol.classes.expand dialect (frontOf stop []) = .replace [] := by
        rw [Symbol.expand, frontOf_nil, if_pos stops]
      refine ⟨.replace expands .done, ?_⟩
      rw [frontOf_nil, stops]
      decide
  | @head ts vs once _ ih =>
      have inside : Accepts dialect stop (classDeclaration dialect ++ [Symbol.classes]) ts :=
        once _ ih.1
      obtain ⟨noEnd, noImport⟩ := front_of_classDeclaration inside
      have expands : Symbol.classes.expand dialect (frontOf stop ts) =
          .replace (classDeclaration dialect ++ [Symbol.classes]) := by
        rw [Symbol.expand, if_neg noEnd]
      refine ⟨.replace expands ?_, noImport⟩
      rwa [List.append_assoc]

/-- Behind a name of an import there may be more of them, and a last star. -/
theorem accepts_importNames (names : Takes dialect stop (many dotted) ts vs)
    (last : Takes dialect stop (opt (seq [tok .dot, terminal .star])) vs us)
    (free : (frontOf stop us).kind = .semicolon) (accepts : Accepts dialect stop rest us) :
    Accepts dialect stop (.importNames :: rest) ts := by
  induction names using Relation.ReflTransGen.head_induction_on with
  | refl =>
      rcases last with ⟨_, ⟨dot, isDot, rfl⟩, _, ⟨star, ⟨isOperator, isStar⟩, rfl⟩, rfl⟩ | none
      · have expands : Symbol.importName.expand dialect star = .consume [] := by
          simp [Symbol.expand, expandImportName, isOperator, isStar]
        exact accepts_present (fun _ => rfl) isDot (.consume expands accepts)
      · obtain rfl : vs = us := none
        exact accepts_missing (fun _ => rfl) (by simp [free]) accepts
  | head once _ ih =>
      obtain ⟨_, ⟨dot, isDot, rfl⟩, _, ⟨name, (isName : name.kind = .ident), rfl⟩, rfl⟩ := once
      have expands : Symbol.importName.expand dialect name =
          .replace [.token .ident, .importNames] := by
        simp [Symbol.expand, expandImportName, isName]
      exact accepts_present (fun _ => rfl) isDot (.replace expands (accepts_token isName ih))

theorem accepts_imports (row : Takes dialect stop (many importDeclaration) ts us)
    (free : (frontOf stop us).kind ≠ .keyword .import_) (accepts : Accepts dialect stop rest us) :
    Accepts dialect stop (.imports :: rest) ts := by
  induction row using Relation.ReflTransGen.head_induction_on with
  | refl => exact accepts_missing (fun _ => rfl) free accepts
  | head once _ ih =>
      obtain ⟨_, ⟨sign, isImport, rfl⟩, _, ⟨name, isName, rfl⟩, _, names, _, last, _,
        ⟨semicolon, (isSemicolon : semicolon.kind = .semicolon), rfl⟩, rfl⟩ := once
      refine accepts_present (fun _ => rfl) isImport (accepts_token isName ?_)
      exact accepts_importNames names last isSemicolon
        (accepts_token isSemicolon (accepts_close ih))

theorem program_accepting (stops : stop.kind = .eot)
    (row : Takes dialect stop (rule dialect .program) ts us) :
    Accepting dialect stop .program ts us := by
  rintro rfl
  refine .replace rfl ?_
  cases dialect with
  | mini => exact (accepts_classes stops row).1
  | extended =>
      obtain ⟨_, ⟨sign, isPackage, rfl⟩, _, ⟨name, isName, rfl⟩, _, names, _,
        ⟨semicolon, (isSemicolon : semicolon.kind = .semicolon), rfl⟩, _, imports, vs, classes,
        rfl⟩ := row
      obtain ⟨accepts, noImport⟩ := accepts_classes stops classes
      refine accepts_token isPackage (accepts_token isName ?_)
      refine accepts_dottedNames names (by simp [isSemicolon]) (accepts_token isSemicolon ?_)
      exact accepts_close (accepts_imports imports noImport accepts)

/-! ## All phrases -/

/-- **The rules keep the property of every phrase.** -/
theorem accepting_of_takes (stops : stop.kind = .eot) (name : Phrase) (ts us : List Token)
    (row : Takes dialect stop (rule dialect name) ts us) : Accepting dialect stop name ts us := by
  cases name with
  | program => exact program_accepting stops row
  | classDeclaration => exact classDeclaration_accepting row
  | member => exact member_accepting row
  | parameters => exact parameters_accepting row
  | nominal => exact nominal_accepting row
  | type => exact type_accepting row
  | block => exact block_accepting row
  | statement => exact statement_accepting row
  | simple => exact simple_accepting row
  | forLoop => exact forLoop_accepting row
  | update => exact update_accepting row
  | declared => exact declared_accepting row
  | target => exact target_accepting row
  | call => exact call_accepting row
  | reference => exact reference_accepting row
  | arguments => exact arguments_accepting row
  | initializer => exact initializer_accepting row
  | expression => exact expression_accepting row
  | operand =>
      cases dialect with
      | mini => exact operand_accepting_mini row
      | extended => exact operand_accepting_extended stops row
  | tail => exact tail_accepting row

/-- **A program is accepted.** -/
theorem accepts_of_isProgram {tokens : List Token} (stops : stop.kind = .eot)
    (program : IsProgram dialect tokens) : Accepts dialect stop [.program] tokens :=
  program.least (accepting_of_takes stops) rfl

end Language

end MiniJ
