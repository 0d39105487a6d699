import MiniJ.Proofs.Language.Soundness.Statements

/-!
# Accepted token lists are programs

Every expansion in front of a token that the dialect has is sound (`Language.expand_sound`), so by
induction over the work on an agenda an accepted token list is a program
(`Language.isProgram_of_accepts`).
-/

set_option autoImplicit false

namespace MiniJ

namespace Language

open Ebnf Grammar

variable {dialect : Dialect} {stop current : Token} {ts us vs : List Token}

/-! ## Declarations -/

/-- Behind any number of names with a type stands what ends fields. -/
theorem memberEnd_of_fields {isVoid several : Bool} {first : Token} (notVoid : ¬ isVoid = true)
    (derives : Derives dialect (fieldsEnd dialect) ts us) :
    Means dialect (.memberEnd isVoid first several) ts us := by
  rw [Bool.not_eq_true] at notVoid
  subst notVoid
  cases several with
  | true => exact derives
  | false => exact .other (.one derives)

/-- Behind one name stands what ends a method, with a type or without. -/
theorem memberEnd_of_method {isVoid : Bool} {first : Token}
    (derives : Derives dialect (methodEnd dialect) ts us) :
    Means dialect (.memberEnd isVoid first false) ts us := by
  cases isVoid with
  | true => exact derives
  | false => exact .one derives

/-- An initial value in front of the semicolon of fields, which only the extended dialect has. -/
theorem fieldsEnd_of_initial (notMini : ¬ dialect.isMini = true)
    (value : Derives dialect initial ts us) (semicolon : Derives dialect (tok .semicolon) us vs) :
    Derives dialect (fieldsEnd dialect) ts vs := by
  cases dialect with
  | mini => exact absurd rfl notMini
  | extended => exact .sequence .stop (.sequence (.one value) (.sequence semicolon .empty))

/-- The semicolon of fields. -/
theorem fieldsEnd_of_semicolon (semicolon : Derives dialect (tok .semicolon) ts us) :
    Derives dialect (fieldsEnd dialect) ts us :=
  .sequence .stop (.sequence (missing_inExtended ts) (.sequence semicolon .empty))

theorem expandMemberEnd_sound (isVoid : Bool) (first : Token) (several : Bool) (current : Token) :
    (expandMemberEnd dialect isVoid first several current).Sound dialect stop current
      (Means dialect (.memberEnd isVoid first several)) := by
  rw [expandMemberEnd]
  split
  · -- one more field of the same type
    rename_i here
    rintro ts us ⟨vs, name, ws, more, rfl⟩
    cases isVoid with
    | true => exact more.reads.elim
    | false =>
        exact memberEnd_of_fields Bool.false_ne_true
          (.cons (.sequence (.terminal here) (.sequence name .empty)) more)
  split
  · trivial
  -- several names without a type were refused: what has several names are fields
  split
  · split
    · trivial
    · -- a method, which is alone
      rename_i single
      rw [Bool.not_eq_true] at single
      subst single
      rintro ts us - ⟨v₁, entry, v₂, opening, v₃, inside, v₄, thrown, v₅, block, rfl⟩
      obtain rfl : ts = v₁ := entry.reads
      exact memberEnd_of_method (.sequence (.nonterminal (.sequence opening inside))
        (.sequence thrown (.sequence block .empty)))
  · rename_i here
    split
    · trivial
    rename_i notMini
    split
    · trivial
    · -- an initial value
      rename_i notVoid
      rintro ts us ⟨vs, value, ws, semicolon, rfl⟩
      exact memberEnd_of_fields notVoid (fieldsEnd_of_initial notMini
        (.sequence (.terminal here) (.sequence value .empty)) semicolon)
  · rename_i here
    split
    · trivial
    · -- the semicolon behind fields
      rename_i notVoid
      rintro ts us rfl
      exact memberEnd_of_fields notVoid (fieldsEnd_of_semicolon (.terminal here))
  · trivial

/-- The name of a member and what follows it. -/
theorem memberName_of_end {isVoid : Bool} {first : Token}
    (name : Derives dialect (tok .ident) ts us)
    (rest : Means dialect (.memberEnd isVoid first false) us vs) :
    Means dialect (.memberName isVoid) ts vs := by
  cases isVoid with
  | true => exact .sequence name rest
  | false =>
      rcases rest.reads with method | fields | never
      · exact .one (.sequence name (.of_reads method))
      · exact .other (.one (commaList_of_first name (.of_reads fields)))
      · exact never.elim

theorem memberType_of_type (type : Derives dialect (phrase .type) ts us)
    (rest : Means dialect (.memberName false) us vs) : Means dialect .memberType ts vs := by
  rcases rest.reads with method | fields | never
  · exact .other (.one (.sequence type (.sequence (.of_reads method) .empty)))
  · exact .alternative 2 rfl (.sequence type (.sequence (.of_reads fields) .empty))
  · exact never.elim

theorem importDeclaration_sound (here : current.kind = .keyword .import_)
    (all : MeansAll dialect [.token .ident, .importNames, .token .semicolon,
      .close .importDeclaration, .imports] ts us) :
    Means dialect .imports (current :: ts) us := by
  obtain ⟨v₁, name, v₂, names, v₃, semicolon, v₄, closed, v₅, more, rfl⟩ := all
  obtain rfl : v₃ = v₄ := closed.reads
  obtain ⟨ws, further, xs, star, rfl⟩ := names.reads
  have once : Derives dialect importDeclaration (current :: ts) v₃ :=
    .sequence (.terminal here) (.sequence name (.sequence (.of_reads further)
      (.sequence (.of_reads star) (.sequence semicolon .empty))))
  exact .again once more

theorem importName_sound (here : current.kind = .dot) (name : Means dialect .importName ts us) :
    Means dialect .importNames (current :: ts) us := by
  rcases name.reads with star | named | never
  · exact .sequence .stop (.sequence (.one (.sequence (.terminal here)
      (.sequence (.of_reads star) .empty))) .empty)
  · obtain ⟨vs, first, rest⟩ := named
    exact .cons (derives_dotted here (.of_reads first)) (.of_reads rest)
  · exact never.elim

theorem expandImportName_sound (current : Token) :
    (expandImportName current).Sound dialect stop current (Means dialect .importName) := by
  rw [expandImportName]
  split
  · rename_i star
    rw [Bool.and_eq_true, decide_eq_true_eq, decide_eq_true_eq] at star
    rintro ts us rfl
    exact .one (.terminal star)
  · rintro ts us - ⟨vs, name, ws, more, rfl⟩
    obtain ⟨xs, names, ys, last, rfl⟩ := more.reads
    exact .other (.one (.sequence name (.sequence (.of_reads names)
      (.sequence (.of_reads last) .empty))))

theorem classDeclaration_sound {ws : List Token}
    (all : MeansAll dialect (classDeclaration dialect ++ [Symbol.classes]) ts ws) :
    Derives dialect (many (phrase .classDeclaration)) ts ws := by
  obtain ⟨vs, row, us, classes, rfl⟩ := meansAll_append all
  refine .again ?_ classes
  cases dialect with
  | mini =>
      obtain ⟨v₁, sign, v₂, name, v₃, super, v₄, opening, v₅, members, v₆, closed, rfl⟩ := row
      obtain rfl : v₅ = v₆ := closed.reads
      exact .nonterminal (.sequence .empty (.sequence sign (.sequence name (.sequence super
        (.sequence opening members)))))
  | extended =>
      obtain ⟨v₀, marks, v₁, sign, v₂, name, v₃, super, v₄, opening, v₅, members, v₆, closed,
        rfl⟩ := row
      obtain rfl : v₅ = v₆ := closed.reads
      exact .nonterminal (.sequence marks (.sequence sign (.sequence name (.sequence super
        (.sequence opening members)))))

theorem wholeProgram_sound (all : MeansAll dialect (wholeProgram dialect) ts us) :
    Derives dialect (phrase .program) ts us := by
  cases dialect with
  | mini =>
      obtain ⟨vs, classes, rfl⟩ := all
      exact .nonterminal classes
  | extended =>
      obtain ⟨v₁, sign, v₂, name, v₃, names, v₄, semicolon, v₅, closed, v₆, imports, v₇, classes,
        rfl⟩ := all
      obtain rfl : v₄ = v₅ := closed.reads
      exact .nonterminal (.sequence sign (.sequence name (.sequence names (.sequence semicolon
        (.sequence imports (.sequence classes .empty))))))

/-- A clause of a keyword and a type, which only the extended dialect has. -/
theorem clause_sound {keyword : Keyword}
    (only : (TokenKind.keyword keyword).isExtendedOnly = true) (legal : current.Legal dialect) :
    (Grammar.optional (.keyword keyword) [.type false] current).Sound dialect stop current
      (Derives dialect (inExtended dialect (opt (seq [word keyword, phrase .nominal])))) := by
  refine optional_sound ?_ missing_inExtended
  rintro here ts us ⟨vs, type, rfl⟩
  have isOnly : current.kind.isExtendedOnly = true := by rwa [here]
  obtain rfl := dialect_of_extendedOnly legal isOnly
  exact .one (.sequence (.terminal here) (.sequence (nominal_of_type type) .empty))

/-- A member with its markers, in front of others. -/
theorem member_sound (all : MeansAll dialect
      [.markers, .memberType, .close .memberDeclaration, .members] ts us) :
    Means dialect .members ts us := by
  obtain ⟨v₁, marks, v₂, body, v₃, closed, v₄, more, rfl⟩ := all
  obtain rfl : v₂ = v₃ := closed.reads
  exact .cons (.nonterminal (.sequence marks (.sequence body .empty))) more

theorem markers_sound (current : Token) :
    (Symbol.markers.expand dialect current).Sound dialect stop current
      (Means dialect .markers) := by
  refine either_sound ?_ ?_
  · rintro here ts us ⟨vs, modifiers, rfl⟩
    exact .sequence (.one (.terminal here)) (.sequence modifiers .empty)
  · rintro ts us ⟨vs, modifiers, rfl⟩
    exact .sequence (.other .empty) (.sequence modifiers .empty)

theorem className_sound (current : Token) :
    (Symbol.className.expand dialect current).Sound dialect stop current
      (Means dialect .className) := by
  rw [Symbol.expand]
  split
  · rename_i here
    rintro ts us ⟨vs, entry, rfl⟩
    obtain rfl : ts = vs := entry.reads
    exact .terminal here
  · trivial

theorem members_sound (current : Token) :
    (Symbol.members.expand dialect current).Sound dialect stop current
      (Means dialect .members) := by
  refine either_sound ?_ fun ts us => member_sound
  rintro here ts us rfl
  exact .sequence .stop (.sequence (.terminal here) .empty)

theorem memberType_sound (current : Token) :
    (Symbol.memberType.expand dialect current).Sound dialect stop current
      (Means dialect .memberType) := by
  refine either_sound ?_ ?_
  · rintro here ts us ⟨vs, rest, rfl⟩
    exact .one (.sequence (.terminal here) (.sequence rest .empty))
  · rintro ts us ⟨vs, type, ws, rest, rfl⟩
    exact memberType_of_type type rest

theorem parameters_sound (current : Token) :
    (Symbol.parameters.expand dialect current).Sound dialect stop current
      (Means dialect .parameters) := by
  refine either_sound ?_ ?_
  · rintro here ts us rfl
    exact .sequence (.other .empty) (.sequence (.terminal here) .empty)
  · rintro ts us ⟨vs, some, ws, closed, rfl⟩
    obtain rfl : vs = ws := closed.reads
    obtain ⟨xs, list, behind⟩ := some.reads
    exact .sequence (.one (.of_reads list)) (.of_reads behind)

theorem parameter_sound (current : Token) :
    (Symbol.parameter.expand dialect current).Sound dialect stop current
      (Means dialect .parameter) := by
  rintro ts us - ⟨v₁, type, v₂, dots, v₃, name, v₄, rest, rfl⟩
  exact commaList_of_first (.sequence type (.sequence dots (.sequence name .empty))) rest

theorem parametersEnd_sound (current : Token) :
    (Symbol.parametersEnd.expand dialect current).Sound dialect stop current
      (Means dialect .parametersEnd) := by
  refine either_sound ?_ ?_
  · rintro here ts us ⟨vs, list, rfl⟩
    exact commaList_again here list
  · rintro ts us ⟨vs, close, rfl⟩
    exact .sequence .stop (.sequence close .empty)

/-! ## All symbols -/

/-- **An expansion means no more than the symbol it comes from**, in front of a token that the
dialect has. -/
theorem expand_sound (legal : current.Legal dialect) (symbol : Symbol) :
    (symbol.expand dialect current).Sound dialect stop current (Means dialect symbol) := by
  cases symbol with
  | terminal kinds =>
      rw [Symbol.expand]
      split
      · rename_i here
        rintro ts us rfl
        cases kinds with
        | nil => cases here
        | cons kind more =>
            -- a single kind is a terminal of its own in the grammar
            cases more with
            | nil => exact .terminal (List.mem_singleton.mp here)
            | cons => exact .terminal here
      · trivial
  | announce event => exact fun ts => .empty
  | close construct =>
      rintro ts us - rfl
      exact .empty
  | type brackets => exact expandType_sound brackets current
  | typeSuffixes brackets => exact expandTypeSuffixes_sound brackets current
  | typeArgumentsOrNone => exact typeArgumentsOrNone_sound current
  | typeArguments => exact typeArguments_sound current
  | typeArgumentsEnd => exact typeArgumentsEnd_sound current
  | emptyBrackets =>
      refine optional_sound ?_ fun ts => .stop
      rintro here ts us ⟨vs, close, ws, more, rfl⟩
      exact .again (.sequence (.terminal here) (.sequence close .empty)) more
  | reference purpose => exact expandReference_sound purpose current
  | suffixes purpose soFar last => exact expandSuffixes_sound purpose soFar last current
  | insideBrackets purpose soFar => exact expandInsideBrackets_sound purpose soFar current
  | classified purpose result => exact expandClassified_sound purpose result current
  | expression arrayLiteral => exact expandExpression_sound arrayLiteral current
  | expressionEnd => exact expandExpressionEnd_sound current
  | elements closing => exact elements_sound closing current
  | elementsEnd closing => exact elementsEnd_sound closing current
  | constructorArguments => exact expandConstructorArguments_sound current
  | dimensions =>
      refine optional_sound ?_ fun ts => .stop
      rintro here ts us ⟨vs, expression, ws, close, xs, more, rfl⟩
      exact .again (.sequence (.terminal here) (.sequence expression (.sequence close .empty))) more
  | statement place => exact statement_sound place current
  | statementBody place => exact expandStatementBody_sound place legal
  | block => exact block_sound current
  | statements => exact statements_sound current
  | returnValue => exact returnValue_sound current
  | declarationEnd place => exact expandDeclarationEnd_sound place current
  | update =>
      rw [Symbol.expand]
      split
      · rename_i here
        rintro ts us ⟨vs, reference, rfl⟩
        exact .sequence (.terminal here) (.sequence reference .empty)
      · trivial
  | elseBranch =>
      refine optional_sound ?_ fun ts => .other .empty
      rintro here ts us ⟨vs, branch, rfl⟩
      exact .one (.sequence (.terminal here) (.sequence branch .empty))
  | forInit => exact forInit_sound current
  | forCondition => exact forCondition_sound current
  | forUpdate => exact expandForUpdate_sound current
  | forBody => exact forBody_sound current
  | tryEnd => exact expandTryEnd_sound current
  | finallyBlock =>
      refine optional_sound ?_ fun ts => .other .empty
      rintro here ts us ⟨vs, block, rfl⟩
      exact .one (.sequence (.terminal here) (.sequence block .empty))
  | program => exact fun ts us _ all => wholeProgram_sound all
  | dottedNames =>
      refine optional_sound ?_ fun ts => .stop
      rintro here ts us ⟨vs, name, ws, more, rfl⟩
      exact .again (derives_dotted here name) more
  | imports =>
      exact optional_sound (fun here ts us all => importDeclaration_sound here all) fun ts => .stop
  | importNames =>
      refine optional_sound ?_ fun ts => .sequence .stop (.sequence (.other .empty) .empty)
      rintro here ts us ⟨vs, name, rfl⟩
      exact importName_sound here name
  | importName => exact expandImportName_sound current
  | classes =>
      rw [Symbol.expand]
      split
      · rintro ts us - rfl
        exact .stop
      · exact fun ts us _ all => classDeclaration_sound all
  | markers => exact markers_sound current
  | modifiers =>
      refine optional_sound ?_ fun ts => .stop
      rintro here ts us ⟨vs, more, rfl⟩
      exact .again (.terminal here) more
  | className => exact className_sound current
  | superclass => exact clause_sound rfl legal
  | members => exact members_sound current
  | memberType => exact memberType_sound current
  | memberName isVoid =>
      rw [Symbol.expand]
      split
      · rename_i here
        rintro ts us ⟨vs, rest, rfl⟩
        exact memberName_of_end (.terminal here) rest
      · trivial
  | memberEnd isVoid first several => exact expandMemberEnd_sound isVoid first several current
  | parameters => exact parameters_sound current
  | parameter => exact parameter_sound current
  | ellipsis =>
      refine optional_sound ?_ fun ts => ?_
      · rintro here ts us rfl
        obtain rfl := dialect_of_extendedOnly legal (by rw [here]; rfl)
        exact .one (.terminal here)
      · exact missing_inExtended ts
  | parametersEnd => exact parametersEnd_sound current
  | throwsClause => exact clause_sound rfl legal

/-- What an accepted agenda takes from the tokens is what its symbols mean. -/
theorem meansAll_of_accepts {agenda : List Symbol} {tokens : List Token}
    (stops : stop.kind = .eot) (legal : ∀ token ∈ tokens, token.Legal dialect)
    (accepts : Accepts dialect stop agenda tokens) : MeansAll dialect agenda tokens [] := by
  -- the end in front is a token of both dialects
  have front (tokens : List Token) (legal : ∀ token ∈ tokens, token.Legal dialect) :
      (frontOf stop tokens).Legal dialect := by
    cases tokens with
    | nil =>
        intro _
        rw [frontOf_nil, stops]
        rfl
    | cons token tokens => exact legal token List.mem_cons_self
  -- each step is an expansion, and what it leaves is taken by what is pending
  induction accepts with
  | done => rfl
  | @replace symbol symbols pending tokens expands _ ih =>
      have sound : (symbol.expand dialect (frontOf stop tokens)).Sound dialect stop _ _ :=
        expand_sound (front tokens legal) symbol
      rw [expands] at sound
      obtain ⟨vs, first, rest⟩ := meansAll_append (ih legal)
      exact ⟨vs, sound _ _ rfl first, rest⟩
  | @consume symbol symbols pending current tokens expands _ ih =>
      have sound : (symbol.expand dialect current).Sound dialect stop _ _ :=
        expand_sound (legal current List.mem_cons_self) symbol
      rw [expands] at sound
      obtain ⟨vs, first, rest⟩ :=
        meansAll_append (ih fun token member => legal token (List.mem_cons_of_mem _ member))
      exact ⟨vs, sound _ _ first, rest⟩
  | @announce symbol event pending tokens expands _ ih =>
      have sound : (symbol.expand dialect (frontOf stop tokens)).Sound dialect stop _ _ :=
        expand_sound (front tokens legal) symbol
      rw [expands] at sound
      exact ⟨tokens, sound tokens, ih legal⟩

/-- **An accepted token list is a program.** -/
theorem isProgram_of_accepts {tokens : List Token} (stops : stop.kind = .eot)
    (legal : ∀ token ∈ tokens, token.Legal dialect)
    (accepts : Accepts dialect stop [.program] tokens) : IsProgram dialect tokens := by
  obtain ⟨us, program, rfl⟩ := meansAll_of_accepts stops legal accepts
  exact program

end Language

end MiniJ
