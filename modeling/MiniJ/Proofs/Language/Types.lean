import MiniJ.Proofs.Language.Phrases

/-!
# Two ways to read a type

The type of a field or of a parameter is read as a type. The type of a variable that a statement
declares is read as a type-or-reference, because it is not known yet that a declaration begins. In
front of the name that is declared both take the same tokens (`types_agree`), with two exceptions:
`this` begins a type-or-reference only, and empty chevrons stand in a type only.

In the grammars the two are different phrases, and they have the same words (`type_iff_declared`).
-/

set_option autoImplicit false

namespace MiniJ

open Ebnf Grammar MiniJ.Language

/-- That no chevron is closed directly behind where it opens. -/
def NoDiamond (t : List Token) : Prop :=
  t.IsChain fun left right => left.kind = .leftChevron → right.kind ≠ .rightChevron

/-! ## The two phrases -/

section Words

variable {dialect : Dialect} {ts us t : List Token}

/-- Without empty chevrons a type goes on with dots and type arguments only. -/
theorem suffixes_of_nominal (noDiamond : NoDiamond ts)
    (suffixes : Derives .extended (many (nominalSuffix .extended)) ts us) :
    Derives .extended (many (oneOf [dotted, typeArguments])) ts us := by
  have row := derives_many.mp suffixes
  clear suffixes
  -- on the suffixes that are left, whose tokens are the end of all of them
  induction row using Relation.ReflTransGen.head_induction_on with
  | refl => exact .stop
  | @head ts vs once _ ih =>
      refine .again ?_ (ih (List.IsChain.suffix noDiamond once.suffix))
      rcases once.reads with dotted | empty | arguments | never
      · exact .one (.of_reads dotted)
      · obtain ⟨_, ⟨opening, isOpening, rfl⟩, _, ⟨closing, isClosing, rfl⟩, -⟩ := empty
        exact absurd isClosing ((List.isChain_cons_cons.mp noDiamond).1 isOpening)
      · exact .other (.one (.of_reads arguments))
      · exact never.elim

theorem declared_of_type (noDiamond : NoDiamond t) (type : Derives dialect (phrase .type) t []) :
    Derives dialect (phrase .declared) t [] := by
  have name {first : Token} {vs : List Token} (isName : first.kind = .ident) :
      Derives dialect head (first :: vs) vs := .terminal (by simp [Sign.Admits, isName])
  cases dialect with
  | mini =>
      rcases type.rule.reads with truth | element |
        ⟨_, ⟨first, isName, rfl⟩, _, names, _, pairs, rfl⟩ | never
      · exact .nonterminal (.one (.of_reads truth))
      · exact .nonterminal (.alternative 1 rfl (.of_reads element))
      · exact .nonterminal (.alternative 2 rfl (.sequence
          (.sequence (name isName) (.sequence (.of_reads names) .empty))
          (.sequence (.of_reads pairs) .empty)))
      · exact never.elim
  | extended =>
      obtain ⟨_, nominal, _, pairs, rfl⟩ := type.rule.reads
      rcases nominal.rule.reads with
        primitive | ⟨vs, ⟨first, isName, rfl⟩, _, suffixes, rfl⟩ | never
      · exact .nonterminal (.one (.sequence (.of_reads primitive)
          (.sequence (.of_reads pairs) .empty)))
      · have behind : NoDiamond vs := List.IsChain.suffix noDiamond (List.suffix_cons _ _)
        exact .nonterminal (.other (.one (.sequence (name isName)
          (.sequence (suffixes_of_nominal behind (.of_reads suffixes))
            (.sequence (.of_reads pairs) .empty)))))
      · exact never.elim

theorem type_of_declared (noThis : ∀ first ∈ t.head?, first.kind ≠ .keyword .this_)
    (declared : Derives dialect (phrase .declared) t []) : Derives dialect (phrase .type) t [] := by
  -- What a declaration may begin with is a name or `this`; the premise leaves the name.
  have name {first : Token} {vs : List Token} (whole : t = first :: vs)
      (isHead : (Sign.anyOf [.ident, .keyword .this_]).Admits first) :
      Derives dialect (tok .ident) (first :: vs) vs := by
    have isHead : first.kind = .ident ∨ first.kind = .keyword .this_ := by
      simpa [Sign.Admits] using isHead
    refine .terminal (isHead.resolve_right (noThis first ?_))
    rw [whole]
    exact rfl
  have wider {vs us : List Token}
      (suffixes : Derives .extended (many (oneOf [dotted, typeArguments])) vs us) :
      Derives .extended (many (nominalSuffix .extended)) vs us := by
    refine suffixes.many_mono fun _ _ once => ?_
    rcases once.reads with dotted | arguments | never
    · exact .one (.of_reads dotted)
    · exact .other (.other (.one (.of_reads arguments)))
    · exact never.elim
  cases dialect with
  | mini =>
      rcases declared.rule.reads with truth | element |
        ⟨_, ⟨_, ⟨first, isHead, rfl⟩, _, names, rfl⟩, _, pairs, rfl⟩ | never
      · exact .nonterminal (.one (.of_reads truth))
      · exact .nonterminal (.alternative 1 rfl (.of_reads element))
      · exact .nonterminal (.alternative 2 rfl (.sequence (name rfl isHead)
          (.sequence (.of_reads names) (.sequence (.of_reads pairs) .empty))))
      · exact never.elim
  | extended =>
      rcases declared.rule.reads with ⟨_, primitive, _, pairs, rfl⟩ |
        ⟨_, ⟨first, isHead, rfl⟩, _, suffixes, _, pairs, rfl⟩ | never
      · exact .nonterminal (.sequence (.nonterminal (.one (.of_reads primitive)))
          (.sequence (.of_reads pairs) .empty))
      · exact .nonterminal (.sequence (.nonterminal (.other (.one (.sequence (name rfl isHead)
          (.sequence (wider (.of_reads suffixes)) .empty))))) (.sequence (.of_reads pairs) .empty))
      · exact never.elim

/-- **The types are the types of variables**, apart from what begins with `this` and from empty
chevrons. -/
theorem type_iff_declared (noThis : ∀ first ∈ t.head?, first.kind ≠ .keyword .this_)
    (noDiamond : NoDiamond t) :
    Derives dialect (phrase .type) t [] ↔ Derives dialect (phrase .declared) t [] :=
  ⟨declared_of_type noDiamond, type_of_declared noThis⟩

end Words

/-! ## The two readings -/

section Readings

variable {dialect : Dialect} {stop name : Token} {t after : List Token}

/-- A type is worked off in front of a name exactly when it is one. -/
theorem works_type_iff (stops : stop.kind = .eot) (isName : name.kind = .ident) :
    Works dialect stop ([.type true], t ++ name :: after) ([], name :: after) ↔
      Derives dialect (phrase .type) t [] := by
  constructor
  · intro works
    have legal : name.Legal dialect := by simp [Token.Legal, isName, TokenKind.isExtendedOnly]
    refine derives_of_works stops rfl legal ?_ works
    exact fun ts us means => means
  · intro type
    have longer : Derives dialect (phrase .type) (t ++ name :: after) (name :: after) :=
      derives_in_front (by simp [isName]) (by simp [phrase, excluded]) type
    refine works_exactly_iff.mpr ?_
    exact longer.least (accepting_of_takes stops) _ (accepts_agendaOf _) (by simp [isName])

/-- A type-or-reference that may be a type is read in front of a name exactly when it is the type
of a variable. -/
theorem classifies_iff_declared (stops : stop.kind = .eot) (isName : name.kind = .ident) :
    (∃ result, result.canBeType = true ∧
        Classifies dialect stop (t ++ name :: after) result (name :: after)) ↔
      Derives dialect (phrase .declared) t [] := by
  constructor
  · rintro ⟨result, mayBeType, classifies⟩
    exact classifies.declared stops isName mayBeType
  · intro declared
    obtain ⟨stage, row, mayBeType⟩ := rowed_of_derives declared
    have noSuffix : ¬ dialect.startsSuffix name.kind := by simp [Dialect.startsSuffix, isName]
    exact ⟨stage.result, mayBeType, row.classified stops noSuffix⟩

end Readings

/-! ## Declarations -/

/-- The places where a name is declared behind its type. -/
inductive TypePlace where
  /-- A field, or a method with the type of what it returns. -/
  | member
  | parameter
  /-- The variable of a statement, or in the head of a loop the one of the loop. -/
  | statement (place : Place)

namespace TypePlace

/-- What is on the agenda where a declaration begins. -/
def opening : TypePlace → Symbol
  | member => .memberType
  | parameter => .parameter
  | statement place => .statement place

/-- What is on the agenda where its type begins: the symbol for the type, and those for the name
unless they depend on what the type is. -/
def symbols : TypePlace → List Symbol
  | member => [.type true, .memberName false]
  | parameter => [.type true, .ellipsis, .token .ident, .parametersEnd]
  | statement place => [.reference (.statement place)]

/-- What is on the agenda behind the name. -/
def behind (name : Token) : TypePlace → List Symbol
  | member => [.memberEnd false name false]
  | parameter => [.parametersEnd]
  | statement place => [.declarationEnd place]

/-- That a type is read, up to given tokens, with what is left on the agenda to take the name. -/
def ReadsType (dialect : Dialect) (stop : Token) (ts us : List Token) (left : List Symbol) :
    TypePlace → Prop
  | member => Works dialect stop ([.type true], ts) ([], us) ∧ left = [.memberName false]
  | parameter =>
    Works dialect stop ([.type true], ts) ([], us) ∧
      left = [.ellipsis, .token .ident, .parametersEnd]
  | statement place =>
    ∃ result, Classifies dialect stop ts result us ∧ left = [.classified (.statement place) result]

/-- That tokens are accepted as the type of a name: a declaration begins with them, the type that is
read there ends in front of the name, and the name is taken. -/
def Declares (place : TypePlace) (dialect : Dialect) (stop : Token) (t : List Token) (name : Token)
    (after : List Token) : Prop :=
  Works dialect stop ([place.opening], t ++ name :: after) (place.symbols, t ++ name :: after) ∧
    ∃ left, place.ReadsType dialect stop (t ++ name :: after) (name :: after) left ∧
      Works dialect stop (left, name :: after) (place.behind name, after)

variable {dialect : Dialect} {stop name : Token} {t after : List Token}

/-- The declaration begins with its type. -/
theorem works_opening (place : TypePlace) {ts : List Token}
    (begins : (frontOf stop ts).kind.beginsType = true) :
    Works dialect stop ([place.opening], ts) (place.symbols, ts) := by
  cases place with
  | member =>
      have noVoid : (frontOf stop ts).kind ≠ .keyword .void_ := by
        intro here
        rw [here] at begins
        cases begins
      have expands : Symbol.memberType.expand dialect (frontOf stop ts) =
          .replace [.type true, .memberName false] := by
        rw [Symbol.expand, if_neg noVoid]
      exact .single (.replace expands)
  | parameter =>
      have expands : Symbol.parameter.expand dialect (frontOf stop ts) =
          .replace [.type true, .ellipsis, .token .ident, .parametersEnd] := rfl
      exact .single (.replace expands)
  | statement place =>
      refine works_statement_reference place ?_
      simp only [TokenKind.beginsType] at begins
      split at begins <;> simp_all [TokenKind.beginsReference]

/-- Where a type may stand, the name behind it is taken. -/
theorem works_name (isName : name.kind = .ident) {result : Classification}
    (mayBeType : result.canBeType = true) (place : Place) :
    Works dialect stop ([.memberName false], name :: after) ([.memberEnd false name false], after) ∧
      Works dialect stop ([.ellipsis, .token .ident, .parametersEnd], name :: after)
        ([.parametersEnd], after) ∧
      Works dialect stop ([.classified (.statement place) result], name :: after)
        ([.declarationEnd place], after) := by
  have member : (Symbol.memberName false).expand dialect name =
      .consume [.memberEnd false name false] := by
    rw [Symbol.expand, if_pos isName]
  have ellipsis : Symbol.ellipsis.expand dialect name = .replace [] := by
    simp [Symbol.expand, Grammar.optional, isName]
  have token : (Symbol.token .ident).expand dialect name = .consume [] := by
    simp [Symbol.expand, isName]
  have declared : (Symbol.classified (.statement place) result).expand dialect name =
      .consume [.declarationEnd place] := by
    simp [Symbol.expand, expandClassified, isName, mayBeType]
  exact ⟨.single (.consume member), .head (.replace ellipsis) (.single (.consume token)),
    .single (.consume declared)⟩

theorem declares_iff (place : TypePlace) (stops : stop.kind = .eot) (isName : name.kind = .ident)
    (noThis : ∀ first ∈ t.head?, first.kind ≠ .keyword .this_) (noDiamond : NoDiamond t) :
    place.Declares dialect stop t name after ↔
      Works dialect stop ([.type true], t ++ name :: after) ([], name :: after) := by
  constructor
  · rintro ⟨-, left, reads, takes⟩
    cases place with
    | member | parameter => exact reads.1
    | statement place =>
        obtain ⟨result, classifies, rfl⟩ := reads
        -- a name is refused behind what cannot be a type
        have mayBeType : result.canBeType = true := by
          refine Decidable.byContradiction fun other => ?_
          have rejects : (Symbol.classified (.statement place) result).expand dialect
              (frontOf stop (name :: after)) =
                .reject (.located (.nameAfterReference name) name) := by
            simp [Symbol.expand, expandClassified, isName, other]
          cases Relation.ReflTransGen.cases_head takes with
          | inl same => cases same
          | inr more =>
              obtain ⟨_, step, -⟩ := more
              cases step with
              | replace expands => cases rejects.symm.trans expands
              | consume expands => cases rejects.symm.trans expands
              | announce expands => cases rejects.symm.trans expands
        rw [works_type_iff stops isName, type_iff_declared noThis noDiamond]
        exact classifies.declared stops isName mayBeType
  · intro works
    have begins := (works_exactly_iff.mp works).beginsType
    have declared := declared_of_type noDiamond ((works_type_iff stops isName).mp works)
    obtain ⟨result, mayBeType, classifies⟩ : ∃ result, result.canBeType = true ∧
        Classifies dialect stop (t ++ name :: after) result (name :: after) :=
      (classifies_iff_declared stops isName).mpr declared
    refine ⟨place.works_opening begins, ?_⟩
    cases place with
    | member => exact ⟨_, ⟨works, rfl⟩, (works_name isName mayBeType .body).1⟩
    | parameter => exact ⟨_, ⟨works, rfl⟩, (works_name isName mayBeType .body).2.1⟩
    | statement place =>
        exact ⟨_, ⟨result, classifies, rfl⟩, (works_name isName mayBeType place).2.2⟩

end TypePlace

/-- **Both ways to read a type agree.** In front of a name, tokens that do not begin with `this` and
have no empty chevrons are worked off as a type exactly when they are read as a type-or-reference
that may be a type. So they are accepted as the type of a field or of a parameter exactly when they
are accepted as the type of a variable, in a statement or in the head of a loop. -/
theorem types_agree (dialect : Dialect) (stop name : Token) (t after : List Token)
    (stops : stop.kind = .eot) (isName : name.kind = .ident)
    (noThis : ∀ first ∈ t.head?, first.kind ≠ .keyword .this_) (noDiamond : NoDiamond t) :
    (Works dialect stop ([.type true], t ++ name :: after) ([], name :: after) ↔
        ∃ result, result.canBeType = true ∧
          Classifies dialect stop (t ++ name :: after) result (name :: after)) ∧
      ∀ place other : TypePlace, place.Declares dialect stop t name after ↔
        other.Declares dialect stop t name after := by
  constructor
  · rw [works_type_iff stops isName, classifies_iff_declared stops isName,
      type_iff_declared noThis noDiamond]
  · intro place other
    rw [place.declares_iff stops isName noThis noDiamond,
      other.declares_iff stops isName noThis noDiamond]

/-- `a.B[] x` declares an array, as a field and in a statement. -/
theorem types_agree_array :
    let type : List Token := [⟨.ident, "a", ⟨1, 1⟩⟩, ⟨.dot, ".", ⟨1, 2⟩⟩, ⟨.ident, "B", ⟨1, 3⟩⟩,
      ⟨.lBracket, "[", ⟨1, 4⟩⟩, ⟨.rBracket, "]", ⟨1, 5⟩⟩]
    let name : Token := ⟨.ident, "x", ⟨1, 7⟩⟩
    let stop : Token := ⟨.eot, "", ⟨1, 8⟩⟩
    Works .mini stop ([.type true], type ++ [name]) ([], [name]) ∧
      (∃ result, result.canBeType = true ∧
        Classifies .mini stop (type ++ [name]) result [name]) ∧
      TypePlace.member.Declares .mini stop type name [] ∧
      (TypePlace.statement .body).Declares .mini stop type name [] := by
  intro type name stop
  have derives : Derives .mini (phrase .type) type [] :=
    .nonterminal (.alternative 2 rfl (.sequence (.terminal rfl)
      (.sequence (.again (.sequence (.terminal rfl) (.sequence (.terminal rfl) .empty)) .stop)
        (.sequence (.again (.sequence (.terminal rfl) (.sequence (.terminal rfl) .empty)) .stop)
          .empty))))
  have noThis : ∀ first ∈ type.head?, first.kind ≠ .keyword .this_ := by simp [type]
  have noDiamond : NoDiamond type := by simp [NoDiamond, type]
  obtain ⟨same, agree⟩ := types_agree .mini stop name type [] rfl rfl noThis noDiamond
  have works : Works .mini stop ([.type true], type ++ [name]) ([], [name]) :=
    (works_type_iff rfl rfl).mpr derives
  have member := (TypePlace.member.declares_iff rfl rfl noThis noDiamond).mpr works
  exact ⟨works, same.mp works, member, (agree .member (.statement .body)).mp member⟩

end MiniJ
