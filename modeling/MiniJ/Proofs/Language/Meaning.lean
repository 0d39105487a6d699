import MiniJ.Proofs.Language.Grammar
import MiniJ.Proofs.Recognition.Acceptance

/-!
# What the symbols of an agenda mean

Each symbol of an agenda has a meaning in terms of the grammar: what it may take from a token list
(`Language.Means`). For most symbols this is a part of a rule. A type-or-reference is read before it
is known what it is, so the meaning of its suffixes looks back: whatever was read before them
becomes, with them, what the type-or-reference is read for.

What was read before is a part of the grammar too (`Language.soFarAs`), and the lemmas below say
what each suffix makes of it, up to what the whole is settled to be (`classifiedAs_settle`).
-/

set_option autoImplicit false

namespace MiniJ

namespace Language

open Ebnf Grammar

/-! ## Meanings -/

/-- What a type-or-reference is so far. -/
def soFarAs (dialect : Dialect) : Classification → LastPart → Part
  | .undetermined, _ => name
  | .type, _ => orInExtended dialect (seq [head, many (oneOf [dotted, typeArguments])])
  | .reference, .member => orInExtended dialect (seq [phrase .reference, dotted])
  | .reference, .index => orInExtended dialect (phrase .target)
  | .reference, .arguments => orInExtended dialect (phrase .call)
  | _, _ => never

/-- What a type-or-reference is that was classified. -/
def classifiedAs : Classification → Part
  | .undetermined => name
  | .type => phrase .declared
  | .reference => phrase .target
  | .referenceUnassignable => phrase .call

/-- What comes behind a statement at a place. -/
def behind : Place → Part
  | .body => seq []
  | .forHead => forRest

/-- What a statement at a place stands for, with what comes behind it. -/
def statementAt : Place → Part
  | .body => phrase .statement
  | .forHead => oneOf [seq [forStart, forRest], forEach]

/-- What a statement that begins with a type-or-reference stands for. -/
def simpleAt : Place → Part
  | .body => phrase .simple
  | .forHead => oneOf [seq [phrase .simple, forRest], forEach]

/-- A part behind which the extended dialect would go on with type arguments. -/
def notBeforeChevron (dialect : Dialect) (part : Part) : Part :=
  match dialect with
  | .mini => part
  | .extended => notBefore (.kind .leftChevron) part

/-- What a type-or-reference is read for, with all that comes behind it for the purpose. -/
def purposeAs (dialect : Dialect) : Purpose → Part
  | .operand _ => notBeforeChevron dialect (phrase .reference)
  | .update _ => phrase .reference
  | .statement place => simpleAt place
  | .forUpdate => phrase .update

/-- What follows the name in a declaration at a place. -/
def declarationEndAt (dialect : Dialect) : Place → Part
  | .body => declarationEnd dialect
  | .forHead =>
    oneOf [seq [declarationEnd dialect, forRest],
      seq [tok .colon, phrase .expression, tok .rParen, phrase .statement]]

/-- What follows the name of a method. -/
def methodEnd (dialect : Dialect) : Part :=
  seq [phrase .parameters, inExtended dialect (opt (seq [word .throws_, phrase .nominal])),
    phrase .block]

/-- What follows a name of fields. -/
def fieldsEnd (dialect : Dialect) : Part :=
  seq [many (seq [tok .comma, tok .ident]), inExtended dialect (opt initial), tok .semicolon]

/-- What follows a name of a member. -/
def memberEndAs (dialect : Dialect) (isVoid several : Bool) : Part :=
  match isVoid, several with
  | true, true => never
  | true, false => methodEnd dialect
  | false, true => fieldsEnd dialect
  | false, false => oneOf [methodEnd dialect, fieldsEnd dialect]

/-- The part of the grammar that a symbol stands for, unless it looks back. -/
def meaning (dialect : Dialect) : Symbol → Part
  | .terminal [kind] => tok kind
  | .terminal kinds => terminal (.anyOf kinds)
  | .announce _ | .close _ => empty
  | .type true => phrase .type
  | .type false => oneOf [primitive, notBeforeChevron dialect (phrase .nominal)]
  | .typeSuffixes true => seq [many (nominalSuffix dialect), many brackets]
  | .typeSuffixes false => notBeforeChevron dialect (many (nominalSuffix dialect))
  | .typeArgumentsOrNone =>
    oneOf [tok .rightChevron, seq [commaList (phrase .type), tok .rightChevron]]
  | .typeArguments => seq [commaList (phrase .type), tok .rightChevron]
  | .typeArgumentsEnd => seq [many (seq [tok .comma, phrase .type]), tok .rightChevron]
  | .emptyBrackets => many brackets
  | .reference purpose => purposeAs dialect purpose
  | .suffixes _ _ _ | .insideBrackets _ _ | .classified _ _ => never
  | .expression true => phrase .initializer
  | .expression false => phrase .expression
  | .expressionEnd => opt (phrase .tail)
  | .elements closing => seq [elements, tok closing]
  | .elementsEnd closing =>
    seq [many (seq [tok .comma, phrase .expression]), opt (tok .comma), tok closing]
  | .constructorArguments =>
    match dialect with
    | .mini => opt (seq [tok .lParen, tok .rParen])
    | .extended => opt (phrase .arguments)
  | .dimensions => many index
  | .statement place | .statementBody place => statementAt place
  | .block => phrase .block
  | .statements => seq [many (phrase .statement), tok .rBrace]
  | .returnValue => seq [opt (phrase .expression), tok .semicolon]
  | .declarationEnd place => declarationEndAt dialect place
  | .update => seq [tok .incDec, phrase .reference]
  | .elseBranch => opt (seq [word .else_, phrase .statement])
  | .forInit => oneOf [seq [forStart, forRest], forEach]
  | .forCondition => forRest
  | .forUpdate => opt (phrase .update)
  | .forBody => seq [tok .rParen, phrase .statement]
  | .tryEnd => tryEnd
  | .finallyBlock => opt finallyBlock
  | .program => phrase .program
  | .dottedNames => many dotted
  | .imports => many importDeclaration
  | .importNames => seq [many dotted, opt (seq [tok .dot, terminal .star])]
  | .importName =>
    oneOf [terminal .star,
      seq [tok .ident, many dotted, opt (seq [tok .dot, terminal .star])]]
  | .classes => many (phrase .classDeclaration)
  | .markers => markers
  | .modifiers => many (tok .modifier)
  | .className => tok .ident
  | .superclass => inExtended dialect (opt (seq [word .extends_, phrase .nominal]))
  | .members => seq [many (phrase .member), tok .rBrace]
  | .memberType =>
    oneOf [seq [word .void_, method dialect], seq [phrase .type, method dialect],
      seq [phrase .type, fields dialect]]
  | .memberName true => method dialect
  | .memberName false => oneOf [method dialect, fields dialect]
  | .memberEnd isVoid _ several => memberEndAs dialect isVoid several
  | .parameters => seq [opt (commaList (parameter dialect)), tok .rParen]
  | .parameter => seq [commaList (parameter dialect), tok .rParen]
  | .ellipsis => inExtended dialect (opt (tok .ellipsis))
  | .parametersEnd => seq [many (seq [tok .comma, parameter dialect]), tok .rParen]
  | .throwsClause => inExtended dialect (opt (seq [word .throws_, phrase .nominal]))

/-- What a symbol may take from a token list. -/
def Means (dialect : Dialect) : Symbol → List Token → List Token → Prop
  | .suffixes purpose soFar last, ts, us =>
    ∀ start, Derives dialect (soFarAs dialect soFar last) start ts →
      Derives dialect (purposeAs dialect purpose) start us
  | .insideBrackets purpose soFar, ts, us =>
    ∀ start last bracket, bracket.kind = .lBracket →
      Derives dialect (soFarAs dialect soFar last) start (bracket :: ts) →
      Derives dialect (purposeAs dialect purpose) start us
  | .classified purpose result, ts, us =>
    ∀ start, Derives dialect (classifiedAs result) start ts →
      (dialect = .extended → result ≠ .type →
        ∀ token ∈ ts.head?, ¬ (Sign.kind .leftChevron).Admits token) →
      Derives dialect (purposeAs dialect purpose) start us
  | symbol, ts, us => Derives dialect (meaning dialect symbol) ts us

/-- What symbols in a row may take from a token list. -/
def MeansAll (dialect : Dialect) : List Symbol → List Token → List Token → Prop
  | [], ts, us => ts = us
  | symbol :: symbols, ts, us => ∃ vs, Means dialect symbol ts vs ∧ MeansAll dialect symbols vs us

theorem meansAll_append {dialect : Dialect} {symbols others : List Symbol} {ts us : List Token}
    (all : MeansAll dialect (symbols ++ others) ts us) :
    ∃ vs, MeansAll dialect symbols ts vs ∧ MeansAll dialect others vs us := by
  induction symbols generalizing ts with
  | nil => exact ⟨ts, rfl, all⟩
  | cons symbol symbols ih =>
      obtain ⟨vs, first, rest⟩ := all
      obtain ⟨ws, middle, last⟩ := ih rest
      exact ⟨ws, ⟨vs, first, middle⟩, last⟩

variable {dialect : Dialect} {ts us vs : List Token}

/-! ## Parts of rules -/

/-- A name and what follows its first part. -/
theorem name_reads (derives : Derives dialect name ts us) :
    ∃ first rest, ts = first :: rest ∧ first.kind ∈ [.ident, .keyword .this_] ∧
      Derives dialect (many dotted) rest us := by
  obtain ⟨vs, ⟨first, isHead, rfl⟩, ws, more, rfl⟩ := derives.reads
  exact ⟨first, vs, rfl, isHead, .of_reads more⟩

/-- The first part of a list with commas and the rest of it, whatever comes behind the list. -/
theorem commaList_of_first {part rest : Part} (first : Derives dialect part ts us)
    (more : Derives dialect (Ebnf.sequence (many (seq [tok .comma, part])) rest) us vs) :
    Derives dialect (Ebnf.sequence (commaList part) rest) ts vs := by
  cases more with
  | sequence others behind => exact .sequence (.sequence first (.sequence others .empty)) behind

/-- A list goes on with a comma as it began. -/
theorem commaList_again {part rest : Part} {comma : Token} (here : comma.kind = .comma)
    (list : Derives dialect (Ebnf.sequence (commaList part) rest) ts us) :
    Derives dialect (Ebnf.sequence (many (seq [tok .comma, part])) rest) (comma :: ts) us := by
  obtain ⟨vs, ⟨ws, first, _, others, rfl⟩, behind⟩ := list.reads
  have once : Derives dialect (seq [tok .comma, part]) (comma :: ts) ws :=
    .sequence (.terminal here) (.sequence (.of_reads first) .empty)
  exact .sequence (.again once (.of_reads others)) (.of_reads behind)

theorem reference_of_target (target : Derives dialect (phrase .target) ts us) :
    Derives dialect (phrase .reference) ts us :=
  .nonterminal (.one target)

theorem reference_of_call (call : Derives dialect (phrase .call) ts us) :
    Derives dialect (phrase .reference) ts us :=
  .nonterminal (.other (.one call))

/-- A name can be assigned to. -/
theorem target_of_name (derives : Derives dialect name ts us) :
    Derives dialect (phrase .target) ts us := by
  cases dialect with
  | mini => exact .nonterminal (.one derives)
  | extended =>
      obtain ⟨first, rest, rfl, isHead, more⟩ := name_reads derives
      have row := derives_many.mp more
      clear derives more
      -- Each further name makes what was read so far a reference.
      induction row with
      | refl => exact .nonterminal (.one (.terminal isHead))
      | tail _ once ih =>
          exact .nonterminal (.other (.one
            (.sequence (reference_of_target ih) (.sequence once .empty))))

/-- A name with arguments behind it is a call. -/
theorem call_of_name (derives : Derives dialect name ts us)
    (arguments : Derives dialect (phrase .arguments) us vs) :
    Derives dialect (phrase .call) ts vs := by
  cases dialect with
  | mini => exact .nonterminal (.sequence derives (.sequence arguments .empty))
  | extended =>
      obtain ⟨first, rest, rfl, isHead, more⟩ := name_reads derives
      cases derives_many.mp more with
      | refl =>
          exact .nonterminal (.one (.sequence (.terminal isHead) (.sequence arguments .empty)))
      | tail before last =>
          -- All but the last name are a reference.
          have prefixed : Derives .extended name (first :: rest) _ :=
            .sequence (.terminal isHead) (.sequence (derives_many.mpr before) .empty)
          exact .nonterminal (.other (.one (.sequence
            (reference_of_target (target_of_name prefixed))
            (.sequence last (.sequence arguments .empty)))))

/-- A name may be the type of a variable, with brackets behind it or without. -/
theorem declared_of_name (derives : Derives dialect name ts us)
    (pairs : Derives dialect (many brackets) us vs) :
    Derives dialect (phrase .declared) ts vs := by
  cases dialect with
  | mini => exact .nonterminal (.alternative 2 rfl (.sequence derives (.sequence pairs .empty)))
  | extended =>
      obtain ⟨first, rest, rfl, isHead, more⟩ := name_reads derives
      have suffixes : Derives .extended (many (oneOf [dotted, typeArguments])) rest us :=
        more.many_mono fun _ _ => .one
      exact .nonterminal (.other (.one (.sequence (.terminal isHead)
        (.sequence suffixes (.sequence pairs .empty)))))

/-! ## What a type-or-reference is so far -/

/-- Only a whole is classified as a value that can only be read. -/
theorem not_derives_unassignable {last : LastPart} :
    ¬ Derives dialect (soFarAs dialect .referenceUnassignable last) ts us := by
  intro before
  cases last <;> exact before.reads.elim

/-- In the mini dialect nothing goes on behind what is known to be a value or a type. -/
theorem undetermined_of_mini {soFar : Classification} {last : LastPart}
    (before : Derives .mini (soFarAs .mini soFar last) ts us) : soFar = .undetermined := by
  cases soFar with
  | undetermined => rfl
  | type => exact before.reads.elim
  | reference => cases last <;> exact before.reads.elim
  | referenceUnassignable => exact absurd before not_derives_unassignable

/-- What is known to be a value is a reference, with its last part or without. -/
theorem reference_of_soFarAs {last : LastPart}
    (before : Derives dialect (soFarAs dialect .reference last) ts us) :
    Derives dialect (phrase .reference) ts us := by
  cases dialect with
  | mini => cases undetermined_of_mini before
  | extended =>
      cases last with
      | member => exact reference_of_target (.nonterminal (.other (.one before)))
      | index => exact reference_of_target before
      | arguments => exact reference_of_call before
      | base | typeArguments => exact before.reads.elim

/-- A name behind a dot goes on with what there is. -/
theorem soFarAs_dotted {soFar : Classification} {last : LastPart}
    (before : Derives dialect (soFarAs dialect soFar last) ts us)
    (further : Derives dialect dotted us vs) :
    Derives dialect (soFarAs dialect soFar .member) ts vs := by
  cases soFar with
  | undetermined =>
      obtain ⟨ws, first, xs, more, rfl⟩ := before.reads
      exact .sequence (.of_reads first) (.sequence (.snoc (.of_reads more) further) .empty)
  | type =>
      cases dialect with
      | mini => cases undetermined_of_mini before
      | extended =>
          obtain ⟨ws, first, xs, more, rfl⟩ := before.reads
          exact .sequence (.of_reads first)
            (.sequence (.snoc (.of_reads more) (.one further)) .empty)
  | reference =>
      have reference := reference_of_soFarAs before
      cases dialect with
      | mini => cases undetermined_of_mini before
      | extended => exact .sequence reference (.sequence further .empty)
  | referenceUnassignable => exact absurd before not_derives_unassignable

/-- Type arguments make it a type. -/
theorem soFarAs_typeArguments {soFar : Classification} {last : LastPart}
    (mayBeType : soFar ≠ .reference)
    (before : Derives .extended (soFarAs .extended soFar last) ts us)
    (arguments : Derives .extended typeArguments us vs) :
    Derives .extended (soFarAs .extended .type .typeArguments) ts vs := by
  cases soFar with
  | undetermined =>
      obtain ⟨ws, first, xs, more, rfl⟩ := before.reads
      have suffixes : Derives .extended (many (oneOf [dotted, typeArguments])) ws xs :=
        Derives.many_mono (fun _ _ => .one) (.of_reads more)
      exact .sequence (.of_reads first)
        (.sequence (.snoc suffixes (.other (.one arguments))) .empty)
  | type =>
      obtain ⟨ws, first, xs, more, rfl⟩ := before.reads
      exact .sequence (.of_reads first)
        (.sequence (.snoc (.of_reads more) (.other (.one arguments))) .empty)
  | reference => exact absurd rfl mayBeType
  | referenceUnassignable => exact absurd before not_derives_unassignable

/-- Brackets make it the type of a variable. -/
theorem declared_of_brackets {soFar : Classification} {last : LastPart}
    (mayBeType : soFar ≠ .reference)
    (before : Derives dialect (soFarAs dialect soFar last) ts us)
    (pairs : Derives dialect (many brackets) us vs) :
    Derives dialect (phrase .declared) ts vs := by
  cases soFar with
  | undetermined => exact declared_of_name before pairs
  | type =>
      cases dialect with
      | mini => cases undetermined_of_mini before
      | extended =>
          obtain ⟨ws, first, xs, more, rfl⟩ := before.reads
          exact .nonterminal (.other (.one (.sequence (.of_reads first)
            (.sequence (.of_reads more) (.sequence pairs .empty)))))
  | reference => exact absurd rfl mayBeType
  | referenceUnassignable => exact absurd before not_derives_unassignable

/-- What is no type is a reference that can be indexed. -/
theorem target_of_index {soFar : Classification} {last : LastPart} (noType : soFar ≠ .type)
    (before : Derives dialect (soFarAs dialect soFar last) ts us)
    (further : Derives dialect index us vs) : Derives dialect (phrase .target) ts vs := by
  cases soFar with
  | undetermined =>
      cases dialect with
      | mini => exact .nonterminal (.other (.one (.sequence before (.sequence further .empty))))
      | extended =>
          exact .nonterminal (.alternative 2 rfl (.sequence
            (reference_of_target (target_of_name before)) (.sequence further .empty)))
  | type => exact absurd rfl noType
  | reference =>
      have reference := reference_of_soFarAs before
      cases dialect with
      | mini => cases undetermined_of_mini before
      | extended =>
          exact .nonterminal (.alternative 2 rfl (.sequence reference
            (.sequence further .empty)))
  | referenceUnassignable => exact absurd before not_derives_unassignable

/-- What is no type and ends with a name can be called. -/
theorem call_of_arguments {soFar : Classification} {last : LastPart} (noType : soFar ≠ .type)
    (callable : last.isCallable = true)
    (before : Derives dialect (soFarAs dialect soFar last) ts us)
    (arguments : Derives dialect (phrase .arguments) us vs) :
    Derives dialect (phrase .call) ts vs := by
  cases soFar with
  | undetermined => exact call_of_name before arguments
  | type => exact absurd rfl noType
  | reference =>
      cases last with
      -- only a name can be called, and it is the last part of what was read
      | base => exact before.reads.elim
      | member =>
          cases dialect with
          | mini => cases undetermined_of_mini before
          | extended =>
              obtain ⟨ws, reference, xs, further, rfl⟩ := before.reads
              exact .nonterminal (.other (.one (.sequence reference
                (.sequence (.of_reads further) (.sequence arguments .empty)))))
      | index | arguments | typeArguments => cases callable
  | referenceUnassignable => exact absurd before not_derives_unassignable

/-- What ends here is what it was settled to be. -/
theorem classifiedAs_settle {soFar : Classification} {last : LastPart}
    (before : Derives dialect (soFarAs dialect soFar last) ts us) :
    Derives dialect (classifiedAs (settle soFar last)) ts us := by
  cases soFar with
  | undetermined => exact before
  | type => exact declared_of_brackets (by simp) before .stop
  | reference =>
      cases dialect with
      | mini => cases undetermined_of_mini before
      | extended =>
          cases last with
          | member => exact .nonterminal (.other (.one before))
          | index => exact before
          | arguments => exact before
          | base | typeArguments => exact before.reads.elim
  | referenceUnassignable => exact absurd before not_derives_unassignable

end Language

end MiniJ
