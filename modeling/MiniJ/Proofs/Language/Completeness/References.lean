import MiniJ.Proofs.Language.Grammar
import MiniJ.Proofs.Language.Completeness.Steps

/-!
# What accepting a phrase asks for

For completeness each phrase of the grammar gets a property of recognition: work on the symbols for
the phrase is accepted, when work on whatever stands behind them is accepted where the phrase ends
(`Language.Accepting`). Greedy symbols ask for more. A type goes on with dots, brackets and
chevrons, so none of them may be in front where the type ends; an expression and a statement must
stand before something that lets them end. What a type-or-reference is read for is left open: a
reference is accepted when each symbol that can be reached behind it goes on to be.

This module has the types and the types-or-references, whose symbols remember what was read.
-/

set_option autoImplicit false

namespace MiniJ

namespace Language

open Ebnf Grammar

/-! ## The property -/

/-- The agenda that is reached behind an index. In the mini dialect nothing else may follow. -/
def indexEnd (dialect : Dialect) (purpose : Purpose) : List Symbol :=
  if dialect.isMini then classify purpose .reference
  else [.suffixes purpose .reference .index]

/-- The agendas that can be reached behind what can be assigned to. -/
inductive TargetEnd (purpose : Purpose) : Dialect → List Symbol → Prop
  /-- Behind a name, which may still be a type. -/
  | name {dialect : Dialect} {last : LastPart} :
      last.isCallable = true → TargetEnd purpose dialect [.suffixes purpose .undetermined last]
  /-- Behind an index. -/
  | index {dialect : Dialect} : TargetEnd purpose dialect (indexEnd dialect purpose)
  /-- Behind a name in the extended dialect, where the whole is known to be a value. -/
  | member : TargetEnd purpose .extended [.suffixes purpose .reference .member]

/-- The agenda that is reached behind a call. -/
def callEnd (dialect : Dialect) (purpose : Purpose) : List Symbol :=
  if dialect.isMini then classify purpose .referenceUnassignable
  else [.suffixes purpose .reference .arguments]

/-- The agendas that can be reached behind a reference. -/
def ReferenceEnd (purpose : Purpose) (dialect : Dialect) (symbols : List Symbol) : Prop :=
  TargetEnd purpose dialect symbols ∨ symbols = callEnd dialect purpose

/-- The symbols for the brackets of a type, which may be none. -/
def bracketsIf (brackets : Bool) : List Symbol :=
  if brackets then [.emptyBrackets] else []

/-- That work on the symbols for a phrase is accepted, when work on what stands behind them is. -/
def Accepting (dialect : Dialect) (stop : Token) : Phrase → List Token → List Token → Prop
  | .program, ts, us => us = [] → Accepts dialect stop [.program] ts
  | .classDeclaration, ts, us =>
    ∀ rest, Accepts dialect stop rest us →
      Accepts dialect stop (classDeclaration dialect ++ rest) ts
  | .member, ts, us =>
    ∀ rest, Accepts dialect stop rest us →
      Accepts dialect stop (.markers :: .memberType :: .close .memberDeclaration :: rest) ts
  | .parameters, ts, us =>
    ∀ rest, Accepts dialect stop rest us →
      Accepts dialect stop (.token .lParen :: .parameters :: rest) ts
  | .nominal, ts, us =>
    ∀ brackets rest, (dialect = .mini → brackets = false) →
      Accepts dialect stop (bracketsIf brackets ++ rest) us →
      (frontOf stop us).kind ≠ .dot →
      (dialect = .extended → (frontOf stop us).kind ≠ .leftChevron) →
      Accepts dialect stop (.type brackets :: rest) ts
  | .type, ts, us =>
    ∀ rest, Accepts dialect stop rest us →
      (frontOf stop us).kind ∉ [.dot, .leftChevron, .lBracket] →
      Accepts dialect stop (.type true :: rest) ts
  | .block, ts, us =>
    ∀ rest, Accepts dialect stop rest us → Accepts dialect stop (.block :: rest) ts
  | .statement, ts, us =>
    ∀ rest, EndsStatement dialect stop rest → Accepts dialect stop rest us →
      Accepts dialect stop (.statement .body :: rest) ts
  | .simple, ts, us =>
    ∀ place rest, Accepts dialect stop (afterStatement place ++ rest) us →
      Accepts dialect stop (.reference (.statement place) :: rest) ts
  | .forLoop, ts, us =>
    ∀ rest, EndsStatement dialect stop rest → Accepts dialect stop rest us →
      Accepts dialect stop (.statementBody .body :: rest) ts
  | .update, ts, us =>
    ∀ rest, EndsExpression dialect stop rest → (frontOf stop us).kind = .rParen →
      Accepts dialect stop rest us → Accepts dialect stop (.forUpdate :: rest) ts
  | .declared, ts, us =>
    ∀ purpose rest, (frontOf stop us).kind = .ident →
      (∀ result, result.canBeType = true →
        Accepts dialect stop (classify purpose result ++ rest) us) →
      Accepts dialect stop (.reference purpose :: rest) ts
  | .target, ts, us =>
    ∀ purpose rest,
      (∀ symbols, TargetEnd purpose dialect symbols → Accepts dialect stop (symbols ++ rest) us) →
      Accepts dialect stop (.reference purpose :: rest) ts
  | .call, ts, us =>
    ∀ purpose rest, Accepts dialect stop (callEnd dialect purpose ++ rest) us →
      Accepts dialect stop (.reference purpose :: rest) ts
  | .reference, ts, us =>
    ∀ purpose rest,
      (∀ symbols, ReferenceEnd purpose dialect symbols →
        Accepts dialect stop (symbols ++ rest) us) →
      Accepts dialect stop (.reference purpose :: rest) ts
  | .arguments, ts, us =>
    ∀ rest, Accepts dialect stop rest us →
      ∃ current others, ts = current :: others ∧ current.kind = .lParen ∧
        Accepts dialect stop (.elements .rParen :: .close .arguments :: rest) others
  | .initializer, ts, us =>
    ∀ rest, EndsExpression dialect stop rest → Accepts dialect stop rest us →
      Accepts dialect stop (.expression true :: rest) ts
  | .expression, ts, us =>
    ∀ rest, EndsExpression dialect stop rest → Accepts dialect stop rest us →
      Accepts dialect stop (.expression false :: rest) ts
  | .operand, ts, us =>
    ∀ rest, EndsExpression dialect stop rest → Accepts dialect stop (.expressionEnd :: rest) us →
      Accepts dialect stop (.expression false :: rest) ts
  | .tail, ts, us =>
    ∀ rest, EndsExpression dialect stop rest → Accepts dialect stop rest us →
      Accepts dialect stop (.expressionEnd :: rest) ts

/-- Whether a part of a rule takes tokens, with the property for the phrases in it. -/
abbrev Takes (dialect : Dialect) (stop : Token) (part : Part) (ts us : List Token) : Prop :=
  part.Reads Sign.Admits (Accepting dialect stop) ts us

variable {dialect : Dialect} {stop : Token} {rest : List Symbol} {ts us vs : List Token}

/-! ## Types -/

/-- Empty pairs of brackets are all taken. -/
theorem accepts_emptyBrackets (pairs : Takes dialect stop (many brackets) ts us)
    (free : (frontOf stop us).kind ≠ .lBracket) (accepts : Accepts dialect stop rest us) :
    Accepts dialect stop (.emptyBrackets :: rest) ts := by
  induction pairs using Relation.ReflTransGen.head_induction_on with
  | refl => exact accepts_missing (fun _ => rfl) free accepts
  | head once _ ih =>
      obtain ⟨_, ⟨opening, isOpening, rfl⟩, _, ⟨closing, isClosing, rfl⟩, rfl⟩ := once
      exact accepts_present (fun _ => rfl) isOpening (accepts_token isClosing ih)

/-- A name behind a dot is taken by a symbol that asks for one there. -/
theorem accepts_dotted {symbol next : Symbol} (once : Takes dialect stop dotted ts us)
    (expands : ∀ current : Token, current.kind = .dot →
      symbol.expand dialect current = .consume [.token .ident, next])
    (accepts : Accepts dialect stop (next :: rest) us) :
    Accepts dialect stop (symbol :: rest) ts := by
  obtain ⟨_, ⟨dot, isDot, rfl⟩, _, ⟨name, isName, rfl⟩, rfl⟩ := once
  exact .consume (expands dot isDot) (accepts_token isName accepts)

/-- Further type arguments and the closing chevron. No type goes on in front of any of them. -/
theorem accepts_typeArgumentsEnd {closing : Token} (isClosing : closing.kind = .rightChevron)
    (others : Takes dialect stop (many (seq [tok .comma, phrase .type])) ts (closing :: us))
    (accepts : Accepts dialect stop rest us) :
    Accepts dialect stop (.typeArgumentsEnd :: rest) ts ∧
      (frontOf stop ts).kind ∉ [.dot, .leftChevron, .lBracket] := by
  induction others using Relation.ReflTransGen.head_induction_on with
  | refl =>
      have expands : Symbol.typeArgumentsEnd.expand dialect closing =
          .replace [.token .rightChevron] := by
        simp [Symbol.expand, isClosing]
      refine ⟨.replace expands (accepts_token isClosing accepts), ?_⟩
      rw [frontOf_cons, isClosing]
      decide
  | head once _ ih =>
      obtain ⟨_, ⟨comma, (isComma : comma.kind = .comma), rfl⟩, _, type, rfl⟩ := once
      have expands : Symbol.typeArgumentsEnd.expand dialect comma =
          .consume [.typeArguments] := by
        simp [Symbol.expand, isComma]
      refine ⟨.consume expands (.replace rfl (type _ ih.1 ih.2)), ?_⟩
      rw [frontOf_cons, isComma]
      decide

/-- Type arguments behind the opening chevron. -/
theorem accepts_typeArguments
    (arguments : Takes dialect stop (seq [commaList (phrase .type), tok .rightChevron]) ts us)
    (accepts : Accepts dialect stop rest us) :
    Accepts dialect stop (.typeArguments :: rest) ts := by
  obtain ⟨_, ⟨vs, first, _, others, rfl⟩, _, ⟨closing, isClosing, rfl⟩, rfl⟩ := arguments
  obtain ⟨ending, free⟩ := accepts_typeArgumentsEnd isClosing others accepts
  exact .replace rfl (first _ ending free)

/-- Where type arguments are not missing, they are taken as such. -/
theorem accepts_typeArgumentsOrNone
    (accepts : Accepts dialect stop (.typeArguments :: rest) ts) :
    Accepts dialect stop (.typeArgumentsOrNone :: rest) ts := by
  have noChevron : (frontOf stop ts).kind ≠ .rightChevron := by
    have expands : Symbol.typeArguments.expand dialect (frontOf stop ts) =
        .replace [.type true, .typeArgumentsEnd] := rfl
    exact ((accepts_replace expands).mp accepts).front_ne_of_type rfl
  have expands : Symbol.typeArgumentsOrNone.expand dialect (frontOf stop ts) =
      .replace [.typeArguments] := by
    rw [Symbol.expand, if_neg noChevron]
  exact .replace expands accepts

/-- A type that goes on with one more suffix. -/
theorem accepts_typeSuffixes_again {withBrackets : Bool}
    (once : Takes dialect stop (nominalSuffix dialect) ts us)
    (accepts : Accepts dialect stop (.typeSuffixes withBrackets :: rest) us) :
    Accepts dialect stop (.typeSuffixes withBrackets :: rest) ts := by
  have atDot (once : Takes dialect stop dotted ts us) :
      Accepts dialect stop (.typeSuffixes withBrackets :: rest) ts := by
    refine accepts_dotted once (fun current isDot => ?_) accepts
    simp [Symbol.expand, expandTypeSuffixes, isDot]
  cases dialect with
  | mini => exact atDot once
  | extended =>
      have atChevron (chevron : Token) (isChevron : chevron.kind = .leftChevron) :
          (Symbol.typeSuffixes withBrackets).expand .extended chevron =
            .consume [.typeArgumentsOrNone, .typeSuffixes withBrackets] := by
        simp [Symbol.expand, expandTypeSuffixes, isChevron, Dialect.isExtended]
      rcases once with once | none | some | never
      · exact atDot once
      · obtain ⟨_, ⟨opening, isOpening, rfl⟩, _,
          ⟨closing, (isClosing : closing.kind = .rightChevron), rfl⟩, rfl⟩ := none
        have expands : Symbol.typeArgumentsOrNone.expand .extended closing = .consume [] := by
          simp [Symbol.expand, isClosing]
        exact .consume (atChevron opening isOpening) (.consume expands accepts)
      · obtain ⟨_, ⟨opening, isOpening, rfl⟩, arguments⟩ := some
        exact .consume (atChevron opening isOpening)
          (accepts_typeArgumentsOrNone (accepts_typeArguments arguments accepts))
      · exact never.elim

/-- A type goes on with brackets or is over. -/
theorem accepts_typeSuffixes_end (withBrackets : Bool) (noDot : (frontOf stop us).kind ≠ .dot)
    (noChevron : dialect = .extended → (frontOf stop us).kind ≠ .leftChevron)
    (accepts : Accepts dialect stop (bracketsIf withBrackets ++ rest) us) :
    Accepts dialect stop (.typeSuffixes withBrackets :: rest) us := by
  have expands : (Symbol.typeSuffixes withBrackets).expand dialect (frontOf stop us) =
      .replace (bracketsIf withBrackets) := by
    cases withBrackets <;> cases dialect <;>
      simp_all [Symbol.expand, expandTypeSuffixes, bracketsIf, Dialect.isExtended]
  exact .replace expands accepts

theorem accepts_typeSuffixes {withBrackets : Bool}
    (suffixes : Takes dialect stop (many (nominalSuffix dialect)) ts us)
    (accepts : Accepts dialect stop (.typeSuffixes withBrackets :: rest) us) :
    Accepts dialect stop (.typeSuffixes withBrackets :: rest) ts := by
  induction suffixes using Relation.ReflTransGen.head_induction_on with
  | refl => exact accepts
  | head once _ ih => exact accepts_typeSuffixes_again once ih

theorem exists_primitive {kind : TokenKind} (among : kind ∈ Primitive.all.map TokenKind.primitive) :
    ∃ type, kind = .primitive type := by
  obtain ⟨type, -, rfl⟩ := List.mem_map.mp among
  exact ⟨type, rfl⟩

theorem exists_elementPrimitive {kind : TokenKind}
    (among : kind ∈ (Primitive.all.filter (· ≠ .boolean)).map TokenKind.primitive) :
    ∃ type, kind = .primitive type ∧ type ≠ .boolean := by
  obtain ⟨type, member, rfl⟩ := List.mem_map.mp among
  exact ⟨type, rfl, by simpa using (List.mem_filter.mp member).2⟩

/-- A primitive type goes on with brackets or is over. -/
theorem accepts_primitive {withBrackets : Bool} {type : Primitive} {current : Token}
    (here : current.kind = .primitive type)
    (element : withBrackets = true → dialect = .mini → type ≠ .boolean)
    (accepts : Accepts dialect stop (bracketsIf withBrackets ++ rest) us) :
    Accepts dialect stop (.type withBrackets :: rest) (current :: us) := by
  have expands : (Symbol.type withBrackets).expand dialect current =
      .consume (bracketsIf withBrackets) := by
    rw [Symbol.expand, expandType, bracketsIf]
    rw [here]
    cases withBrackets <;> cases dialect <;> simp_all [Dialect.isMini]
  exact .consume expands accepts

/-- A type begins with a name. -/
theorem accepts_type_name {withBrackets : Bool} (name : Takes dialect stop (tok .ident) ts us)
    (accepts : Accepts dialect stop (.typeSuffixes withBrackets :: rest) us) :
    Accepts dialect stop (.type withBrackets :: rest) ts := by
  obtain ⟨current, (here : current.kind = .ident), rfl⟩ := name
  have expands : (Symbol.type withBrackets).expand dialect current =
      .consume [.typeSuffixes withBrackets] := by
    simp [Symbol.expand, expandType, here]
  exact .consume expands accepts

theorem nominal_accepting (row : Takes dialect stop (rule dialect .nominal) ts us) :
    Accepting dialect stop .nominal ts us := by
  intro withBrackets rest bare accepts noDot noChevron
  rcases row with ⟨current, among, rfl⟩ | ⟨vs, name, ws, suffixes, rfl⟩ | never
  · obtain ⟨type, here⟩ := exists_primitive among
    refine accepts_primitive here (fun several mini => ?_) accepts
    rw [bare mini] at several
    cases several
  · have ending := accepts_typeSuffixes_end withBrackets noDot noChevron accepts
    exact accepts_type_name name (accepts_typeSuffixes suffixes ending)
  · exact never.elim

theorem type_accepting (row : Takes dialect stop (rule dialect .type) ts us) :
    Accepting dialect stop .type ts us := by
  intro rest accepts free
  simp only [List.mem_cons, List.not_mem_nil, or_false, not_or] at free
  obtain ⟨noDot, noChevron, noBracket⟩ := free
  -- Behind brackets a type goes on with neither a dot nor a chevron.
  have free {vs : List Token} (pairs : Takes dialect stop (many brackets) vs us) :
      (frontOf stop vs).kind ≠ .dot ∧ (frontOf stop vs).kind ≠ .leftChevron := by
    cases Relation.ReflTransGen.cases_head pairs with
    | inl same =>
        rw [same]
        exact ⟨noDot, noChevron⟩
    | inr more =>
        obtain ⟨ws, ⟨_, ⟨opening, (isOpening : opening.kind = .lBracket), rfl⟩, _⟩, _⟩ := more
        rw [frontOf_cons, isOpening]
        decide
  cases dialect with
  | mini =>
      rcases row with ⟨current, (here : current.kind = .primitive .boolean), rfl⟩ |
        ⟨_, ⟨current, among, rfl⟩, ws, pairs, rfl⟩ | ⟨vs, name, ws, more, xs, pairs, rfl⟩ | never
      · have expands : (Symbol.type true).expand .mini current = .consume [] := by
          simp [Symbol.expand, expandType, here, Dialect.isMini]
        exact .consume expands accepts
      · obtain ⟨type, here, element⟩ := exists_elementPrimitive among
        exact accepts_primitive here (fun _ _ => element)
          (accepts_emptyBrackets pairs noBracket accepts)
      · have brackets := accepts_emptyBrackets pairs noBracket accepts
        exact accepts_type_name name (accepts_typeSuffixes more
          (accepts_typeSuffixes_end true (free pairs).1 (fun _ => (free pairs).2) brackets))
      · exact never.elim
  | extended =>
      obtain ⟨vs, nominal, ws, pairs, rfl⟩ := row
      have brackets := accepts_emptyBrackets pairs noBracket accepts
      exact nominal true rest (fun mini => by cases mini) brackets (free pairs).1
        fun _ => (free pairs).2

/-! ## Types or references -/

section Suffixes

variable {purpose : Purpose} {soFar : Classification} {last : LastPart}

theorem accepts_head (first : Takes dialect stop head ts us)
    (accepts : Accepts dialect stop (.suffixes purpose .undetermined .base :: rest) us) :
    Accepts dialect stop (.reference purpose :: rest) ts := by
  obtain ⟨current, among, rfl⟩ := first
  have among : current.kind ∈ [TokenKind.ident, TokenKind.keyword .this_] := among
  have expands : (Symbol.reference purpose).expand dialect current =
      .consume [.suffixes purpose .undetermined .base] := by
    simp only [List.mem_cons, List.not_mem_nil, or_false] at among
    rcases among with here | here <;> simp [Symbol.expand, expandReference, here]
  exact .consume expands accepts

theorem accepts_suffix_dotted (once : Takes dialect stop dotted ts us)
    (accepts : Accepts dialect stop (.suffixes purpose soFar .member :: rest) us) :
    Accepts dialect stop (.suffixes purpose soFar last :: rest) ts := by
  refine accepts_dotted once (fun current isDot => ?_) accepts
  simp [Symbol.expand, expandSuffixes, isDot]

/-- Behind a name it is still open what it is. -/
theorem accepts_name (row : Takes dialect stop name ts us)
    (each : ∀ last : LastPart, last.isCallable = true →
      Accepts dialect stop (.suffixes purpose .undetermined last :: rest) us) :
    Accepts dialect stop (.reference purpose :: rest) ts := by
  obtain ⟨vs, first, _, more, rfl⟩ := row
  apply accepts_head first
  have further (last : LastPart) (callable : last.isCallable = true) :
      Accepts dialect stop (.suffixes purpose .undetermined last :: rest) vs := by
    clear first
    induction more using Relation.ReflTransGen.head_induction_on generalizing last with
    | refl => exact each last callable
    | head once _ ih => exact accepts_suffix_dotted once (ih .member rfl)
  exact further .base rfl

theorem accepts_suffix_index (noType : soFar ≠ .type) (once : Takes dialect stop index ts us)
    (accepts : Accepts dialect stop (indexEnd dialect purpose ++ rest) us) :
    Accepts dialect stop (.suffixes purpose soFar last :: rest) ts := by
  obtain ⟨vs, ⟨opening, (isOpening : opening.kind = .lBracket), rfl⟩, _, expression, _,
    ⟨closing, isClosing, rfl⟩, rfl⟩ := once
  have inside := expression _ (endsExpression_token (by decide)) (accepts_token isClosing accepts)
  have outside : (Symbol.suffixes purpose soFar last).expand dialect opening =
      .consume [.insideBrackets purpose soFar] := by
    simp [Symbol.expand, expandSuffixes, isOpening]
  have expands : (Symbol.insideBrackets purpose soFar).expand dialect (frontOf stop vs) =
      .replace ([Symbol.expression false, .token .rBracket] ++ indexEnd dialect purpose) := by
    rw [Symbol.expand, expandInsideBrackets, indexEnd]
    rw [if_neg (inside.front_ne_of_expression (by decide)), if_neg noType]
  exact .consume outside (.replace expands (by simpa using inside))

theorem accepts_suffix_arguments (noType : soFar ≠ .type) (callable : last.isCallable = true)
    (arguments : Accepting dialect stop .arguments ts us)
    (accepts : Accepts dialect stop (callEnd dialect purpose ++ rest) us) :
    Accepts dialect stop (.suffixes purpose soFar last :: rest) ts := by
  obtain ⟨opening, others, rfl, isOpening, inside⟩ := arguments _ accepts
  have expands : (Symbol.suffixes purpose soFar last).expand dialect opening =
      .consume ([Symbol.elements .rParen, .close .arguments] ++ callEnd dialect purpose) := by
    simp [Symbol.expand, expandSuffixes, isOpening, noType, callable, callEnd]
  exact .consume expands (by simpa using inside)

theorem accepts_suffix_typeArguments (noReference : soFar ≠ .reference)
    (arguments : Takes .extended stop typeArguments ts us)
    (accepts : Accepts .extended stop (.suffixes purpose .type .typeArguments :: rest) us) :
    Accepts .extended stop (.suffixes purpose soFar last :: rest) ts := by
  obtain ⟨_, ⟨opening, (isOpening : opening.kind = .leftChevron), rfl⟩, inside⟩ := arguments
  have expands : (Symbol.suffixes purpose soFar last).expand .extended opening =
      .consume [.typeArguments, .suffixes purpose .type .typeArguments] := by
    simp [Symbol.expand, expandSuffixes, isOpening, Dialect.isMini, noReference]
  exact .consume expands (accepts_typeArguments inside accepts)

/-- A type-or-reference is over where no suffix follows. -/
theorem accepts_suffixes_end (free : (frontOf stop us).kind ∉ [.dot, .lBracket, .lParen])
    (noChevron : dialect = .extended → (frontOf stop us).kind ≠ .leftChevron)
    (accepts : Accepts dialect stop (classify purpose (settle soFar last) ++ rest) us) :
    Accepts dialect stop (.suffixes purpose soFar last :: rest) us := by
  have expands : (Symbol.suffixes purpose soFar last).expand dialect (frontOf stop us) =
      .replace (classify purpose (settle soFar last)) := by
    rw [Symbol.expand, expandSuffixes]
    split
    · simp_all
    · simp_all
    · cases dialect with
      | mini => rfl
      | extended => exact absurd (by assumption) (noChevron rfl)
    · simp_all
    · rfl
  exact .replace expands accepts

/-- Brackets behind a name, and where they are over. -/
theorem accepts_suffix_brackets (noReference : soFar ≠ .reference)
    (free : (frontOf stop us).kind = .ident) (pairs : Takes dialect stop (many brackets) ts us)
    (each : ∀ result : Classification, result = soFar ∨ result = .type →
      Accepts dialect stop (classify purpose result ++ rest) us) :
    Accepts dialect stop (.suffixes purpose soFar last :: rest) ts := by
  cases Relation.ReflTransGen.cases_head pairs with
  -- no brackets: the name alone is the type
  | inl none =>
      subst none
      have settled : settle soFar last = soFar := by simp [settle, noReference]
      apply accepts_suffixes_end (by simp [free]) (by simp [free])
      rw [settled]
      exact each soFar (.inl rfl)
  -- the first pair is told from an index by what stands inside
  | inr more =>
      obtain ⟨_, ⟨_, ⟨opening, (isOpening : opening.kind = .lBracket), rfl⟩, _,
        ⟨closing, (isClosing : closing.kind = .rBracket), rfl⟩, rfl⟩, others⟩ := more
      have outside : (Symbol.suffixes purpose soFar last).expand dialect opening =
          .consume [.insideBrackets purpose soFar] := by
        simp [Symbol.expand, expandSuffixes, isOpening]
      have inside : (Symbol.insideBrackets purpose soFar).expand dialect closing =
          .consume (.emptyBrackets :: classify purpose .type) := by
        simp [Symbol.expand, expandInsideBrackets, isClosing, noReference]
      refine .consume outside (.consume inside ?_)
      exact accepts_emptyBrackets others (by simp [free]) (each .type (.inr rfl))

/-- A primitive type of a variable. -/
theorem accepts_reference_primitive {type : Primitive} {current : Token}
    (here : current.kind = .primitive type) (element : dialect = .mini → type ≠ .boolean)
    (accepts : Accepts dialect stop (.emptyBrackets :: (classify purpose .type ++ rest)) us) :
    Accepts dialect stop (.reference purpose :: rest) (current :: us) := by
  have expands : (Symbol.reference purpose).expand dialect current =
      .consume (.emptyBrackets :: classify purpose .type) := by
    rw [Symbol.expand, expandReference]
    rw [here]
    cases dialect <;> simp_all [Dialect.isMini]
  exact .consume expands accepts

end Suffixes

theorem declared_accepting (row : Takes dialect stop (rule dialect .declared) ts us) :
    Accepting dialect stop .declared ts us := by
  intro purpose rest free each
  have ends (soFar : Classification) (last : LastPart) (noReference : soFar ≠ .reference)
      (mayBeType : soFar.canBeType = true) {vs : List Token}
      (pairs : Takes dialect stop (many brackets) vs us) :
      Accepts dialect stop (.suffixes purpose soFar last :: rest) vs := by
    refine accepts_suffix_brackets noReference free pairs fun result which => each result ?_
    rcases which with rfl | rfl
    · exact mayBeType
    · rfl
  cases dialect with
  | mini =>
      rcases row with ⟨current, (here : current.kind = .primitive .boolean), rfl⟩ |
        ⟨_, ⟨current, among, rfl⟩, _, pairs, rfl⟩ | ⟨vs, name, _, pairs, rfl⟩ | never
      · have expands : (Symbol.reference purpose).expand .mini current =
            .consume (classify purpose .type) := by
          simp [Symbol.expand, expandReference, here, Dialect.isMini]
        exact .consume expands (each .type rfl)
      · obtain ⟨type, here, element⟩ := exists_elementPrimitive among
        exact accepts_reference_primitive here (fun _ => element)
          (accepts_emptyBrackets pairs (by simp [free]) (each .type rfl))
      · exact accepts_name name fun last _ => ends .undetermined last (by simp) rfl pairs
      · exact never.elim
  | extended =>
      rcases row with ⟨_, ⟨current, among, rfl⟩, _, pairs, rfl⟩ |
        ⟨vs, first, ws, suffixes, _, pairs, rfl⟩ | never
      · obtain ⟨type, here⟩ := exists_primitive among
        exact accepts_reference_primitive here (fun mini => by cases mini)
          (accepts_emptyBrackets pairs (by simp [free]) (each .type rfl))
      · -- Type arguments settle that it is a type, and names leave it at what it was.
        have further (soFar : Classification) (last : LastPart) (noReference : soFar ≠ .reference)
            (mayBeType : soFar.canBeType = true) :
            Accepts .extended stop (.suffixes purpose soFar last :: rest) vs := by
          clear first
          induction suffixes using Relation.ReflTransGen.head_induction_on
            generalizing soFar last with
          | refl => exact ends soFar last noReference mayBeType pairs
          | head once _ ih =>
              rcases once with further | arguments | never
              · exact accepts_suffix_dotted further (ih soFar .member noReference mayBeType)
              · exact accepts_suffix_typeArguments noReference arguments
                  (ih .type .typeArguments (by simp) rfl)
              · exact never.elim
        exact accepts_head first (further .undetermined .base (by simp) rfl)
      · exact never.elim

/-- What is reached behind a reference of the extended dialect can go on. -/
theorem ReferenceEnd.suffixes {purpose : Purpose} {symbols : List Symbol}
    (ended : ReferenceEnd purpose .extended symbols) :
    ∃ soFar last, symbols = [.suffixes purpose soFar last] ∧
      (soFar = .undetermined ∨ soFar = .reference) := by
  rcases ended with ended | rfl
  · cases ended with
    | name => exact ⟨_, _, rfl, .inl rfl⟩
    | index => exact ⟨_, _, rfl, .inr rfl⟩
    | member => exact ⟨_, _, rfl, .inr rfl⟩
  · exact ⟨_, _, rfl, .inr rfl⟩

theorem target_accepting (row : Takes dialect stop (rule dialect .target) ts us) :
    Accepting dialect stop .target ts us := by
  intro purpose rest each
  cases dialect with
  | mini =>
      rcases row with name | ⟨vs, name, _, further, rfl⟩ | never
      · exact accepts_name name fun last callable => each _ (.name callable)
      · exact accepts_name name fun last _ =>
          accepts_suffix_index (by simp) further (each _ .index)
      · exact never.elim
  | extended =>
      rcases row with first | ⟨vs, reference, _, further, rfl⟩ | ⟨vs, reference, _, further, rfl⟩ |
        never
      · exact accepts_head first (each _ (.name rfl))
      · refine reference purpose rest fun symbols ended => ?_
        obtain ⟨soFar, last, rfl, which⟩ := ended.suffixes
        apply accepts_suffix_dotted further
        rcases which with rfl | rfl
        · exact each _ (.name rfl)
        · exact each _ .member
      · refine reference purpose rest fun symbols ended => ?_
        obtain ⟨soFar, last, rfl, which⟩ := ended.suffixes
        refine accepts_suffix_index ?_ further (each _ .index)
        rcases which with rfl | rfl <;> simp
      · exact never.elim

theorem call_accepting (row : Takes dialect stop (rule dialect .call) ts us) :
    Accepting dialect stop .call ts us := by
  intro purpose rest accepts
  cases dialect with
  | mini =>
      obtain ⟨vs, name, _, arguments, rfl⟩ := row
      exact accepts_name name fun last callable =>
        accepts_suffix_arguments (by simp) callable arguments accepts
  | extended =>
      rcases row with ⟨vs, first, _, arguments, rfl⟩ |
        ⟨vs, reference, ws, further, _, arguments, rfl⟩ | never
      · exact accepts_head first (accepts_suffix_arguments (by simp) rfl arguments accepts)
      · refine reference purpose rest fun symbols ended => ?_
        obtain ⟨soFar, last, rfl, which⟩ := ended.suffixes
        refine accepts_suffix_dotted further (accepts_suffix_arguments ?_ rfl arguments accepts)
        rcases which with rfl | rfl <;> simp
      · exact never.elim

theorem reference_accepting (row : Takes dialect stop (rule dialect .reference) ts us) :
    Accepting dialect stop .reference ts us := by
  intro purpose rest each
  rcases row with target | call | never
  · exact target purpose rest fun symbols ended => each symbols (.inl ended)
  · exact call purpose rest (each _ (.inr rfl))
  · exact never.elim

/-! ## Where a reference is over -/

section Ends

variable {purpose : Purpose} {symbols : List Symbol}

/-- What can be assigned to is classified so where no suffix follows. -/
theorem TargetEnd.accepts (ended : TargetEnd purpose dialect symbols)
    (free : (frontOf stop us).kind ∉ [.dot, .lBracket, .lParen])
    (noChevron : dialect = .extended → (frontOf stop us).kind ≠ .leftChevron)
    (each : ∀ result : Classification, result.isAssignable = true →
      Accepts dialect stop (classify purpose result ++ rest) us) :
    Accepts dialect stop (symbols ++ rest) us := by
  cases ended with
  | name => exact accepts_suffixes_end free noChevron (each _ rfl)
  | index =>
      cases dialect with
      | mini => exact each .reference rfl
      | extended => exact accepts_suffixes_end free noChevron (each _ rfl)
  | member => exact accepts_suffixes_end free noChevron (each _ rfl)

/-- A call is classified as a value that can only be read. -/
theorem accepts_callEnd (free : (frontOf stop us).kind ∉ [.dot, .lBracket, .lParen])
    (noChevron : dialect = .extended → (frontOf stop us).kind ≠ .leftChevron)
    (accepts : Accepts dialect stop (classify purpose .referenceUnassignable ++ rest) us) :
    Accepts dialect stop (callEnd dialect purpose ++ rest) us := by
  cases dialect with
  | mini => exact accepts
  | extended => exact accepts_suffixes_end free noChevron accepts

theorem ReferenceEnd.accepts (ended : ReferenceEnd purpose dialect symbols)
    (free : (frontOf stop us).kind ∉ [.dot, .lBracket, .lParen])
    (noChevron : dialect = .extended → (frontOf stop us).kind ≠ .leftChevron)
    (each : ∀ result : Classification, result ≠ .type →
      Accepts dialect stop (classify purpose result ++ rest) us) :
    Accepts dialect stop (symbols ++ rest) us := by
  rcases ended with ended | rfl
  · refine ended.accepts free noChevron fun result assignable => each result ?_
    rintro rfl
    cases assignable
  · exact accepts_callEnd free noChevron (each _ (by simp))

end Ends

end Language

end MiniJ
