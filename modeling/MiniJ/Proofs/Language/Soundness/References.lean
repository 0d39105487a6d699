import MiniJ.Proofs.Language.Meaning
import MiniJ.Proofs.Recognition.Acceptance

/-!
# Sound expansions of types and references

An expansion is sound when its symbols together mean no more than the symbol they stand for
(`Expansion.Sound`). This module has the notion and the symbols for types and for
types-or-references.
-/

set_option autoImplicit false

namespace MiniJ

/-- That an expansion in front of a token means no more than the symbol it comes from. -/
def Expansion.Sound (dialect : Dialect) (stop current : Token)
    (reads : List Token → List Token → Prop) : Expansion → Prop
  | .replace symbols =>
    ∀ ts us, frontOf stop ts = current → Language.MeansAll dialect symbols ts us → reads ts us
  | .consume symbols =>
    ∀ ts us, Language.MeansAll dialect symbols ts us → reads (current :: ts) us
  | .announce _ => ∀ ts, reads ts ts
  | .reject _ => True

/-- That a dialect has tokens of the kind of a token. -/
def Token.Legal (dialect : Dialect) (token : Token) : Prop :=
  dialect = .mini → token.kind.isExtendedOnly = false

namespace Language

open Ebnf Grammar

variable {dialect : Dialect} {stop current : Token} {ts us vs : List Token}

theorem dialect_of_extendedOnly (legal : current.Legal dialect)
    (only : current.kind.isExtendedOnly = true) : dialect = .extended := by
  cases dialect with
  | mini => exact absurd (legal rfl) (by simp [only])
  | extended => rfl

/-- An expansion that takes the token in front when it is of a kind, and no token otherwise. -/
theorem either_sound {kind : TokenKind} {consumed replaced : List Symbol}
    {reads : List Token → List Token → Prop}
    (takes : current.kind = kind → ∀ ts us, MeansAll dialect consumed ts us →
      reads (current :: ts) us)
    (leaves : ∀ ts us, MeansAll dialect replaced ts us → reads ts us) :
    (if current.kind = kind then Expansion.consume consumed else .replace replaced).Sound
      dialect stop current reads := by
  split
  · rename_i here
    exact takes here
  · exact fun ts us _ all => leaves ts us all

/-- A token that may be missing is sound with what follows it, when nothing is sound too. -/
theorem optional_sound {kind : TokenKind} {symbols : List Symbol}
    {reads : List Token → List Token → Prop}
    (present : current.kind = kind → ∀ ts us, MeansAll dialect symbols ts us →
      reads (current :: ts) us)
    (missing : ∀ ts, reads ts ts) :
    (Grammar.optional kind symbols current).Sound dialect stop current reads :=
  either_sound present fun ts _ none => none ▸ missing ts

/-- A part of the extended dialect that may be missing. -/
theorem missing_inExtended {part : Part} (ts : List Token) :
    Derives dialect (inExtended dialect (opt part)) ts ts := by
  cases dialect with
  | mini => exact .empty
  | extended => exact .other .empty

/-! ## Types -/

theorem derives_primitive {type : Primitive} (here : current.kind = .primitive type) :
    Derives dialect primitive (current :: us) us :=
  .terminal (by
    simp only [Sign.Admits, here]
    exact List.mem_map_of_mem (by cases type <;> decide))

theorem derives_elementPrimitive {type : Primitive} (here : current.kind = .primitive type)
    (element : type ≠ .boolean) : Derives dialect elementPrimitive (current :: us) us :=
  .terminal (by
    simp only [Sign.Admits, here]
    exact List.mem_map_of_mem (by cases type <;> simp_all [Primitive.all]))

theorem derives_dotted (here : current.kind = .dot) (name : Derives dialect (tok .ident) ts us) :
    Derives dialect dotted (current :: ts) us :=
  .sequence (.terminal here) (.sequence name .empty)

theorem notBeforeChevron_of_front {part : Part} (derives : Derives dialect part ts us)
    (free : dialect = .extended → ∀ token ∈ us.head?, ¬ (Sign.kind .leftChevron).Admits token) :
    Derives dialect (notBeforeChevron dialect part) ts us := by
  cases dialect with
  | mini => exact derives
  | extended => exact .notBefore derives (free rfl)

/-- What a part means does not change when nothing is asked of what follows. -/
theorem of_notBeforeChevron {part : Part}
    (derives : Derives dialect (notBeforeChevron dialect part) ts us) :
    Derives dialect part ts us := by
  cases dialect with
  | mini => exact derives
  | extended => exact .of_reads derives.reads.1

theorem nominal_of_type (derives : Means dialect (.type false) ts us) :
    Derives dialect (phrase .nominal) ts us := by
  rcases derives.reads with primitive | named | never
  · exact .nonterminal (.one (.of_reads primitive))
  · exact of_notBeforeChevron (.of_reads named)
  · exact never.elim

/-- A token in front that is no chevron. -/
theorem notChevron_of_front (front : frontOf stop ts = current)
    (other : current.kind ≠ .leftChevron) :
    ∀ token ∈ ts.head?, ¬ (Sign.kind .leftChevron).Admits token := by
  intro token here
  cases ts with
  | nil => cases here
  | cons first rest =>
      cases here
      rw [frontOf_cons] at front
      rw [front]
      exact other

theorem expandType_sound (brackets : Bool) (current : Token) :
    (expandType dialect brackets current).Sound dialect stop current
      (Means dialect (.type brackets)) := by
  rw [expandType]
  split
  · rename_i type here
    split
    · -- a primitive type that may be followed by brackets
      rename_i several
      rintro ts us ⟨vs, pairs, rfl⟩
      rw [Bool.and_eq_true] at several
      obtain ⟨rfl, element⟩ := several
      cases dialect with
      | mini =>
          have element : type ≠ .boolean := by simpa [Dialect.isMini] using element
          exact .nonterminal (.other (.one (.sequence (derives_elementPrimitive here element)
            (.sequence pairs .empty))))
      | extended =>
          exact .nonterminal (.sequence (.nonterminal (.one (derives_primitive here)))
            (.sequence pairs .empty))
    · -- a primitive type alone: none are asked for, or `boolean` takes none
      rename_i single
      rintro ts us rfl
      cases brackets with
      | false => exact .one (derives_primitive here)
      | true =>
          have truth : dialect = .mini ∧ type = .boolean := by
            cases dialect <;> simp_all [Dialect.isMini]
          obtain ⟨rfl, rfl⟩ := truth
          exact .nonterminal (.one (.terminal here))
  · -- a named type: what its suffixes mean depends on the brackets, too
    rename_i here
    rintro ts us ⟨vs, more, rfl⟩
    cases brackets with
    | true =>
        obtain ⟨ws, suffixes, xs, pairs, rfl⟩ := more.reads
        cases dialect with
        | mini =>
            exact .nonterminal (.alternative 2 rfl (.sequence (.terminal here)
              (.sequence (.of_reads suffixes) (.sequence (.of_reads pairs) .empty))))
        | extended =>
            exact .nonterminal (.sequence (.nonterminal (.other (.one (.sequence (.terminal here)
              (.sequence (.of_reads suffixes) .empty))))) (.sequence (.of_reads pairs) .empty))
    | false =>
        refine .other (.one ?_)
        have name {us} (suffixes : Derives dialect (many (nominalSuffix dialect)) ts us) :
            Derives dialect (phrase .nominal) (current :: ts) us :=
          .nonterminal (.other (.one (.sequence (.terminal here) (.sequence suffixes .empty))))
        cases dialect with
        | mini => exact name more
        | extended => exact .notBefore (name (.of_reads more.reads.1)) more.reads.2
  · trivial

/-- One more suffix of a type. -/
theorem means_typeSuffixes_again {brackets : Bool}
    (once : Derives dialect (nominalSuffix dialect) ts us)
    (more : Means dialect (.typeSuffixes brackets) us vs) :
    Means dialect (.typeSuffixes brackets) ts vs := by
  cases brackets with
  | true => exact .cons once more
  | false =>
      cases dialect with
      | mini => exact .again once more
      | extended => exact .notBefore (.again once (.of_reads more.reads.1)) more.reads.2

theorem expandTypeSuffixes_sound (brackets : Bool) (current : Token) :
    (expandTypeSuffixes dialect brackets current).Sound dialect stop current
      (Means dialect (.typeSuffixes brackets)) := by
  rw [expandTypeSuffixes]
  split
  · rename_i here
    rintro ts us ⟨vs, name, ws, more, rfl⟩
    -- the name behind the dot is one more suffix
    refine means_typeSuffixes_again ?_ more
    cases dialect with
    | mini => exact derives_dotted here name
    | extended => exact .one (derives_dotted here name)
  split
  · -- type arguments, which may be none
    rename_i chevron
    rintro ts us ⟨vs, arguments, ws, more, rfl⟩
    refine means_typeSuffixes_again ?_ more
    cases dialect with
    | mini => cases chevron
    | extended =>
        have here : current.kind = .leftChevron := by simpa [Dialect.isExtended] using chevron
        rcases arguments.reads with closing | some | never
        · exact .other (.one (.sequence (.terminal here) (.sequence (.of_reads closing) .empty)))
        · exact .alternative 2 rfl (.sequence (.terminal here) (.of_reads some))
        · exact never.elim
  -- nothing more of the name: the token in front is no chevron that could go on with it
  rename_i noChevron
  split
  · rename_i several
    subst several
    rintro ts us - ⟨vs, pairs, rfl⟩
    exact .sequence .stop (.sequence pairs .empty)
  · rename_i single
    rintro ts us front rfl
    rw [Bool.not_eq_true] at single
    subst single
    refine notBeforeChevron_of_front .stop fun extended => notChevron_of_front front ?_
    intro chevron
    exact noChevron (by simp [extended, Dialect.isExtended, chevron])

theorem typeArgumentsOrNone_sound (current : Token) :
    (Symbol.typeArgumentsOrNone.expand dialect current).Sound dialect stop current
      (Means dialect .typeArgumentsOrNone) := by
  refine either_sound ?_ ?_
  · -- the closing chevron at once: there are no arguments
    rintro here ts us rfl
    exact .one (.terminal here)
  · rintro ts us ⟨vs, arguments, rfl⟩
    exact .other (.one arguments)

theorem typeArguments_sound (current : Token) :
    (Symbol.typeArguments.expand dialect current).Sound dialect stop current
      (Means dialect .typeArguments) := by
  rintro ts us - ⟨vs, type, ws, rest, rfl⟩
  exact commaList_of_first type rest

theorem typeArgumentsEnd_sound (current : Token) :
    (Symbol.typeArgumentsEnd.expand dialect current).Sound dialect stop current
      (Means dialect .typeArgumentsEnd) := by
  refine either_sound ?_ ?_
  · -- the arguments that follow the comma are part of the same list
    rintro here ts us ⟨vs, arguments, rfl⟩
    exact commaList_again here arguments
  · rintro ts us ⟨vs, close, rfl⟩
    exact .sequence .stop (.sequence close .empty)

/-! ## Types or references -/

/-- The entry in the trace takes nothing. -/
theorem means_of_classify {purpose : Purpose} {result : Classification}
    (all : MeansAll dialect (classify purpose result) ts us) :
    Means dialect (.classified purpose result) ts us := by
  obtain ⟨vs, entry, ws, classified, rfl⟩ := all
  obtain rfl : ts = vs := entry.reads
  exact classified

/-- Empty brackets and what was classified behind them. -/
theorem means_of_brackets {purpose : Purpose} {start : List Token}
    (declares : ∀ vs, Derives dialect (many brackets) ts vs →
      Derives dialect (phrase .declared) start vs)
    (all : MeansAll dialect (.emptyBrackets :: classify purpose .type) ts us) :
    Derives dialect (purposeAs dialect purpose) start us := by
  obtain ⟨vs, pairs, rest⟩ := all
  exact means_of_classify rest start (declares vs pairs) fun _ isType => absurd rfl isType

theorem expandReference_sound (purpose : Purpose) (current : Token) :
    (expandReference dialect purpose current).Sound dialect stop current
      (Means dialect (.reference purpose)) := by
  rw [expandReference]
  -- a name and `this` begin alike
  have suffixed (isHead : current.kind ∈ [.ident, .keyword .this_]) :
      (Expansion.consume [.suffixes purpose .undetermined .base]).Sound dialect stop current
        (Means dialect (.reference purpose)) := by
    rintro ts us ⟨vs, more, rfl⟩
    exact more _ (.sequence (.terminal isHead) (.sequence .stop .empty))
  split
  · rename_i type here
    split
    · -- `boolean` takes no brackets in the mini dialect
      rename_i truth
      intro ts us rest
      rw [Bool.and_eq_true, decide_eq_true_eq] at truth
      obtain ⟨mini, rfl⟩ := truth
      cases dialect with
      | mini =>
          exact means_of_classify rest _ (.nonterminal (.one (.terminal here)))
            fun extended => by cases extended
      | extended => cases mini
    · rename_i element
      intro ts us rest
      refine means_of_brackets (fun vs pairs => ?_) rest
      cases dialect with
      | mini =>
          have element : type ≠ .boolean := by simpa [Dialect.isMini] using element
          exact .nonterminal (.other (.one (.sequence (derives_elementPrimitive here element)
            (.sequence pairs .empty))))
      | extended =>
          exact .nonterminal (.one (.sequence (derives_primitive here) (.sequence pairs .empty)))
  · rename_i here
    exact suffixed (by simp [here])
  · rename_i here
    exact suffixed (by simp [here])
  · trivial

/-- Arguments with the parenthesis in front of them. -/
theorem derives_arguments (here : current.kind = .lParen)
    (inside : Means dialect (.elements .rParen) ts us) :
    Derives dialect (phrase .arguments) (current :: ts) us :=
  .nonterminal (.sequence (.terminal here) inside)

theorem expandSuffixes_sound (purpose : Purpose) (soFar : Classification) (last : LastPart)
    (current : Token) :
    (expandSuffixes dialect purpose soFar last current).Sound dialect stop current
      (Means dialect (.suffixes purpose soFar last)) := by
  rw [expandSuffixes]
  split
  · -- a name behind a dot
    rename_i here
    rintro ts us ⟨vs, name, ws, more, rfl⟩ start before
    exact more start (soFarAs_dotted before (derives_dotted here name))
  · -- an opening bracket, whose content decides what it is
    rename_i here
    rintro ts us ⟨vs, more, rfl⟩ start before
    exact more start last current here before
  · rename_i here
    split
    · -- a chevron compares in the mini dialect, so the whole is over
      rename_i mini
      intro ts us _ rest start before
      refine means_of_classify rest start (classifiedAs_settle before) fun extended => ?_
      rw [extended] at mini
      cases mini
    split
    · trivial
    · -- type arguments in the extended dialect
      rename_i notMini notReference
      rintro ts us ⟨vs, arguments, ws, more, rfl⟩ start before
      cases dialect with
      | mini => exact absurd rfl notMini
      | extended =>
          exact more start (soFarAs_typeArguments notReference before
            (.sequence (.terminal here) arguments))
  · rename_i here
    split
    · trivial
    split
    · trivial
    · -- a call
      rename_i noType callable
      have callable : last.isCallable = true := by simpa using callable
      rintro ts us ⟨vs, inside, ws, closed, rest⟩ start before
      obtain rfl : vs = ws := closed.reads
      have call := call_of_arguments noType callable before (derives_arguments here inside)
      cases dialect with
      | mini => exact means_of_classify rest start call fun extended => by cases extended
      | extended =>
          obtain ⟨xs, more, rfl⟩ := rest
          exact more start call
  · -- nothing goes on, and the chevron was excluded above
    rename_i noChevron _
    intro ts us front rest start before
    exact means_of_classify rest start (classifiedAs_settle before)
      fun _ _ => notChevron_of_front front noChevron

theorem expandInsideBrackets_sound (purpose : Purpose) (soFar : Classification)
    (current : Token) :
    (expandInsideBrackets dialect purpose soFar current).Sound dialect stop current
      (Means dialect (.insideBrackets purpose soFar)) := by
  rw [expandInsideBrackets]
  split
  · rename_i closing
    split
    · trivial
    · -- an empty pair of brackets makes it a type
      rename_i notReference
      intro ts us rest start last bracket opening before
      refine means_of_brackets (fun vs pairs => ?_) rest
      exact declared_of_brackets notReference before
        (.again (.sequence (.terminal opening) (.sequence (.terminal closing) .empty)) pairs)
  split
  · trivial
  · -- an index makes it something that can be assigned to
    rename_i noType
    rintro ts us - ⟨vs, expression, ws, closing, rest⟩ start last bracket opening before
    have target := target_of_index noType before
      (.sequence (.terminal opening) (.sequence expression (.sequence closing .empty)))
    cases dialect with
    | mini => exact means_of_classify rest start target fun extended => by cases extended
    | extended =>
        obtain ⟨xs, more, rfl⟩ := rest
        exact more start target

/-- What is classified as no type is a reference. -/
theorem reference_of_classified {result : Classification} (noType : result ≠ .type)
    (before : Derives dialect (classifiedAs result) ts us) :
    Derives dialect (phrase .reference) ts us := by
  cases result with
  | undetermined => exact reference_of_target (target_of_name before)
  | type => exact absurd rfl noType
  | reference => exact reference_of_target before
  | referenceUnassignable => exact reference_of_call before

theorem declared_of_classified {result : Classification} (mayBeType : result.canBeType = true)
    (before : Derives dialect (classifiedAs result) ts us) :
    Derives dialect (phrase .declared) ts us := by
  cases result with
  | undetermined => exact declared_of_name before .stop
  | type => exact before
  | reference | referenceUnassignable => cases mayBeType

theorem target_of_classified {result : Classification} (assignable : result.isAssignable = true)
    (before : Derives dialect (classifiedAs result) ts us) :
    Derives dialect (phrase .target) ts us := by
  cases result with
  | undetermined => exact target_of_name before
  | reference => exact before
  | type | referenceUnassignable => cases assignable

/-- A statement and what comes behind it. -/
theorem simpleAt_of_simple {place : Place} (simple : Derives dialect (phrase .simple) ts vs)
    (rest : MeansAll dialect (afterStatement place) vs us) :
    Derives dialect (simpleAt place) ts us := by
  cases place with
  | body =>
      obtain rfl : vs = us := rest
      exact simple
  | forHead =>
      obtain ⟨ws, more, rfl⟩ := rest
      exact .one (.sequence simple (.sequence more .empty))

/-- A declaration and what comes behind it. -/
theorem simpleAt_of_declaration {place : Place}
    (declared : Derives dialect (phrase .declared) ts (current :: us))
    (here : current.kind = .ident)
    (rest : Means dialect (.declarationEnd place) us vs) :
    Derives dialect (simpleAt place) ts vs := by
  cases place with
  | body =>
      exact .nonterminal (.one (.sequence declared (.sequence (.terminal here)
        (.sequence rest .empty))))
  | forHead =>
      -- in the head of a loop the declaration may turn out to run over values
      rcases rest.reads with ⟨ws, ending, xs, more, rfl⟩ | each | never
      · refine .one (.sequence (.nonterminal (.one ?_)) (.sequence (.of_reads more) .empty))
        exact .sequence declared (.sequence (.terminal here) (.sequence (.of_reads ending) .empty))
      · exact .other (.one (.sequence declared (.sequence (.terminal here) (.of_reads each))))
      · exact never.elim

/-- An assignment or an update is sound when both forms of it are. -/
theorem assign_sound {result : Classification} {symbols : List Symbol}
    {reads : List Token → List Token → Prop}
    (isAssignment : current.kind ∈ [.assign, .compoundAssign, .incDec])
    (assigned : result.isAssignable = true → current.kind ∈ [.assign, .compoundAssign] →
      ∀ ts us vs, Derives dialect (phrase .expression) ts vs → MeansAll dialect symbols vs us →
        reads (current :: ts) us)
    (updated : result.isAssignable = true → current.kind = .incDec →
      ∀ ts us, MeansAll dialect symbols ts us → reads (current :: ts) us) :
    (assign result current symbols).Sound dialect stop current reads := by
  rw [assign]
  split
  · trivial
  split
  · trivial
  rename_i assignable
  have assignable : result.isAssignable = true := by simpa using assignable
  split
  · rename_i sign
    intro ts us rest
    exact updated assignable sign ts us rest
  · rename_i sign
    rintro ts us ⟨vs, value, rest⟩
    exact assigned assignable (by simp_all) ts us vs value rest

/-- An assignment or an update that is a statement. -/
theorem assignStatement_sound {place : Place} {result : Classification}
    (isAssignment : current.kind ∈ [.assign, .compoundAssign, .incDec]) :
    (assign result current (.token .semicolon :: afterStatement place)).Sound dialect stop current
      (Means dialect (.classified (.statement place) result)) := by
  refine assign_sound isAssignment ?_ ?_
  · rintro assignable sign ts us vs value ⟨ws, semicolon, rest⟩ start before -
    refine simpleAt_of_simple (.nonterminal (.other (.one ?_))) rest
    exact .sequence (target_of_classified assignable before) (.sequence (.terminal sign)
      (.sequence value (.sequence semicolon .empty)))
  · rintro assignable sign ts us ⟨ws, semicolon, rest⟩ start before -
    refine simpleAt_of_simple (.nonterminal (.alternative 2 rfl ?_)) rest
    exact .sequence (target_of_classified assignable before) (.sequence (.terminal sign)
      (.sequence semicolon .empty))

/-- An assignment or an update that is the last clause in the head of a loop. -/
theorem assignForUpdate_sound {result : Classification}
    (isAssignment : current.kind ∈ [.assign, .compoundAssign, .incDec]) :
    (assign result current []).Sound dialect stop current
      (Means dialect (.classified .forUpdate result)) := by
  refine assign_sound isAssignment ?_ ?_
  · rintro assignable sign ts us vs value rfl start before -
    refine .nonterminal (.other (.one ?_))
    exact .sequence (target_of_classified assignable before) (.sequence (.terminal sign)
      (.sequence value .empty))
  · rintro assignable sign ts us rfl start before -
    refine .nonterminal (.alternative 2 rfl ?_)
    exact .sequence (target_of_classified assignable before) (.sequence (.terminal sign) .empty)

/-- What stands alone is sound when a call is. -/
theorem standAlone_sound {result : Classification} {accepted : Expansion}
    {reads : List Token → List Token → Prop}
    (sound : result = .referenceUnassignable → accepted.Sound dialect stop current reads) :
    (standAlone result current accepted).Sound dialect stop current reads := by
  rw [standAlone]
  split
  · rename_i isCall
    exact sound isCall
  · trivial

theorem expandClassified_sound (purpose : Purpose) (result : Classification) (current : Token) :
    (expandClassified purpose result current).Sound dialect stop current
      (Means dialect (.classified purpose result)) := by
  simp only [expandClassified]
  cases purpose with
  | operand first =>
      dsimp only
      split
      · trivial
      · rename_i noType
        rintro ts us front rfl start before free
        exact notBeforeChevron_of_front (reference_of_classified noType before)
          fun extended => free extended noType
  | update operator =>
      dsimp only
      split
      · trivial
      · rename_i noType
        rintro ts us - rfl start before -
        exact reference_of_classified noType before
  | statement place =>
      dsimp only
      split
      · -- a name behind a type: a declaration
        rename_i here
        split
        · rename_i mayBeType
          rintro ts us ⟨vs, ending, rfl⟩ start before -
          exact simpleAt_of_declaration (declared_of_classified mayBeType before) here ending
        · trivial
      -- the three signs of assignments and updates
      · exact assignStatement_sound (by simp [*])
      · exact assignStatement_sound (by simp [*])
      · exact assignStatement_sound (by simp [*])
      · -- a call that stands alone as a statement
        rename_i here
        refine standAlone_sound ?_
        rintro rfl ts us rest start before -
        refine simpleAt_of_simple (.nonterminal (.alternative 3 rfl ?_)) rest
        exact .sequence before (.sequence (.terminal here) .empty)
      · trivial
  | forUpdate =>
      dsimp only
      split
      -- the three signs of assignments and updates
      · exact assignForUpdate_sound (by simp [*])
      · exact assignForUpdate_sound (by simp [*])
      · exact assignForUpdate_sound (by simp [*])
      · -- a call that stands alone in the head of a loop
        refine standAlone_sound ?_
        rintro rfl ts us - rfl start before -
        exact .nonterminal (.alternative 3 rfl before)
      · trivial

end Language

end MiniJ
