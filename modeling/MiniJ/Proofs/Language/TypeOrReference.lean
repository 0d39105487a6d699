import MiniJ.Proofs.Language.Completeness
import MiniJ.Proofs.Language.Suffixes
import MiniJ.Proofs.Recognition.Reaching

/-!
# How a type-or-reference is read

A name with well-formed suffixes is read suffix by suffix. `SuffixStage.meets` is the step: in front
of one suffix the recognizer does what the stage says, whatever the type-or-reference is read for
and whatever is pending. `SuffixStage.meetsAll` is the run over all suffixes, and a token that
starts no suffix ends it. As the work goes one way only, the closed form of the permitted rows of
suffixes decides whether the whole is read, as what, and with which code it is refused
(`reads_suffixes`).
-/

set_option autoImplicit false

namespace MiniJ

open Grammar Recognizer

/-! ## Well-formed suffixes -/

/-- The tokens of one suffix, and its form. -/
structure Suffix where
  form : SuffixForm
  tokens : List Token

namespace SuffixForm

/-- What the grammars have for a form. -/
def part : SuffixForm → Language.Part
  | member => Language.dotted
  | brackets => Language.brackets
  | index => Language.index
  | typeArguments => Language.typeArguments
  | arguments => Language.phrase .arguments

/-- The kind of token that a form begins with. -/
def opening : SuffixForm → TokenKind
  | member => .dot
  | brackets | index => .lBracket
  | typeArguments => .leftChevron
  | arguments => .lParen

/-- The symbols for the rest of a form. -/
def inner : SuffixForm → List Symbol
  | member => [.token .ident]
  | brackets => [.token .rBracket]
  | index => [.expression false, .token .rBracket]
  | typeArguments => [.typeArguments]
  | arguments => [.elements .rParen, .close .arguments]

end SuffixForm

/-- That a suffix is what its form asks for. The mini dialect has no type arguments. -/
structure Suffix.WellFormed (dialect : Dialect) (suffix : Suffix) : Prop where
  derives : Language.Derives dialect suffix.form.part suffix.tokens []
  known : dialect = .mini → suffix.form ≠ .typeArguments

/-- The kinds of tokens that start a suffix. In the mini dialect a chevron only compares. -/
def Dialect.startsSuffix (dialect : Dialect) (kind : TokenKind) : Prop :=
  kind ∈ [.dot, .lBracket, .lParen] ∨ (dialect = .extended ∧ kind = .leftChevron)

namespace Language

open Ebnf

/-- Parts are kept apart from chevrons only. -/
theorem excluded_rule (dialect : Dialect) (name : Phrase) :
    ∀ sign ∈ (rule dialect name).excluded, sign = .kind .leftChevron := by
  cases dialect <;> cases name <;> decide

/-- More tokens may stand behind what is left of a part. -/
theorem derives_append {dialect : Dialect} {part : Part} {ts us : List Token}
    (derives : Derives dialect part ts us) (left : us ≠ []) (ws : List Token) :
    Derives dialect part (ts ++ ws) (us ++ ws) := by
  refine Ebnf.Derives.append (.kind .leftChevron :: part.excluded) derives ?_ ?_ ?_
  · intro name sign member
    rw [excluded_rule dialect name sign member]
    exact List.mem_cons_self
  · exact fun sign member => List.mem_cons_of_mem _ member
  · exact fun isOver => absurd isOver left

end Language

open Ebnf MiniJ.Language in
/-- Behind its opening token a well-formed suffix is worked off. -/
theorem Suffix.WellFormed.accepts {dialect : Dialect} {suffix : Suffix}
    (wellFormed : suffix.WellFormed dialect) :
    ∃ opening inner, suffix.tokens = opening :: inner ∧ opening.kind = suffix.form.opening ∧
      ∀ (stop : Token) (rest : List Symbol) (behind : List Token), stop.kind = .eot →
        Accepts dialect stop rest behind →
        Accepts dialect stop (suffix.form.inner ++ rest) (inner ++ behind) := by
  obtain ⟨form, tokens⟩ := suffix
  have derives : Derives dialect form.part tokens [] := wellFormed.derives
  -- What stands inside is followed by the closing token, with which nothing inside can go on.
  cases form with
  | member =>
      obtain ⟨_, ⟨opening, isOpening, rfl⟩, _, ⟨name, isName, rfl⟩, isOver⟩ := derives.reads
      obtain rfl := isOver
      exact ⟨opening, [name], rfl, isOpening, fun stop rest behind _ accepts =>
        accepts_token isName accepts⟩
  | brackets =>
      obtain ⟨_, ⟨opening, isOpening, rfl⟩, _, ⟨closing, isClosing, rfl⟩, isOver⟩ := derives.reads
      obtain rfl := isOver
      exact ⟨opening, [closing], rfl, isOpening, fun stop rest behind _ accepts =>
        accepts_token isClosing accepts⟩
  | index =>
      obtain ⟨_, ⟨opening, isOpening, rfl⟩, _, expression, _, ⟨closing, isClosing, rfl⟩, isOver⟩ :=
        derives.reads
      obtain rfl := isOver
      refine ⟨opening, _, rfl, isOpening, ?_⟩
      intro stop rest behind stops accepts
      exact (derives_append expression (by simp) behind).least (accepting_of_takes stops) _
        (endsExpression_token (by decide)) (accepts_token isClosing accepts)
  | typeArguments =>
      obtain ⟨_, ⟨opening, isOpening, rfl⟩, _, types, _, ⟨closing, isClosing, rfl⟩, isOver⟩ :=
        derives.reads
      obtain rfl := isOver
      refine ⟨opening, _, rfl, isOpening, ?_⟩
      intro stop rest behind stops accepts
      have longer : Derives dialect (seq [commaList (phrase .type), tok .rightChevron]) _ behind :=
        .sequence (derives_append (.of_reads types) (by simp) behind)
          (.sequence (.terminal isClosing) .empty)
      exact accepts_typeArguments (longer.least (accepting_of_takes stops)) accepts
  | arguments =>
      obtain ⟨_, ⟨opening, isOpening, rfl⟩, _, list, _, ⟨closing, isClosing, rfl⟩, isOver⟩ :=
        derives.rule.reads
      obtain rfl := isOver
      refine ⟨opening, _, rfl, isOpening, ?_⟩
      intro stop rest behind stops accepts
      have longer : Derives dialect elements _ (closing :: behind) :=
        derives_append (.of_reads list) (by simp) behind
      exact accepts_elements closes_rParen isClosing (longer.least (accepting_of_takes stops))
        (accepts_close accepts)

/-- An empty pair of brackets is two tokens. -/
theorem Suffix.WellFormed.closing {dialect : Dialect} {suffix : Suffix}
    (wellFormed : suffix.WellFormed dialect) (isPair : suffix.form = .brackets) :
    ∃ opening closing, closing.kind = .rBracket ∧ suffix.tokens = [opening, closing] := by
  obtain ⟨form, tokens⟩ := suffix
  obtain rfl : form = .brackets := isPair
  have derives : Language.Derives dialect Language.brackets tokens [] := wellFormed.derives
  obtain ⟨_, ⟨opening, -, rfl⟩, _, ⟨closing, isClosing, rfl⟩, isOver⟩ := derives.reads
  obtain rfl := isOver
  exact ⟨opening, closing, isClosing, rfl⟩

/-! ## Ways through a type-or-reference -/

section Ways

variable {dialect : Dialect} {stop : Token} {symbols others : Purpose → List Symbol}
  {ts us vs : List Token}

/-- That work on symbols leads to others, whatever is read for and whatever is pending. -/
def LeadsTo (dialect : Dialect) (stop : Token) (symbols : Purpose → List Symbol) (ts : List Token)
    (others : Purpose → List Symbol) (us : List Token) : Prop :=
  ∀ purpose pending,
    Works dialect stop (symbols purpose ++ pending, ts) (others purpose ++ pending, us)

/-- That work on symbols ends with an error, whatever is read for and whatever is pending. -/
def FailsWith (dialect : Dialect) (stop : Token) (symbols : Purpose → List Symbol)
    (ts : List Token) (error : SyntaxError) : Prop :=
  ∀ purpose pending, Fails dialect stop (symbols purpose ++ pending, ts) (error.before pending)

theorem LeadsTo.refl : LeadsTo dialect stop symbols ts symbols ts :=
  fun _ _ => .refl

theorem LeadsTo.trans {further : Purpose → List Symbol}
    (first : LeadsTo dialect stop symbols ts others us)
    (second : LeadsTo dialect stop others us further vs) :
    LeadsTo dialect stop symbols ts further vs :=
  fun purpose pending => (first purpose pending).trans (second purpose pending)

theorem LeadsTo.fails {error : SyntaxError} (first : LeadsTo dialect stop symbols ts others us)
    (second : FailsWith dialect stop others us error) : FailsWith dialect stop symbols ts error :=
  fun purpose pending => (first purpose pending).fails (second purpose pending)

/-- Symbols that are pending stay. -/
theorem LeadsTo.frame (leads : LeadsTo dialect stop symbols ts others us)
    (rest : Purpose → List Symbol) :
    LeadsTo dialect stop (fun purpose => symbols purpose ++ rest purpose) ts
      (fun purpose => others purpose ++ rest purpose) us := by
  intro purpose pending
  rw [List.append_assoc, List.append_assoc]
  exact leads purpose (rest purpose ++ pending)

/-- An error inside none of the pending constructs is reported as it is. -/
theorem FailsWith.frame {error : SyntaxError} (fails : FailsWith dialect stop symbols ts error)
    (rest : Purpose → List Symbol) (outside : ∀ purpose, innermost? (rest purpose) = none) :
    FailsWith dialect stop (fun purpose => symbols purpose ++ rest purpose) ts error := by
  intro purpose pending
  have inner := fails purpose (rest purpose ++ pending)
  have same : error.before (rest purpose) = error := by
    rw [SyntaxError.before, outside]
  rw [SyntaxError.before_append, same] at inner
  rw [List.append_assoc]
  exact inner

variable {symbol : Purpose → Symbol}

theorem leadsTo_replace
    (expands : ∀ purpose,
      (symbol purpose).expand dialect (frontOf stop ts) = .replace (others purpose)) :
    LeadsTo dialect stop (fun purpose => [symbol purpose]) ts others ts :=
  fun purpose _ => .single (.replace (expands purpose))

theorem leadsTo_consume {current : Token}
    (expands : ∀ purpose, (symbol purpose).expand dialect current = .consume (others purpose)) :
    LeadsTo dialect stop (fun purpose => [symbol purpose]) (current :: ts) others ts :=
  fun purpose _ => .single (.consume (expands purpose))

theorem failsWith_reject {error : SyntaxError}
    (expands : ∀ purpose, (symbol purpose).expand dialect (frontOf stop ts) = .reject error) :
    FailsWith dialect stop (fun purpose => [symbol purpose]) ts error :=
  fun purpose pending => ⟨symbol purpose, pending, ts, error, .refl, expands purpose, rfl⟩

end Ways

/-! ## One suffix -/

section Suffixes

variable {dialect : Dialect} {stop : Token} {suffix : Suffix} {behind : List Token}

/-- The symbols of a stage. -/
def SuffixStage.agenda : SuffixStage → Purpose → List Symbol
  | running soFar last, purpose => [.suffixes purpose soFar last]
  | brackets, purpose => .emptyBrackets :: classify purpose .type
  | ended result, purpose => classify purpose result

/-- That recognition does what the effect of suffixes says, up to the tokens behind them. -/
def SuffixEffect.Happens (dialect : Dialect) (stop : Token) (symbols : Purpose → List Symbol)
    (ts behind : List Token) : SuffixEffect → Prop
  | goesOn stage => LeadsTo dialect stop symbols ts stage.agenda behind
  | stops result =>
    ∃ left, behind.length < left.length ∧
      LeadsTo dialect stop symbols ts (fun purpose => classify purpose result) left
  | refuses code =>
    ∃ error, error.code = code ∧ FailsWith dialect stop symbols ts error

/-- What is known in front of a well-formed suffix: its opening token, and that the symbols for the
rest of it are worked off. -/
structure SuffixForm.Opens (form : SuffixForm) (dialect : Dialect) (stop opening : Token)
    (inner behind : List Token) : Prop where
  here : opening.kind = form.opening
  works : ∀ rest : Purpose → List Symbol,
    LeadsTo dialect stop (fun purpose => form.inner ++ rest purpose) (inner ++ behind) rest behind
  inside : form = .index → (frontOf stop (inner ++ behind)).kind ≠ .rBracket
  pair : form = .brackets → ∃ closing, closing.kind = .rBracket ∧ inner = [closing]
  known : dialect = .mini → form ≠ .typeArguments

theorem Suffix.WellFormed.opens (wellFormed : suffix.WellFormed dialect) (stops : stop.kind = .eot)
    (behind : List Token) :
    ∃ opening inner, suffix.tokens = opening :: inner ∧
      suffix.form.Opens dialect stop opening inner behind := by
  obtain ⟨opening, inner, same, here, accepts⟩ := wellFormed.accepts
  refine ⟨opening, inner, same, here, fun rest purpose pending => ?_, fun isIndex => ?_,
    fun isPair => ?_, wellFormed.known⟩
  · rw [List.append_assoc]
    exact works_behind (fun rest => accepts stop rest behind stops) _
  · -- an index begins with an expression, and no expression begins with a bracket that closes
    have inside := accepts stop _ behind stops (accepts_agendaOf behind)
    rw [isIndex] at inside
    exact inside.front_ne_of_expression rfl
  · obtain ⟨_, closing, isClosing, split⟩ := wellFormed.closing isPair
    exact ⟨closing, isClosing, (List.cons.inj (same.symm.trans split)).2⟩

namespace SuffixForm.Opens

open SuffixStage

variable {form : SuffixForm} {opening : Token} {inner : List Token} {soFar : Classification}
  {last : LastPart}

/-- An opening token that leaves the symbols for the rest of the suffix. -/
theorem through (opens : form.Opens dialect stop opening inner behind) {stage next : SuffixStage}
    {symbol : Purpose → Symbol} (top : stage.agenda = fun purpose => [symbol purpose])
    (expands : ∀ purpose, (symbol purpose).expand dialect opening =
      .consume (form.inner ++ next.agenda purpose)) :
    (SuffixEffect.goesOn next).Happens dialect stop stage.agenda (opening :: (inner ++ behind))
      behind := by
  rw [top]
  exact (leadsTo_consume expands).trans (opens.works next.agenda)

/-- An opening bracket does not say yet which of two forms it is. -/
theorem insideBrackets (opens : form.Opens dialect stop opening inner behind)
    (bracket : form.opening = .lBracket) :
    LeadsTo dialect stop (running soFar last).agenda (opening :: (inner ++ behind))
      (fun purpose => [.insideBrackets purpose soFar]) (inner ++ behind) :=
  leadsTo_consume fun purpose => by simp [Symbol.expand, expandSuffixes, opens.here, bracket]

theorem meets_member (opens : member.Opens dialect stop opening inner behind) :
    ((running soFar last).meet dialect .member).Happens dialect stop (running soFar last).agenda
      (opening :: (inner ++ behind)) behind := by
  apply opens.through rfl
  intro purpose
  simp [Symbol.expand, expandSuffixes, opens.here, SuffixForm.opening, SuffixForm.inner,
    SuffixStage.agenda]

/-- Behind a value empty brackets are an error, and otherwise they make the whole a type. -/
theorem meets_pair (opens : SuffixForm.brackets.Opens dialect stop opening inner behind) :
    ((running soFar last).meet dialect .brackets).Happens dialect stop (running soFar last).agenda
      (opening :: (inner ++ behind)) behind := by
  obtain ⟨closing, isClosing, rfl⟩ := opens.pair rfl
  have opened : LeadsTo dialect stop (running soFar last).agenda _ _ _ := opens.insideBrackets rfl
  rw [SuffixStage.meet]
  split
  · rename_i isReference
    refine ⟨.located (.bracketsAfterReference closing) closing, rfl,
      opened.fails (failsWith_reject fun purpose => ?_)⟩
    simp [Symbol.expand, expandInsideBrackets, isClosing, isReference]
  · rename_i noReference
    refine opened.trans (leadsTo_consume fun purpose => ?_)
    simp [Symbol.expand, expandInsideBrackets, isClosing, noReference, SuffixStage.agenda]

/-- Behind a type an index is an error, and otherwise it makes the whole a value. -/
theorem meets_index (opens : index.Opens dialect stop opening inner behind) :
    ((running soFar last).meet dialect .index).Happens dialect stop (running soFar last).agenda
      (opening :: (inner ++ behind)) behind := by
  have inside := opens.inside rfl
  have opened : LeadsTo dialect stop (running soFar last).agenda _ _ _ := opens.insideBrackets rfl
  rw [SuffixStage.meet]
  split
  · rename_i isType
    let first := frontOf stop (inner ++ behind)
    refine ⟨.located (.indexAfterType first) first, rfl,
      opened.fails (failsWith_reject fun purpose => ?_)⟩
    simp only [Symbol.expand, expandInsideBrackets, if_neg inside, if_pos isType, first]
  · -- the bracket is left, so an expression is read first
    rename_i noType
    refine opened.trans (.trans (leadsTo_replace fun purpose => ?_) (opens.works _))
    simp only [Symbol.expand, expandInsideBrackets, if_neg inside, if_neg noType]
    cases dialect <;> rfl

/-- Behind a value type arguments are an error, and otherwise they make the whole a type. -/
theorem meets_typeArguments (opens : typeArguments.Opens dialect stop opening inner behind) :
    ((running soFar last).meet dialect .typeArguments).Happens dialect stop
      (running soFar last).agenda (opening :: (inner ++ behind)) behind := by
  have extended : dialect = .extended := by
    cases dialect with
    | mini => exact absurd rfl (opens.known rfl)
    | extended => rfl
  rw [SuffixStage.meet]
  split
  · rename_i isReference
    refine ⟨.located .typeArgumentsAfterReference opening, rfl,
      failsWith_reject fun purpose => ?_⟩
    simp [Symbol.expand, expandSuffixes, opens.here, SuffixForm.opening, extended, isReference,
      Dialect.isMini]
  · rename_i noReference
    apply opens.through rfl
    intro purpose
    simp [Symbol.expand, expandSuffixes, opens.here, SuffixForm.opening, SuffixForm.inner,
      SuffixStage.agenda, extended, noReference, Dialect.isMini]

/-- Behind a type arguments are an error, and so they are behind what is no name. -/
theorem meets_arguments (opens : arguments.Opens dialect stop opening inner behind) :
    ((running soFar last).meet dialect .arguments).Happens dialect stop (running soFar last).agenda
      (opening :: (inner ++ behind)) behind := by
  have here : opening.kind = .lParen := opens.here
  rw [SuffixStage.meet]
  split
  · rename_i isType
    refine ⟨.located .callAfterType opening, rfl, failsWith_reject fun purpose => ?_⟩
    simp [Symbol.expand, expandSuffixes, here, isType]
  rename_i noType
  split
  · rename_i noName
    refine ⟨.located .callAfterValue opening, rfl, failsWith_reject fun purpose => ?_⟩
    simp_all [Symbol.expand, expandSuffixes]
  · rename_i name
    apply opens.through rfl
    intro purpose
    cases dialect <;>
      simp_all [Symbol.expand, expandSuffixes, SuffixForm.inner, SuffixStage.agenda,
        Dialect.isMini]

/-- Where the whole ends before a suffix, the suffix is left. -/
theorem stops_before {stage : SuffixStage} {result : Classification}
    (ends : LeadsTo dialect stop stage.agenda (opening :: (inner ++ behind))
      (fun purpose => classify purpose result) (opening :: (inner ++ behind))) :
    (SuffixEffect.stops result).Happens dialect stop stage.agenda (opening :: (inner ++ behind))
      behind := by
  have longer : behind.length < (opening :: (inner ++ behind)).length := by
    rw [List.length_cons, List.length_append]
    omega
  exact ⟨_, longer, ends⟩

/-- Behind empty brackets an opening bracket asks for the other one. -/
theorem meets_brackets (opens : form.Opens dialect stop opening inner behind) :
    (SuffixStage.brackets.meet dialect form).Happens dialect stop SuffixStage.brackets.agenda
      (opening :: (inner ++ behind)) behind := by
  have stops (noBracket : form.opening ≠ .lBracket) :
      (SuffixEffect.stops .type).Happens dialect stop SuffixStage.brackets.agenda
        (opening :: (inner ++ behind)) behind := by
    have released : LeadsTo dialect stop (fun _ => [.emptyBrackets])
        (opening :: (inner ++ behind)) (fun _ => []) (opening :: (inner ++ behind)) :=
      leadsTo_replace fun purpose => by
        simp [Symbol.expand, Grammar.optional, opens.here, noBracket]
    exact stops_before (released.frame fun purpose => classify purpose .type)
  have again (bracket : form.opening = .lBracket) :
      LeadsTo dialect stop SuffixStage.brackets.agenda (opening :: (inner ++ behind))
        (fun purpose => [.token .rBracket] ++ SuffixStage.brackets.agenda purpose)
        (inner ++ behind) := by
    have taken : LeadsTo dialect stop (fun _ => [.emptyBrackets])
        (opening :: (inner ++ behind)) (fun _ => [.token .rBracket, .emptyBrackets])
        (inner ++ behind) :=
      leadsTo_consume fun purpose => by
        simp [Symbol.expand, Grammar.optional, opens.here, bracket]
    exact taken.frame fun purpose => classify purpose .type
  -- Only `[` leads back into the brackets, and an index misses its `]` at the token behind.
  cases form with
  | member | typeArguments | arguments => exact stops (by simp [SuffixForm.opening])
  | brackets => exact (again rfl).trans (opens.works SuffixStage.brackets.agenda)
  | index =>
      refine ⟨.expectedKinds [.rBracket] (frontOf stop (inner ++ behind)), rfl,
        (again rfl).fails (.frame (failsWith_reject fun purpose => ?_) _ fun purpose => rfl)⟩
      rw [Symbol.expand, if_neg]
      simpa using opens.inside rfl

end SuffixForm.Opens

/-- **In front of a suffix recognition does what the stage says.** -/
theorem SuffixStage.meets (stage : SuffixStage) (stops : stop.kind = .eot)
    (wellFormed : suffix.WellFormed dialect) (behind : List Token) :
    (stage.meet dialect suffix.form).Happens dialect stop stage.agenda (suffix.tokens ++ behind)
      behind := by
  obtain ⟨opening, inner, same, opens⟩ := wellFormed.opens stops behind
  rw [same, List.cons_append]
  generalize suffix.form = form at opens
  cases stage with
  | running soFar last =>
      cases form with
      | member => exact opens.meets_member
      | brackets => exact opens.meets_pair
      | index => exact opens.meets_index
      | typeArguments => exact opens.meets_typeArguments
      | arguments => exact opens.meets_arguments
  | brackets => exact opens.meets_brackets
  | ended result =>
      have stops : (SuffixEffect.stops result).Happens dialect stop (ended result).agenda
          (opening :: (inner ++ behind)) behind := SuffixForm.Opens.stops_before .refl
      cases form <;> exact stops

/-- What happens behind other work happens with it in front. -/
theorem SuffixEffect.Happens.after {symbols others : Purpose → List Symbol} {ts us : List Token}
    {effect : SuffixEffect} (happens : effect.Happens dialect stop others us behind)
    (leads : LeadsTo dialect stop symbols ts others us) :
    effect.Happens dialect stop symbols ts behind := by
  cases effect with
  | goesOn stage => exact LeadsTo.trans leads happens
  | stops result =>
      obtain ⟨left, longer, further⟩ := happens
      exact ⟨left, longer, leads.trans further⟩
  | refuses code =>
      obtain ⟨error, same, fails⟩ := happens
      exact ⟨error, same, leads.fails fails⟩

/-- **In front of several suffixes it does what the stages say**, one suffix after the other. -/
theorem SuffixStage.meetsAll {suffixes : List Suffix} (stage : SuffixStage)
    (stops : stop.kind = .eot) (wellFormed : ∀ suffix ∈ suffixes, suffix.WellFormed dialect)
    (behind : List Token) :
    (stage.meetAll dialect (suffixes.map Suffix.form)).Happens dialect stop stage.agenda
      (suffixes.flatMap Suffix.tokens ++ behind) behind := by
  induction suffixes generalizing stage with
  | nil => exact .refl
  | cons suffix suffixes ih =>
      rw [List.flatMap_cons, List.append_assoc, List.map_cons, meetAll]
      have first := stage.meets stops (wellFormed suffix List.mem_cons_self)
        (suffixes.flatMap Suffix.tokens ++ behind)
      cases met : stage.meet dialect suffix.form with
      | goesOn next =>
          rw [met] at first
          have others := fun suffix member => wellFormed suffix (List.mem_cons_of_mem _ member)
          exact (ih next others).after first
      | stops result =>
          rw [met] at first
          obtain ⟨left, longer, leads⟩ := first
          refine ⟨left, Nat.lt_of_le_of_lt ?_ longer, leads⟩
          simp
      | refuses code =>
          rw [met] at first
          exact first

/-- In front of a token that starts no suffix the whole ends. -/
theorem SuffixStage.ends {ts : List Token} (stage : SuffixStage)
    (noSuffix : ¬ dialect.startsSuffix (frontOf stop ts).kind) :
    LeadsTo dialect stop stage.agenda ts (fun purpose => classify purpose stage.result) ts := by
  simp only [Dialect.startsSuffix, List.mem_cons, List.not_mem_nil, or_false, not_or] at noSuffix
  obtain ⟨⟨noDot, noBracket, noParen⟩, noChevron⟩ := noSuffix
  cases stage with
  | running soFar last =>
      apply leadsTo_replace
      intro purpose
      rw [Symbol.expand]
      simp only [expandSuffixes]
      split <;> simp_all [result]
      rename_i isChevron
      cases dialect with
      | mini => simp [Dialect.isMini]
      | extended => exact absurd rfl noChevron
  | brackets =>
      have released : LeadsTo dialect stop (fun _ => [.emptyBrackets]) ts (fun _ => []) ts :=
        leadsTo_replace fun purpose => by simp [Symbol.expand, Grammar.optional, noBracket]
      exact released.frame _
  | ended result => exact .refl

/-- The name in front leaves its suffixes to come. -/
theorem leadsTo_start {base : Token} (isBase : base.kind ∈ [.ident, .keyword .this_])
    (ts : List Token) :
    LeadsTo dialect stop (fun purpose => [.reference purpose]) (base :: ts)
      SuffixStage.start.agenda ts := by
  apply leadsTo_consume
  intro purpose
  simp only [List.mem_cons, List.not_mem_nil, or_false] at isBase
  rcases isBase with here | here <;>
    simp [Symbol.expand, expandReference, here, SuffixStage.agenda, SuffixStage.start]

end Suffixes

/-! ## One outcome only -/

section Outcomes

variable {dialect : Dialect} {cursor next : TokenCursor} {result : Classification}
  {after : List Token}

/-- That the type-or-reference in front of a cursor is read as something, up to the tokens behind
it, whatever it is read for and whatever is pending. -/
def ReadsAs (dialect : Dialect) (cursor : TokenCursor) (result : Classification)
    (after : List Token) : Prop :=
  ∀ purpose pending, ∃ next : TokenCursor, next.ahead = after ∧
    Reaches ⟨dialect, .reference purpose :: pending, cursor⟩
      ⟨dialect, classify purpose result ++ pending, next⟩

/-- That an error is found in it. -/
def RefusedWith (dialect : Dialect) (cursor : TokenCursor) (error : SyntaxError) : Prop :=
  ∀ purpose pending, ∃ last place,
    Reaches ⟨dialect, .reference purpose :: pending, cursor⟩ last ∧
      last.step = .done (.rejected (error.before pending)) place

theorem LeadsTo.readsAs
    (leads : LeadsTo dialect cursor.last (fun purpose => [.reference purpose]) cursor.ahead
      (fun purpose => classify purpose result) after) : ReadsAs dialect cursor result after := by
  intro purpose pending
  obtain ⟨next, left, -, reaches⟩ := (leads purpose pending).reaches cursor rfl rfl
  exact ⟨next, left, reaches⟩

theorem FailsWith.refusedWith {error : SyntaxError}
    (fails : FailsWith dialect cursor.last (fun purpose => [.reference purpose]) cursor.ahead
      error) : RefusedWith dialect cursor error :=
  fun purpose pending => (fails purpose pending).reaches cursor rfl rfl

/-- Behind the classification of an operand only the judgement on it is left. -/
theorem reaches_of_classify {first : Token} {last : Recognizer}
    (reaches : Reaches ⟨dialect, classify (.operand first) result, next⟩ last) :
    last = ⟨dialect, classify (.operand first) result, next⟩ ∨
      (last.agenda.length < 2 ∧ ∀ error place, last.step = .done (.rejected error) place →
        error.position = first.position) := by
  -- Two steps at most: the classification is announced, and then the operand is judged.
  cases Relation.ReflTransGen.cases_head reaches with
  | inl same => exact .inl same.symm
  | inr more =>
      obtain ⟨announced, leads, further⟩ := more
      cases leads
      right
      have judges : (Symbol.classified (.operand first) result).expand dialect
          (next.announce (.typeOrReference result)).current =
            if result = .type then .reject (.located (.typeAsValue first) first)
            else .replace [] := rfl
      cases Relation.ReflTransGen.cases_head further with
      | inl same =>
          subst same
          refine ⟨Nat.lt_succ_self 1, ?_⟩
          intro error place done
          split at judges
          · rw [step_reject judges] at done
            cases done
            rfl
          · have leads : Step.more _ = Step.done _ _ := (leads_replace judges).symm.trans done
            cases leads
      | inr more =>
          obtain ⟨judged, leads, further⟩ := more
          split at judges
          · have done := (step_reject judges).symm.trans leads
            cases done
          · obtain rfl := leads_rightUnique leads (leads_replace judges)
            have isOver := Reaches.eq_of_done further rfl
            subst isOver
            refine ⟨Nat.zero_lt_succ 1, ?_⟩
            intro error place done
            cases done

/-- **What is read is determined**, and so is where it ends. -/
theorem ReadsAs.unique {other : Classification} {left : List Token}
    (one : ReadsAs dialect cursor result after) (another : ReadsAs dialect cursor other left) :
    result = other ∧ after = left := by
  have same {one two : Classification} {here there : TokenCursor}
      (reaches : Reaches ⟨dialect, classify (.operand cursor.current) one, here⟩
        ⟨dialect, classify (.operand cursor.current) two, there⟩) : one = two ∧ here = there := by
    rcases reaches_of_classify reaches with same | ⟨shorter, -⟩
    · cases same
      exact ⟨rfl, rfl⟩
    · exact absurd shorter (Nat.lt_irrefl 2)
  obtain ⟨here, rfl, first⟩ := one (.operand cursor.current) []
  obtain ⟨there, rfl, second⟩ := another (.operand cursor.current) []
  -- one of the two is reached from the other, and only the judgement lies behind
  rcases first.comparable second with onward | back
  · obtain ⟨rfl, rfl⟩ := same onward
    exact ⟨rfl, rfl⟩
  · obtain ⟨rfl, rfl⟩ := same back
    exact ⟨rfl, rfl⟩

/-- What is read is not refused. -/
theorem ReadsAs.not_refusedWith {error : SyntaxError}
    (reads : ReadsAs dialect cursor result after) : ¬ RefusedWith dialect cursor error := by
  intro refused
  -- an operand whose first token is elsewhere: the error cannot be the judgement on it
  have first : ∃ first : Token, first.position ≠ error.position := by
    refine ⟨⟨.eot, "", ⟨error.position.line + 1, 0⟩⟩, ?_⟩
    intro same
    have line := congrArg Position.line same
    exact absurd line (Nat.succ_ne_self _)
  obtain ⟨first, elsewhere⟩ := first
  obtain ⟨next, -, onward⟩ := reads (.operand first) []
  obtain ⟨last, place, reaches, done⟩ := refused (.operand first) []
  have notDone : last ≠ ⟨dialect, classify (.operand first) result, next⟩ := by
    rintro rfl
    cases done
  rcases onward.comparable reaches with behind | before
  · rcases reaches_of_classify behind with same | ⟨-, judged⟩
    · exact notDone same
    · exact elsewhere (judged _ _ done).symm
  · exact notDone (before.eq_of_done done).symm

end Outcomes

/-! ## The whole -/

/-- **What is read is what the effect of the suffixes says**, in front of a token that starts none. -/
theorem SuffixEffect.Happens.readsAs_iff {dialect : Dialect} {cursor : TokenCursor}
    {effect : SuffixEffect} {after : List Token}
    (happens : effect.Happens dialect cursor.last (fun purpose => [.reference purpose])
      cursor.ahead after)
    (noSuffix : ¬ dialect.startsSuffix (frontOf cursor.last after).kind)
    (result : Classification) :
    ReadsAs dialect cursor result after ↔
      ∃ stage, effect = .goesOn stage ∧ stage.result = result := by
  have reads (stage : SuffixStage) (goes : effect = .goesOn stage) :
      ReadsAs dialect cursor stage.result after := by
    rw [goes] at happens
    have leads : LeadsTo dialect cursor.last _ cursor.ahead stage.agenda after := happens
    exact (leads.trans (stage.ends noSuffix)).readsAs
  constructor
  · intro reading
    cases effect with
    | goesOn stage =>
        obtain ⟨same, -⟩ := (reads stage rfl).unique reading
        exact ⟨stage, rfl, same⟩
    | stops result =>
        -- it would end earlier, and it ends in one place only
        obtain ⟨left, longer, leads⟩ := happens
        obtain ⟨-, rfl⟩ := reading.unique leads.readsAs
        exact absurd longer (Nat.lt_irrefl _)
    | refuses code =>
        obtain ⟨error, -, fails⟩ := happens
        exact absurd fails.refusedWith reading.not_refusedWith
  · rintro ⟨stage, goes, rfl⟩
    exact reads stage goes

/-- **How a name with suffixes is read**, in front of a token that starts no suffix. The whole is
read exactly when the row of its suffixes is permitted, and the row says as what. In the extended
dialect the first suffix that breaks the rules decides the code of the error, if it stands behind no
empty brackets. -/
theorem reads_suffixes (dialect : Dialect) (cursor : TokenCursor) (base : Token)
    (suffixes : List Suffix) (after : List Token)
    (isBase : base.kind ∈ [.ident, .keyword .this_])
    (wellFormed : ∀ suffix ∈ suffixes, suffix.WellFormed dialect)
    (ahead : cursor.ahead = base :: (suffixes.flatMap Suffix.tokens ++ after))
    (noSuffix : ∀ token ∈ after.head?, ¬ dialect.startsSuffix token.kind) :
    ((∃ result, ReadsAs dialect cursor result after) ↔
        SuffixForm.Permitted dialect (suffixes.map Suffix.form)) ∧
      (∀ result, ReadsAs dialect cursor result after → result.Fits (suffixes.map Suffix.form)) ∧
      ∀ before suffix behind, dialect = .extended → suffixes = before ++ suffix :: behind →
        SuffixForm.Permitted dialect (before.map Suffix.form) →
        ¬ SuffixForm.Permitted dialect ((before ++ [suffix]).map Suffix.form) →
        .brackets ∉ before.map Suffix.form →
        ∃ error, RefusedWith dialect cursor error ∧
          error.code.text =
            if suffix.form = .arguments ∧ ((before.map Suffix.form).getLast? = some .index ∨
                (before.map Suffix.form).getLast? = some .arguments) then "E1007"
            else "E1002" := by
  have happens := (SuffixStage.start.meetsAll cursor.kind_last wellFormed after).after
    (leadsTo_start isBase _)
  rw [← ahead] at happens
  have known : dialect = .mini → .typeArguments ∉ suffixes.map Suffix.form := by
    intro mini among
    obtain ⟨suffix, member, isTypes⟩ := List.mem_map.mp among
    exact (wellFormed suffix member).known mini isTypes
  obtain ⟨through, telling⟩ := SuffixStage.meetAll_start known
  -- at the end of the tokens nothing starts a suffix, either
  have free : ¬ dialect.startsSuffix (frontOf cursor.last after).kind := by
    cases after with
    | nil => simp [Dialect.startsSuffix, cursor.kind_last]
    | cons token others => exact noSuffix token rfl
  have reads := happens.readsAs_iff free
  refine ⟨⟨?_, fun permitted => ?_⟩, fun result reading => ?_, ?_⟩
  · rintro ⟨result, reading⟩
    obtain ⟨stage, goes, -⟩ := (reads result).mp reading
    exact through.mp ⟨stage, goes⟩
  · obtain ⟨stage, goes⟩ := through.mpr permitted
    exact ⟨stage.result, (reads _).mpr ⟨stage, goes, rfl⟩⟩
  · obtain ⟨stage, goes, rfl⟩ := (reads result).mp reading
    exact (telling stage goes).fits
  · rintro before suffix behind rfl rfl permitted breaks noBrackets
    rw [List.map_append, List.map_singleton] at breaks
    rw [List.map_append, List.map_cons,
      SuffixStage.meetAll_refuses permitted breaks noBrackets] at happens
    obtain ⟨error, code, fails⟩ := happens
    refine ⟨error, fails.refusedWith, ?_⟩
    rw [code]
    split <;> rfl

open Ebnf MiniJ.Language in
/-- A call is read as a value that can only be read, and what it returns cannot be called. -/
theorem reads_suffixes_call :
    ReadsAs .extended (.opening .extended (Source.ofString "f(1);") none) .referenceUnassignable
        [⟨.semicolon, ";", ⟨1, 5⟩⟩] ∧
      ∃ error, RefusedWith .extended (.opening .extended (Source.ofString "f(1)(2);") none) error ∧
        error.code.text = "E1007" := by
  let call (column : Nat) (number : String) : Suffix :=
    ⟨.arguments, [⟨.lParen, "(", ⟨1, column⟩⟩, ⟨.literal .int, number, ⟨1, column + 1⟩⟩,
      ⟨.rParen, ")", ⟨1, column + 2⟩⟩]⟩
  have wellFormed (column : Nat) (number : String) :
      (call column number).WellFormed .extended := by
    have operand {behind : List Token} : Derives .extended (phrase .operand)
        (⟨.literal .int, number, ⟨1, column + 1⟩⟩ :: behind) behind :=
      .nonterminal (.one (.terminal (by simp [Sign.Admits, Literal.all])))
    have expression {behind : List Token} : Derives .extended (phrase .expression)
        (⟨.literal .int, number, ⟨1, column + 1⟩⟩ :: behind) behind :=
      .nonterminal (.other (.one (.sequence operand (.sequence (.other .empty) .empty))))
    have list {behind : List Token} : Derives .extended elements
        (⟨.literal .int, number, ⟨1, column + 1⟩⟩ :: behind) behind :=
      .one (.sequence (.sequence expression (.sequence .stop .empty))
        (.sequence (.other .empty) .empty))
    have closing {behind : List Token} : Derives .extended (seq [tok .rParen])
        (⟨.rParen, ")", ⟨1, column + 2⟩⟩ :: behind) behind :=
      .sequence (.terminal rfl) .empty
    exact ⟨.nonterminal (.sequence (.terminal rfl) (.sequence list closing)), by simp⟩
  constructor
  · obtain ⟨reads, fits, -⟩ := reads_suffixes .extended
      (.opening .extended (Source.ofString "f(1);") none) ⟨.ident, "f", ⟨1, 1⟩⟩ [call 2 "1"]
      [⟨.semicolon, ";", ⟨1, 5⟩⟩] (by decide) (by simpa using wellFormed 2 "1") (by decide +kernel)
      (by simp [Dialect.startsSuffix])
    have permitted : SuffixForm.Agree [.arguments] :=
      ⟨List.pairwise_singleton _ _, List.pairwise_singleton _ _, List.isChain_singleton _,
        List.pairwise_singleton _ _⟩
    obtain ⟨result, reading⟩ := reads.mpr permitted
    obtain rfl : result = .referenceUnassignable := (fits result reading).isReadOnly.mpr rfl
    exact reading
  · obtain ⟨-, -, refused⟩ := reads_suffixes .extended
      (.opening .extended (Source.ofString "f(1)(2);") none) ⟨.ident, "f", ⟨1, 1⟩⟩
      [call 2 "1", call 5 "2"] [⟨.semicolon, ";", ⟨1, 8⟩⟩] (by decide)
      (by simpa using ⟨wellFormed 2 "1", wellFormed 5 "2"⟩) (by decide +kernel)
      (by simp [Dialect.startsSuffix])
    have permitted : SuffixForm.Agree [.arguments] :=
      ⟨List.pairwise_singleton _ _, List.pairwise_singleton _ _, List.isChain_singleton _,
        List.pairwise_singleton _ _⟩
    have breaks : ¬ SuffixForm.Agree [.arguments, .arguments] := fun agree => by
      simpa using agree.called
    obtain ⟨error, fails, code⟩ := refused [call 2 "1"] (call 5 "2") [] rfl rfl permitted breaks
      (by simp [call])
    exact ⟨error, fails, code⟩

end MiniJ
