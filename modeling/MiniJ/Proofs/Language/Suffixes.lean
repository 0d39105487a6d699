import Mathlib.Data.List.Chain
import MiniJ.Grammar.Expansion

/-!
# Suffixes of a type-or-reference

A type-or-reference is a name with any number of suffixes, in five forms. Which rows of forms are
permitted is said in closed form (`SuffixForm.Permitted`), and so is what a permitted row makes of
the name (`Classification.Fits`).

Recognition knows of a row only where it stands (`SuffixStage`): what the whole can still be, and
the last part. `SuffixStage.meet` is the effect of one more form there. A stage that tells of a row
goes on with exactly those forms that keep the row permitted (`SuffixStage.Tells.goesOn_iff`), and
then it tells of the longer row. By induction from behind the rows that are gone through from the
start are the permitted ones (`SuffixStage.meetAll_start`), and the first form that breaks the rules
decides the code of the error (`SuffixStage.meetAll_refuses`).
-/

set_option autoImplicit false

namespace MiniJ

/-- The forms of a suffix. -/
inductive SuffixForm where
  /-- A name behind a dot. -/
  | member
  /-- An empty pair of brackets. -/
  | brackets
  /-- An expression in brackets. -/
  | index
  /-- Types in chevrons. -/
  | typeArguments
  /-- Expressions in parentheses. -/
  | arguments
  deriving DecidableEq

namespace SuffixForm

/-! ## Rows of forms -/

/-- The rules of the extended dialect. -/
structure Agree (forms : List SuffixForm) : Prop where
  /-- Behind type arguments comes neither an index nor arguments. -/
  typed : forms.Pairwise fun earlier later =>
    earlier = typeArguments → later ≠ index ∧ later ≠ arguments
  /-- Behind an index or arguments come neither type arguments nor empty brackets. -/
  valued : forms.Pairwise fun earlier later =>
    earlier = index ∨ earlier = arguments → later ≠ typeArguments ∧ later ≠ brackets
  /-- Arguments come directly behind a name. -/
  called : forms.IsChain fun earlier later => later = arguments → earlier = member
  /-- Behind empty brackets come only more of them. -/
  bracketed : forms.Pairwise fun earlier later => earlier = brackets → later = brackets

/-- The rules of a dialect. In the mini dialect names are followed by empty brackets, by one index
or by one list of arguments. -/
def Permitted : Dialect → List SuffixForm → Prop
  | .mini, forms =>
    ∃ names rest, forms = names ++ rest ∧ (∀ form ∈ names, form = member) ∧
      ((∀ form ∈ rest, form = brackets) ∨ rest = [index] ∨ rest = [arguments])
  | .extended, forms => Agree forms

variable {dialect : Dialect} {forms : List SuffixForm} {form : SuffixForm}

theorem permitted_nil (dialect : Dialect) : Permitted dialect [] := by
  cases dialect with
  | mini => exact ⟨[], [], rfl, by simp, .inl (by simp)⟩
  | extended => exact ⟨.nil, .nil, .nil, .nil⟩

/-- One more form agrees with those before it. -/
theorem agree_concat : Agree (forms ++ [form]) ↔
    Agree forms ∧
      (typeArguments ∈ forms → form ≠ index ∧ form ≠ arguments) ∧
      (index ∈ forms ∨ arguments ∈ forms → form ≠ typeArguments ∧ form ≠ brackets) ∧
      (form = arguments → ∀ last ∈ forms.getLast?, last = member) ∧
      (brackets ∈ forms → form = brackets) := by
  constructor
  · rintro ⟨typed, valued, called, bracketed⟩
    rw [List.pairwise_append] at typed valued bracketed
    rw [List.isChain_append] at called
    refine ⟨⟨typed.1, valued.1, called.1, bracketed.1⟩, fun among => ?_, fun among => ?_,
      fun same last there => ?_, fun among => ?_⟩
    · exact typed.2.2 _ among _ (List.mem_singleton_self _) rfl
    · rcases among with among | among
      · exact valued.2.2 _ among _ (List.mem_singleton_self _) (.inl rfl)
      · exact valued.2.2 _ among _ (List.mem_singleton_self _) (.inr rfl)
    · exact called.2.2 last there form rfl same
    · exact bracketed.2.2 _ among _ (List.mem_singleton_self _) rfl
  · rintro ⟨⟨typed, valued, called, bracketed⟩, afterTypes, afterValues, afterLast, afterBrackets⟩
    -- Each part relates the new form to all the earlier ones; a call looks at the last one alone.
    constructor
    · rw [List.pairwise_append]
      refine ⟨typed, List.pairwise_singleton _ _, ?_⟩
      intro earlier among later single same
      rw [List.mem_singleton.mp single]
      exact afterTypes (same ▸ among)
    · rw [List.pairwise_append]
      refine ⟨valued, List.pairwise_singleton _ _, ?_⟩
      intro earlier among later single same
      rw [List.mem_singleton.mp single]
      rcases same with rfl | rfl
      · exact afterValues (.inl among)
      · exact afterValues (.inr among)
    · rw [List.isChain_append]
      refine ⟨called, List.isChain_singleton _, ?_⟩
      intro last there later single same
      obtain rfl : form = later := by simpa using single
      exact afterLast same last there
    · rw [List.pairwise_append]
      refine ⟨bracketed, List.pairwise_singleton _ _, ?_⟩
      intro earlier among later single same
      rw [List.mem_singleton.mp single]
      exact afterBrackets (same ▸ among)

/-- In the mini dialect the last form of a row is behind names, or it is one more pair of brackets. -/
theorem of_permitted_mini_concat (permitted : Permitted .mini (forms ++ [form])) :
    (form ≠ typeArguments ∧ ∀ before ∈ forms, before = member) ∨
      (Permitted .mini forms ∧ brackets ∈ forms ∧ form = brackets) := by
  obtain ⟨names, rest, split, plain, shape⟩ := permitted
  rcases List.eq_nil_or_concat rest with rfl | ⟨front, last, rfl⟩
  · -- the last form is a name, too
    rw [List.append_nil] at split
    rw [← split] at plain
    refine .inl ⟨?_, fun before among => plain before (List.mem_append_left _ among)⟩
    rw [plain form (List.mem_append_right _ (List.mem_singleton_self _))]
    decide
  · rw [List.concat_eq_append] at split shape
    rw [← List.append_assoc] at split
    obtain ⟨rfl, same⟩ := List.append_inj' split rfl
    obtain rfl : form = last := List.singleton_inj.mp same
    have alone {other : SuffixForm} (noTypes : other ≠ typeArguments)
        (single : front ++ [form] = [] ++ [other]) :
        form ≠ typeArguments ∧ ∀ before ∈ names ++ front, before = member := by
      obtain ⟨rfl, same⟩ := List.append_inj' single rfl
      rw [List.singleton_inj.mp same, List.append_nil]
      exact ⟨noTypes, plain⟩
    rcases shape with pairs | single | single
    · obtain rfl : form = brackets := pairs form (by simp)
      cases front with
      | nil => exact .inl (alone (by decide) rfl)
      | cons first others =>
          have pairs : ∀ before ∈ first :: others, before = brackets := fun before among =>
            pairs before (List.mem_append_left _ among)
          refine .inr ⟨⟨names, first :: others, rfl, plain, .inl pairs⟩, ?_, rfl⟩
          rw [← pairs first List.mem_cons_self]
          exact List.mem_append_right _ List.mem_cons_self
    · exact .inl (alone (by decide) single)
    · exact .inl (alone (by decide) single)

/-- Behind names any form may come but type arguments. -/
theorem permitted_mini_of_names (noTypes : form ≠ typeArguments)
    (plain : ∀ before ∈ forms, before = member) : Permitted .mini (forms ++ [form]) := by
  cases form with
  | member =>
      refine ⟨forms ++ [member], [], (List.append_nil _).symm, ?_, .inl (by simp)⟩
      intro before among
      rcases List.mem_append.mp among with among | among
      · exact plain before among
      · exact List.mem_singleton.mp among
  | brackets => exact ⟨forms, [brackets], rfl, plain, .inl (by simp)⟩
  | index => exact ⟨forms, [index], rfl, plain, .inr (.inl rfl)⟩
  | typeArguments => exact absurd rfl noTypes
  | arguments => exact ⟨forms, [arguments], rfl, plain, .inr (.inr rfl)⟩

/-- Behind brackets one more pair may come. -/
theorem permitted_mini_pair (permitted : Permitted .mini forms) (among : brackets ∈ forms) :
    Permitted .mini (forms ++ [brackets]) := by
  obtain ⟨names, rest, rfl, plain, shape⟩ := permitted
  have inRest : brackets ∈ rest := by
    apply (List.mem_append.mp among).resolve_left
    intro inNames
    cases plain _ inNames
  have pairs : ∀ form ∈ rest, form = brackets := by
    rcases shape with pairs | rfl | rfl
    · exact pairs
    · simp at inRest
    · simp at inRest
  refine ⟨names, rest ++ [brackets], List.append_assoc _ _ _, plain, .inl ?_⟩
  intro form among
  rcases List.mem_append.mp among with among | among
  · exact pairs form among
  · exact List.mem_singleton.mp among

/-- In the mini dialect only empty brackets come behind what is no name. -/
theorem permitted_mini_concat : Permitted .mini (forms ++ [form]) ↔
    (form ≠ typeArguments ∧ ∀ before ∈ forms, before = member) ∨
      (Permitted .mini forms ∧ brackets ∈ forms ∧ form = brackets) := by
  refine ⟨of_permitted_mini_concat, ?_⟩
  rintro (⟨noTypes, plain⟩ | ⟨permitted, among, rfl⟩)
  · exact permitted_mini_of_names noTypes plain
  · exact permitted_mini_pair permitted among

end SuffixForm

/-- A row without the other forms is a row of names. -/
theorem SuffixForm.all_members_iff {forms : List SuffixForm} :
    (∀ form ∈ forms, form = .member) ↔
      .typeArguments ∉ forms ∧ .brackets ∉ forms ∧ .index ∉ forms ∧ .arguments ∉ forms := by
  constructor
  · intro plain
    refine ⟨?_, ?_, ?_, ?_⟩
    all_goals
      intro among
      cases plain _ among
  · rintro ⟨noTypes, noBrackets, noIndex, noArguments⟩ form among
    cases form with
    | member => rfl
    | brackets => exact absurd among noBrackets
    | index => exact absurd among noIndex
    | typeArguments => exact absurd among noTypes
    | arguments => exact absurd among noArguments

/-- What a row of forms makes of a name. -/
structure Classification.Fits (result : Classification) (forms : List SuffixForm) : Prop where
  isType : result = .type ↔ .typeArguments ∈ forms ∨ .brackets ∈ forms
  isReadOnly : result = .referenceUnassignable ↔ forms.getLast? = some .arguments
  isReference : result = .reference ↔
    (.index ∈ forms ∨ .arguments ∈ forms) ∧ forms.getLast? ≠ some .arguments
  isUndetermined : result = .undetermined ↔ ∀ form ∈ forms, form = .member

/-! ## Stages -/

/-- Where the work on the suffixes of a name stands. -/
inductive SuffixStage where
  /-- Suffixes of several forms may come. -/
  | running (soFar : Classification) (last : LastPart)
  /-- Behind empty brackets, where more of them may come. -/
  | brackets
  /-- Nothing more may come. -/
  | ended (result : Classification)

/-- What one more suffix does. -/
inductive SuffixEffect where
  /-- It belongs to the whole. -/
  | goesOn (stage : SuffixStage)
  /-- The whole ends before it. -/
  | stops (result : Classification)
  /-- It is an error. -/
  | refuses (code : ErrorCode)

namespace SuffixStage

open SuffixForm

/-- Behind the name alone. -/
def start : SuffixStage :=
  running .undetermined .base

/-- What the whole is when it ends here. -/
def result : SuffixStage → Classification
  | running soFar last => Grammar.settle soFar last
  | brackets => .type
  | ended result => result

/-- The effect of one more suffix of a form. -/
def meet (dialect : Dialect) : SuffixStage → SuffixForm → SuffixEffect
  | running soFar _, .member => .goesOn (running soFar .member)
  | running soFar _, .brackets =>
    if soFar = .reference then .refuses .typeOrReference else .goesOn brackets
  | running soFar _, .index =>
    if soFar = .type then .refuses .typeOrReference
    else .goesOn (if dialect.isMini then ended .reference else running .reference .index)
  | running soFar _, .typeArguments =>
    if soFar = .reference then .refuses .typeOrReference
    else .goesOn (running .type .typeArguments)
  | running soFar last, .arguments =>
    if soFar = .type then .refuses .typeOrReference
    else if !last.isCallable then .refuses .invalidCall
    else
      .goesOn (if dialect.isMini then ended .referenceUnassignable
        else running .reference .arguments)
  | brackets, .brackets => .goesOn brackets
  | brackets, .index => .refuses .unexpectedToken
  | brackets, _ => .stops .type
  | ended result, _ => .stops result

/-- What goes on breaks no rule. -/
theorem ite_refuses_eq_goesOn {rule : Prop} [Decidable rule] {code : ErrorCode}
    {effect : SuffixEffect} {next : SuffixStage} :
    (if rule then .refuses code else effect) = .goesOn next ↔ ¬ rule ∧ effect = .goesOn next := by
  by_cases breaks : rule <;> simp [breaks]

theorem goesOn_of_ite {rule : Prop} [Decidable rule] {code : ErrorCode} {stage : SuffixStage} :
    (∃ next, (if rule then SuffixEffect.refuses code else .goesOn stage) = .goesOn next) ↔
      ¬ rule := by
  simp only [ite_refuses_eq_goesOn]
  exact ⟨fun ⟨_, noBreak, _⟩ => noBreak, fun noBreak => ⟨stage, noBreak, rfl⟩⟩

/-- The steps from stage to stage. -/
inductive Goes (dialect : Dialect) : SuffixStage → SuffixForm → SuffixStage → Prop
  | member {soFar : Classification} {last : LastPart} :
      Goes dialect (running soFar last) .member (running soFar .member)
  | pair {soFar : Classification} {last : LastPart} (noReference : soFar ≠ .reference) :
      Goes dialect (running soFar last) .brackets brackets
  | onlyIndex {soFar : Classification} {last : LastPart} (mini : dialect = .mini)
      (noType : soFar ≠ .type) : Goes dialect (running soFar last) .index (ended .reference)
  | index {soFar : Classification} {last : LastPart} (extended : dialect = .extended)
      (noType : soFar ≠ .type) :
      Goes dialect (running soFar last) .index (running .reference .index)
  | typeArguments {soFar : Classification} {last : LastPart} (noReference : soFar ≠ .reference) :
      Goes dialect (running soFar last) .typeArguments (running .type .typeArguments)
  | onlyArguments {soFar : Classification} {last : LastPart} (mini : dialect = .mini)
      (noType : soFar ≠ .type) (callable : last.isCallable = true) :
      Goes dialect (running soFar last) .arguments (ended .referenceUnassignable)
  | arguments {soFar : Classification} {last : LastPart} (extended : dialect = .extended)
      (noType : soFar ≠ .type) (callable : last.isCallable = true) :
      Goes dialect (running soFar last) .arguments (running .reference .arguments)
  | again : Goes dialect brackets .brackets brackets

variable {dialect : Dialect} {forms others : List SuffixForm} {form : SuffixForm}
  {stage next : SuffixStage}

/-- **A suffix that goes on makes one of the steps.** -/
theorem meet_goesOn_iff : stage.meet dialect form = .goesOn next ↔ stage.Goes dialect form next := by
  constructor
  · intro goes
    -- A form is met by refusals first; what is left of each is the premise of its constructor.
    cases stage with
    | running soFar last =>
        cases form with
        | member =>
            cases goes
            exact .member
        | brackets =>
            obtain ⟨noReference, same⟩ := ite_refuses_eq_goesOn.mp goes
            cases same
            exact .pair noReference
        | index =>
            obtain ⟨noType, same⟩ := ite_refuses_eq_goesOn.mp goes
            cases same
            cases dialect with
            | mini => exact .onlyIndex rfl noType
            | extended => exact .index rfl noType
        | typeArguments =>
            obtain ⟨noReference, same⟩ := ite_refuses_eq_goesOn.mp goes
            cases same
            exact .typeArguments noReference
        | arguments =>
            obtain ⟨noType, name⟩ := ite_refuses_eq_goesOn.mp goes
            obtain ⟨name, same⟩ := ite_refuses_eq_goesOn.mp name
            have callable : last.isCallable = true := by simpa using name
            cases same
            cases dialect with
            | mini => exact .onlyArguments rfl noType callable
            | extended => exact .arguments rfl noType callable
    | brackets =>
        cases form with
        | brackets =>
            cases goes
            exact .again
        | _ => cases goes
    | ended result => cases goes
  · intro goes
    cases goes with
    | member | again => rfl
    | pair noReference | typeArguments noReference => simp [meet, noReference]
    | onlyIndex mini noType => simp [meet, mini, noType, Dialect.isMini]
    | index extended noType => simp [meet, extended, noType, Dialect.isMini]
    | onlyArguments mini noType callable => simp [meet, mini, noType, callable, Dialect.isMini]
    | arguments extended noType callable =>
        simp [meet, extended, noType, callable, Dialect.isMini]

/-- The effect of suffixes of several forms, one after the other. -/
def meetAll (dialect : Dialect) : SuffixStage → List SuffixForm → SuffixEffect
  | stage, [] => .goesOn stage
  | stage, form :: forms =>
    match stage.meet dialect form with
    | .goesOn next => next.meetAll dialect forms
    | effect => effect

/-- A row is gone through when its first form goes on and the others are gone through from there. -/
theorem meetAll_cons_iff : stage.meetAll dialect (form :: forms) = .goesOn next ↔
    ∃ middle, stage.meet dialect form = .goesOn middle ∧
      middle.meetAll dialect forms = .goesOn next := by
  rw [meetAll]
  cases stage.meet dialect form with
  | goesOn middle => simp
  | stops result | refuses code => simp

theorem meetAll_append (through : stage.meetAll dialect forms = .goesOn next) :
    stage.meetAll dialect (forms ++ others) = next.meetAll dialect others := by
  induction forms generalizing stage with
  | nil =>
      cases through
      rfl
  | cons form forms ih =>
      obtain ⟨middle, met, onward⟩ := meetAll_cons_iff.mp through
      rw [List.cons_append, meetAll, met]
      exact ih onward

/-- A row is gone through when the row without its last form is, and the last form goes on. -/
theorem meetAll_concat_iff : stage.meetAll dialect (forms ++ [form]) = .goesOn next ↔
    ∃ middle, stage.meetAll dialect forms = .goesOn middle ∧
      middle.meet dialect form = .goesOn next := by
  induction forms generalizing stage with
  | nil =>
      rw [List.nil_append, meetAll_cons_iff]
      simp [meetAll]
  | cons first forms ih =>
      simp only [List.cons_append, meetAll_cons_iff, ih]
      constructor
      · rintro ⟨here, met, middle, onward, last⟩
        exact ⟨middle, ⟨here, met, onward⟩, last⟩
      · rintro ⟨middle, ⟨here, met, onward⟩, last⟩
        exact ⟨here, met, middle, onward, last⟩

/-! ## What a stage tells -/

/-- The last part of a row. -/
inductive EndsIn : List SuffixForm → LastPart → Prop
  | base : EndsIn [] .base
  | member (forms : List SuffixForm) : EndsIn (forms ++ [.member]) .member
  | index (forms : List SuffixForm) : EndsIn (forms ++ [.index]) .index
  | typeArguments (forms : List SuffixForm) : EndsIn (forms ++ [.typeArguments]) .typeArguments
  | arguments (forms : List SuffixForm) : EndsIn (forms ++ [.arguments]) .arguments

/-- That a stage is the one behind a row of forms. -/
inductive Tells (dialect : Dialect) (forms : List SuffixForm) : SuffixStage → Prop
  | running {soFar : Classification} {last : LastPart}
      (isType : soFar = .type ↔ .typeArguments ∈ forms)
      (isReference : soFar = .reference ↔ .index ∈ forms ∨ .arguments ∈ forms)
      (unsettled : soFar ≠ .referenceUnassignable) (noBrackets : .brackets ∉ forms)
      (ends : EndsIn forms last) (plain : dialect = .mini → soFar = .undetermined) :
      Tells dialect forms (running soFar last)
  | brackets (some : .brackets ∈ forms) (noIndex : .index ∉ forms)
      (noArguments : .arguments ∉ forms) : Tells dialect forms brackets
  | indexed (mini : dialect = .mini) (ends : forms.getLast? = some .index)
      (noTypes : .typeArguments ∉ forms) (noBrackets : .brackets ∉ forms) :
      Tells dialect forms (ended .reference)
  | called (mini : dialect = .mini) (ends : forms.getLast? = some .arguments)
      (noTypes : .typeArguments ∉ forms) (noBrackets : .brackets ∉ forms) :
      Tells dialect forms (ended .referenceUnassignable)

theorem tells_start (dialect : Dialect) : Tells dialect [] start :=
  .running (by simp) (by simp) (by simp) (by simp) .base fun _ => rfl

/-- A step makes the row longer. -/
theorem Tells.goes (tells : Tells dialect forms stage)
    (known : dialect = .mini → form ≠ .typeArguments) (goes : stage.Goes dialect form next) :
    Tells dialect (forms ++ [form]) next := by
  -- Behind brackets only brackets go on, and behind a mini index or call nothing does.
  cases tells with
  | running isType isReference unsettled noBrackets ends plain =>
      cases goes with
      | member =>
          exact .running (by simpa using isType) (by simpa using isReference) unsettled
            (by simpa using noBrackets) (.member forms) plain
      | pair noReference =>
          rw [Ne, isReference, not_or] at noReference
          exact .brackets (by simp) (by simpa using noReference.1) (by simpa using noReference.2)
      | onlyIndex mini noType =>
          rw [Ne, isType] at noType
          exact .indexed mini (by simp) (by simpa using noType) (by simpa using noBrackets)
      | index extended noType =>
          rw [Ne, isType] at noType
          exact .running (by simpa using noType) (by simp) (by simp) (by simpa using noBrackets)
            (.index forms) (by simp [extended])
      | typeArguments noReference =>
          rw [Ne, isReference] at noReference
          exact .running (by simp) (by simpa using noReference) (by simp)
            (by simpa using noBrackets) (.typeArguments forms) fun mini => absurd rfl (known mini)
      | onlyArguments mini noType _ =>
          rw [Ne, isType] at noType
          exact .called mini (by simp) (by simpa using noType) (by simpa using noBrackets)
      | arguments extended noType _ =>
          rw [Ne, isType] at noType
          exact .running (by simpa using noType) (by simp) (by simp) (by simpa using noBrackets)
            (.arguments forms) (by simp [extended])
  | brackets some noIndex noArguments =>
      cases goes with
      | again => exact .brackets (by simp) (by simpa using noIndex) (by simpa using noArguments)
  | indexed | called => cases goes

/-- Only what ends in a name can be called. -/
theorem EndsIn.isCallable_iff {last : LastPart} (ends : EndsIn forms last) :
    last.isCallable = true ↔ ∀ form ∈ forms.getLast?, form = .member := by
  cases ends <;> simp [LastPart.isCallable]

/-- A value that does not end in storage ends in arguments. -/
theorem EndsIn.isStorage_iff {last : LastPart} (ends : EndsIn forms last)
    (value : .index ∈ forms ∨ .arguments ∈ forms) (noTypes : .typeArguments ∉ forms) :
    last.isStorage = false ↔ forms.getLast? = some .arguments := by
  cases ends with
  | base => simp at value
  | member | index | arguments => simp [LastPart.isStorage]
  | typeArguments => simp at noTypes

theorem last_ne_arguments (noArguments : .arguments ∉ forms) :
    forms.getLast? ≠ some .arguments :=
  fun last => noArguments (List.mem_of_getLast? last)

/-- **What the whole is when it ends.** -/
theorem Tells.fits (tells : Tells dialect forms stage) : stage.result.Fits forms := by
  cases tells with
  | @running soFar last isType isReference unsettled noBrackets ends plain =>
      rw [SuffixStage.result, Grammar.settle]
      cases soFar with
      | undetermined =>
          have noTypes : .typeArguments ∉ forms := fun among => by cases isType.mpr among
          have noValues : ¬ (.index ∈ forms ∨ .arguments ∈ forms) := fun among => by
            cases isReference.mpr among
          have noCall := last_ne_arguments fun among => noValues (.inr among)
          rw [not_or] at noValues
          constructor <;> simp [all_members_iff, noTypes, noBrackets, noValues, noCall]
      | type =>
          have types : .typeArguments ∈ forms := isType.mp rfl
          have noValues : ¬ (.index ∈ forms ∨ .arguments ∈ forms) := fun among => by
            cases isReference.mpr among
          have noCall := last_ne_arguments fun among => noValues (.inr among)
          constructor <;> simp [all_members_iff, types, noValues, noCall]
      | reference =>
          -- the last part decides whether the value can be assigned to
          have noTypes : .typeArguments ∉ forms := fun among => by cases isType.mpr among
          have values := isReference.mp rfl
          have stored := ends.isStorage_iff values noTypes
          have notPlain : ¬ ∀ form ∈ forms, form = .member := by
            rw [all_members_iff]
            rintro ⟨-, -, noIndex, noArguments⟩
            exact values.elim noIndex noArguments
          cases storage : last.isStorage with
          | true =>
              rw [storage] at stored
              constructor <;> simp_all
          | false =>
              rw [storage] at stored
              constructor <;> simp_all
      | referenceUnassignable => exact absurd rfl unsettled
  | brackets some noIndex noArguments =>
      have noCall := last_ne_arguments noArguments
      constructor <;> simp [SuffixStage.result, all_members_iff, some, noIndex, noArguments, noCall]
  | indexed mini ends noTypes noBrackets =>
      have among : .index ∈ forms := List.mem_of_getLast? ends
      constructor <;>
        simp [SuffixStage.result, all_members_iff, ends, noTypes, noBrackets, among]
  | called mini ends noTypes noBrackets =>
      have among : .arguments ∈ forms := List.mem_of_getLast? ends
      constructor <;>
        simp [SuffixStage.result, all_members_iff, ends, noTypes, noBrackets, among]

/-! ## Permitted rows are gone through -/

theorem Tells.goesOn_iff_mini (tells : Tells .mini forms stage)
    (permitted : Permitted .mini forms) (known : form ≠ .typeArguments) :
    (∃ next, stage.meet .mini form = .goesOn next) ↔ Permitted .mini (forms ++ [form]) := by
  rw [permitted_mini_concat]
  cases tells with
  | @running soFar last isType isReference unsettled noBrackets ends plain =>
      obtain rfl := plain rfl
      -- only names were read, so each form may come
      have names : ∀ before ∈ forms, before = .member := by
        rw [all_members_iff]
        refine ⟨fun among => ?_, noBrackets, fun among => ?_, fun among => ?_⟩
        · cases isType.mpr among
        · cases isReference.mpr (.inl among)
        · cases isReference.mpr (.inr among)
      have callable : last.isCallable = true :=
        ends.isCallable_iff.mpr fun before there => names before (List.mem_of_getLast? there)
      have goes : ∃ next, (SuffixStage.running .undetermined last).meet .mini form =
          .goesOn next := by
        cases form with
        | member | brackets | index => exact ⟨_, rfl⟩
        | typeArguments => exact absurd rfl known
        | arguments => simp [SuffixStage.meet, callable]
      exact iff_of_true goes (.inl ⟨known, names⟩)
  | brackets some noIndex noArguments =>
      have notNames : ¬ ∀ before ∈ forms, before = .member := fun names => by
        cases names _ some
      cases form <;> simp [SuffixStage.meet, permitted, some, notNames]
  | indexed mini ends noTypes noBrackets | called mini ends noTypes noBrackets =>
      have notNames : ¬ ∀ before ∈ forms, before = .member := fun names => by
        cases names _ (List.mem_of_getLast? ends)
      simp [SuffixStage.meet, noBrackets, notNames]

theorem Tells.goesOn_iff_extended (tells : Tells .extended forms stage)
    (permitted : Permitted .extended forms) :
    (∃ next, stage.meet .extended form = .goesOn next) ↔ Permitted .extended (forms ++ [form]) := by
  have agree : Agree forms := permitted
  rw [Permitted, agree_concat]
  cases tells with
  | @running soFar last isType isReference unsettled noBrackets ends plain =>
      cases form with
      | member => simp [SuffixStage.meet, agree, noBrackets]
      | brackets | typeArguments =>
          rw [SuffixStage.meet, goesOn_of_ite, isReference]
          simp [agree, noBrackets]
      | index =>
          rw [SuffixStage.meet, goesOn_of_ite, isType]
          simp [agree, noBrackets]
      | arguments =>
          have callable := ends.isCallable_iff
          by_cases type : soFar = .type
          · simp [SuffixStage.meet, ← isType, type]
          · cases called : last.isCallable with
            | true => simp_all [SuffixStage.meet]
            | false => simp_all [SuffixStage.meet]
  | brackets some noIndex noArguments =>
      cases form <;> simp [SuffixStage.meet, agree, some, noIndex, noArguments]
  | indexed mini | called mini => cases mini

/-- **A stage goes on with the forms that keep its row permitted.** -/
theorem Tells.goesOn_iff (tells : Tells dialect forms stage) (permitted : Permitted dialect forms)
    (known : dialect = .mini → form ≠ .typeArguments) :
    (∃ next, stage.meet dialect form = .goesOn next) ↔ Permitted dialect (forms ++ [form]) := by
  cases dialect with
  | mini => exact tells.goesOn_iff_mini permitted (known rfl)
  | extended => exact tells.goesOn_iff_extended permitted

/-- A permitted row is permitted as far as it goes. -/
theorem permitted_of_concat (permitted : Permitted dialect (forms ++ [form])) :
    Permitted dialect forms := by
  cases dialect with
  | mini =>
      rcases permitted_mini_concat.mp permitted with ⟨-, names⟩ | ⟨before, -⟩
      · exact ⟨forms, [], (List.append_nil _).symm, names, .inl (by simp)⟩
      · exact before
  | extended =>
      have agree : Agree (forms ++ [form]) := permitted
      exact (agree_concat.mp agree).1

/-- **The rows that are gone through are the permitted ones**, and the stage behind a row tells of
it. The induction is from behind, as a form is judged by those before it. -/
theorem meetAll_start (known : dialect = .mini → .typeArguments ∉ forms) :
    ((∃ stage, start.meetAll dialect forms = .goesOn stage) ↔ Permitted dialect forms) ∧
      ∀ stage, start.meetAll dialect forms = .goesOn stage → Tells dialect forms stage := by
  induction forms using List.reverseRecOn with
  | nil =>
      refine ⟨iff_of_true ⟨start, rfl⟩ (permitted_nil dialect), ?_⟩
      intro stage same
      cases same
      exact tells_start dialect
  | append_singleton forms form ih =>
      obtain ⟨through, telling⟩ := ih fun mini among => known mini (List.mem_append_left _ among)
      have own : dialect = .mini → form ≠ .typeArguments := by
        rintro mini rfl
        exact known mini (List.mem_append_right _ (List.mem_singleton_self _))
      -- the stage in the middle tells of the shorter row
      refine ⟨⟨?_, fun permitted => ?_⟩, fun stage goes => ?_⟩
      · rintro ⟨stage, goes⟩
        obtain ⟨middle, before, met⟩ := meetAll_concat_iff.mp goes
        exact ((telling middle before).goesOn_iff (through.mp ⟨middle, before⟩) own).mp
          ⟨stage, met⟩
      · have shorter := permitted_of_concat permitted
        obtain ⟨middle, before⟩ := through.mpr shorter
        obtain ⟨next, met⟩ := ((telling middle before).goesOn_iff shorter own).mpr permitted
        exact ⟨next, meetAll_concat_iff.mpr ⟨middle, before, met⟩⟩
      · obtain ⟨middle, before, met⟩ := meetAll_concat_iff.mp goes
        exact (telling middle before).goes own (meet_goesOn_iff.mp met)

/-- **The code of the first form that breaks the rules**, where no empty brackets were before. -/
theorem meetAll_refuses (permitted : Permitted .extended forms)
    (breaks : ¬ Permitted .extended (forms ++ [form])) (noBrackets : .brackets ∉ forms) :
    start.meetAll .extended (forms ++ form :: others) =
      .refuses (if form = .arguments ∧
          (forms.getLast? = some .index ∨ forms.getLast? = some .arguments) then .invalidCall
        else .typeOrReference) := by
  obtain ⟨through, telling⟩ := @meetAll_start .extended forms (by simp)
  obtain ⟨stage, goes⟩ := through.mpr permitted
  have tells := telling stage goes
  rw [← tells.goesOn_iff permitted (by simp)] at breaks
  rw [meetAll_append goes, meetAll]
  cases tells with
  | @running soFar last isType isReference unsettled _ ends plain =>
      cases form with
      | member => exact absurd ⟨_, rfl⟩ breaks
      | brackets | index | typeArguments =>
          rw [SuffixStage.meet, goesOn_of_ite, not_not] at breaks
          rw [SuffixStage.meet, if_pos breaks, if_neg (by simp)]
      | arguments =>
          by_cases type : soFar = .type
          · -- type arguments were read, so the last part is no value
            have noValues : ¬ (.index ∈ forms ∨ .arguments ∈ forms) := by
              rw [← isReference, type]
              decide
            rw [SuffixStage.meet, if_pos type, if_neg]
            rintro ⟨-, last⟩
            exact noValues (last.imp List.mem_of_getLast? List.mem_of_getLast?)
          · -- without type arguments only the last part can stand against a call
            rw [SuffixStage.meet, if_neg type, goesOn_of_ite, not_not] at breaks
            rw [SuffixStage.meet, if_neg type, if_pos breaks, if_pos]
            refine ⟨rfl, ?_⟩
            cases ends with
            | base | member => cases breaks
            | index | arguments => simp
            | typeArguments => simp [isType] at type
  | brackets some => exact absurd some noBrackets
  | indexed mini | called mini => cases mini

end SuffixStage

end MiniJ
