import MiniJ.Proofs.Language.Soundness
import MiniJ.Proofs.Language.TypeOrReference

/-!
# Updates before and behind their target

`++` and `--` stand before what they count up or down, or behind it. In front of its target the sign
takes every reference, a call as well, so only types are refused. Behind its target it takes what
can be assigned to, so it refuses calls and types. The two forms agree on targets, and a call is
where they differ (`update_forms`).

What the grammars call a target, a call or the type of a variable is found again in the stages of
reading. Each of these phrases is a row of suffixes that are gone through one by one (`Row`), so
work on it comes to its classification, whatever it is read for.
-/

set_option autoImplicit false

namespace MiniJ

open Ebnf Grammar MiniJ.Language

/-! ## Rows of suffixes -/

/-- A type-or-reference that takes tokens to what is left of them, with the stage behind it. -/
inductive Row (dialect : Dialect) : SuffixStage → List Token → List Token → Prop
  | name {base : Token} {ts : List Token} (isBase : base.kind ∈ [.ident, .keyword .this_]) :
      Row dialect .start (base :: ts) ts
  | primitive {base : Token} {ts : List Token} {type : Primitive}
      (here : base.kind = .primitive type) (element : dialect = .mini → type ≠ .boolean) :
      Row dialect .brackets (base :: ts) ts
  /-- The truth type of the mini dialect never has brackets. -/
  | boolean {base : Token} {ts : List Token} (here : base.kind = .primitive .boolean)
      (mini : dialect = .mini) : Row dialect (.ended .type) (base :: ts) ts
  | snoc {stage next : SuffixStage} {form : SuffixForm} {ts us vs : List Token} :
      Row dialect stage ts us → Derives dialect form.part us vs →
      (dialect = .mini → form ≠ .typeArguments) → stage.Goes dialect form next →
      Row dialect next ts vs

section Rows

variable {dialect : Dialect} {stop : Token} {stage : SuffixStage} {ts us vs : List Token}

/-- Behind a row work stands at its stage. The induction is along the row, one suffix at a time. -/
theorem Row.leadsTo (row : Row dialect stage ts us) (stops : stop.kind = .eot)
    (after : List Token) :
    LeadsTo dialect stop (fun purpose => [.reference purpose]) (ts ++ after) stage.agenda
      (us ++ after) := by
  induction row with
  | name isBase => exact leadsTo_start isBase _
  | primitive here element =>
      apply leadsTo_consume
      intro purpose
      rw [Symbol.expand, expandReference, here]
      cases dialect <;> simp_all [Dialect.isMini, SuffixStage.agenda]
  | boolean here mini =>
      apply leadsTo_consume
      intro purpose
      simp [Symbol.expand, expandReference, here, mini, Dialect.isMini, SuffixStage.agenda]
  | @snoc stage next form ts us vs _ derives known goes ih =>
      obtain ⟨tokens, rfl, own⟩ := Ebnf.Derives.cut derives (List.nil_append vs).symm
      have wellFormed : Suffix.WellFormed dialect ⟨form, tokens⟩ := ⟨own, known⟩
      have once := stage.meets stops wellFormed (vs ++ after)
      rw [SuffixStage.meet_goesOn_iff.mpr goes] at once
      rw [List.append_assoc] at ih
      exact ih.trans once

/-- A whole row is classified by its stage. -/
theorem Row.classifies (row : Row dialect stage ts []) (stops : stop.kind = .eot)
    {after : List Token} (noSuffix : ¬ dialect.startsSuffix (frontOf stop after).kind) :
    LeadsTo dialect stop (fun purpose => [.reference purpose]) (ts ++ after)
      (fun purpose => classify purpose stage.result) after :=
  (row.leadsTo stops after).trans (stage.ends noSuffix)

/-- What a row begins with. -/
theorem Row.begins (row : Row dialect stage ts us) (stop : Token) (after : List Token) :
    (frontOf stop (ts ++ after)).kind.beginsReference = true := by
  induction row with
  | @name base ts isBase =>
      simp only [List.mem_cons, List.not_mem_nil, or_false] at isBase
      rcases isBase with here | here <;> simp [here, TokenKind.beginsReference]
  | primitive here => simp [here, TokenKind.beginsReference]
  | boolean here => simp [here, TokenKind.beginsReference]
  | snoc _ _ _ _ ih => exact ih

/-- In the extended dialect a row goes on unless it ends in empty brackets. -/
theorem Row.running_or_brackets (row : Row .extended stage ts us) :
    (∃ soFar last, stage = .running soFar last ∧ soFar ≠ .referenceUnassignable) ∨
      stage = .brackets := by
  induction row with
  | name => exact .inl ⟨_, _, rfl, by decide⟩
  | primitive => exact .inr rfl
  | boolean _ mini => cases mini
  | snoc _ _ _ goes ih =>
      cases goes with
      | member =>
          rcases ih with ⟨_, _, same, unsettled⟩ | other
          · cases same
            exact .inl ⟨_, _, rfl, unsettled⟩
          · cases other
      | pair | again => exact .inr rfl
      | index | typeArguments | arguments => exact .inl ⟨_, _, rfl, by decide⟩
      | onlyIndex mini | onlyArguments mini => cases mini

/-- A reference of the extended dialect goes on. -/
theorem Row.running (row : Row .extended stage ts us) (noType : stage.result ≠ .type) :
    ∃ soFar last, stage = .running soFar last ∧ (soFar = .undetermined ∨ soFar = .reference) := by
  rcases row.running_or_brackets with ⟨soFar, last, rfl, unsettled⟩ | rfl
  · refine ⟨soFar, last, rfl, ?_⟩
    cases soFar with
    | undetermined => exact .inl rfl
    | reference => exact .inr rfl
    | type => exact absurd rfl noType
    | referenceUnassignable => exact absurd rfl unsettled
  · exact absurd rfl noType

/-- So a name behind it can be assigned to and can be called. -/
theorem Row.dotted (row : Row .extended stage ts us) (noType : stage.result ≠ .type)
    (further : Derives .extended dotted us vs) :
    ∃ soFar, Row .extended (.running soFar .member) ts vs ∧
      (soFar = .undetermined ∨ soFar = .reference) := by
  obtain ⟨soFar, last, rfl, open_⟩ := row.running noType
  have further : Derives .extended SuffixForm.member.part us vs := further
  exact ⟨soFar, row.snoc further (by simp) .member, open_⟩

/-- Names behind dots leave it open what the whole is. -/
theorem row_of_name (derives : Derives dialect name ts us) :
    ∃ last : LastPart, last.isCallable = true ∧
      Row dialect (.running .undetermined last) ts us := by
  obtain ⟨first, rest, rfl, isHead, more⟩ := name_reads derives
  have row := derives_many.mp more
  clear derives more
  induction row with
  | refl => exact ⟨.base, rfl, .name isHead⟩
  | tail _ once ih =>
      obtain ⟨last, -, row⟩ := ih
      have dotted : Derives dialect SuffixForm.member.part _ _ := once
      exact ⟨.member, rfl, row.snoc dotted (by simp) .member⟩

/-- Empty brackets make a row the type of a variable. -/
theorem Row.pairs (row : Row dialect stage ts us) (stays : stage.result.canBeType = true)
    (goes : stage.Goes dialect .brackets .brackets)
    (pairs : Derives dialect (many brackets) us vs) :
    ∃ next, Row dialect next ts vs ∧ next.result.canBeType = true := by
  have more := derives_many.mp pairs
  clear pairs
  -- the first pair makes it a type, and every further pair leaves it one
  have bracketed : (vs = us ∧ Row dialect stage ts vs) ∨ Row dialect .brackets ts vs := by
    induction more with
    | refl => exact .inl ⟨rfl, row⟩
    | tail _ once ih =>
        have pair : Derives dialect SuffixForm.brackets.part _ _ := once
        rcases ih with ⟨-, row⟩ | row
        · exact .inr (row.snoc pair (by simp) goes)
        · exact .inr (row.snoc pair (by simp) .again)
  rcases bracketed with ⟨-, row⟩ | row
  · exact ⟨stage, row, stays⟩
  · exact ⟨.brackets, row, rfl⟩

end Rows

/-! ## The phrases of the grammars are rows -/

section Phrases

variable {dialect : Dialect} {ts us vs : List Token}

/-- What is known of the rows of a phrase. -/
def Rowed (dialect : Dialect) : Phrase → List Token → List Token → Prop
  | .target, ts, us => ∃ stage, Row dialect stage ts us ∧ stage.result.isAssignable = true
  | .call, ts, us => ∃ stage, Row dialect stage ts us ∧ stage.result = .referenceUnassignable
  | .reference, ts, us => ∃ stage, Row dialect stage ts us ∧ stage.result ≠ .type
  | .declared, ts, us => ∃ stage, Row dialect stage ts us ∧ stage.result.canBeType = true
  | _, _, _ => True

/-- Whether a part of a rule takes tokens, where the phrases in it have rows. -/
abbrev TakesRows (dialect : Dialect) (part : Part) (ts us : List Token) : Prop :=
  part.Reads Sign.Admits
    (fun name ts us => Derives dialect (phrase name) ts us ∧ Rowed dialect name ts us) ts us

theorem TakesRows.derives {part : Part} (row : TakesRows dialect part ts us) :
    Derives dialect part ts us :=
  .of_reads (row.mono fun _ _ _ both => both.1)

theorem target_rowed (row : TakesRows dialect (rule dialect .target) ts us) :
    Rowed dialect .target ts us := by
  cases dialect with
  | mini =>
      rcases row with named | ⟨vs, named, _, further, rfl⟩ | never
      · obtain ⟨last, -, row⟩ := row_of_name (TakesRows.derives named)
        exact ⟨_, row, rfl⟩
      · obtain ⟨last, -, row⟩ := row_of_name (TakesRows.derives named)
        have indexed : Derives .mini SuffixForm.index.part _ _ := TakesRows.derives further
        exact ⟨_, row.snoc indexed (by simp) (.onlyIndex rfl (by decide)), rfl⟩
      · exact never.elim
  | extended =>
      rcases row with ⟨base, isBase, rfl⟩ | ⟨vs, ⟨-, stage, row, noType⟩, _, further, rfl⟩ |
        ⟨vs, ⟨-, stage, row, noType⟩, _, further, rfl⟩ | never
      · exact ⟨_, .name isBase, rfl⟩
      · obtain ⟨soFar, row, open_⟩ := row.dotted noType (TakesRows.derives further)
        refine ⟨_, row, ?_⟩
        rcases open_ with rfl | rfl <;> rfl
      · obtain ⟨soFar, last, rfl, open_⟩ := row.running noType
        have indexed : Derives .extended SuffixForm.index.part _ _ := TakesRows.derives further
        have noType : soFar ≠ .type := by
          rcases open_ with rfl | rfl <;> decide
        exact ⟨_, row.snoc indexed (by simp) (.index rfl noType), rfl⟩
      · exact never.elim

theorem call_rowed (row : TakesRows dialect (rule dialect .call) ts us) :
    Rowed dialect .call ts us := by
  cases dialect with
  | mini =>
      obtain ⟨vs, named, _, ⟨called, -⟩, rfl⟩ := row
      obtain ⟨last, callable, row⟩ := row_of_name (TakesRows.derives named)
      have called : Derives .mini SuffixForm.arguments.part _ _ := called
      exact ⟨_, row.snoc called (by simp) (.onlyArguments rfl (by decide) callable), rfl⟩
  | extended =>
      rcases row with ⟨vs, ⟨base, isBase, rfl⟩, _, ⟨called, -⟩, rfl⟩ |
        ⟨vs, ⟨-, stage, row, noType⟩, ws, further, _, ⟨called, -⟩, rfl⟩ | never
      · have called : Derives .extended SuffixForm.arguments.part _ _ := called
        exact ⟨_, (Row.name isBase).snoc called (by simp) (.arguments rfl (by decide) rfl), rfl⟩
      · obtain ⟨soFar, row, open_⟩ := row.dotted noType (TakesRows.derives further)
        have called : Derives .extended SuffixForm.arguments.part _ _ := called
        have noType : soFar ≠ .type := by
          rcases open_ with rfl | rfl <;> decide
        exact ⟨_, row.snoc called (by simp) (.arguments rfl noType rfl), rfl⟩
      · exact never.elim

theorem declared_rowed (row : TakesRows dialect (rule dialect .declared) ts us) :
    Rowed dialect .declared ts us := by
  cases dialect with
  | mini =>
      rcases row with ⟨base, here, rfl⟩ | ⟨_, ⟨base, among, rfl⟩, _, pairs, rfl⟩ |
        ⟨vs, named, _, pairs, rfl⟩ | never
      · exact ⟨_, .boolean here rfl, rfl⟩
      · -- the truth type is no element type, so brackets may come
        obtain ⟨type, here, element⟩ := exists_elementPrimitive among
        exact (Row.primitive here fun _ => element).pairs rfl .again (TakesRows.derives pairs)
      · obtain ⟨last, -, row⟩ := row_of_name (TakesRows.derives named)
        exact row.pairs rfl (.pair (by decide)) (TakesRows.derives pairs)
      · exact never.elim
  | extended =>
      rcases row with ⟨_, ⟨base, among, rfl⟩, _, pairs, rfl⟩ |
        ⟨vs, ⟨base, isBase, rfl⟩, ws, suffixes, _, pairs, rfl⟩ | never
      · obtain ⟨type, here⟩ := exists_primitive among
        exact (Row.primitive here (by simp)).pairs rfl .again (TakesRows.derives pairs)
      · -- names leave open what the whole is, and type arguments make it a type
        have nominal : ∃ soFar last, Row .extended (.running soFar last) (base :: vs) ws ∧
            (soFar = .undetermined ∨ soFar = .type) := by
          have more := derives_many.mp (TakesRows.derives suffixes)
          clear suffixes pairs
          induction more with
          | refl => exact ⟨_, _, .name isBase, .inl rfl⟩
          | tail _ once ih =>
              obtain ⟨soFar, last, row, open_⟩ := ih
              rcases once.reads with further | arguments | never
              · have dotted : Derives .extended SuffixForm.member.part _ _ := .of_reads further
                exact ⟨_, _, row.snoc dotted (by simp) .member, open_⟩
              · have typed : Derives .extended SuffixForm.typeArguments.part _ _ :=
                  .of_reads arguments
                have noReference : soFar ≠ .reference := by
                  rcases open_ with rfl | rfl <;> decide
                exact ⟨_, _, row.snoc typed (by simp) (.typeArguments noReference), .inr rfl⟩
              · exact never.elim
        obtain ⟨soFar, last, row, open_⟩ := nominal
        have noReference : soFar ≠ .reference := by
          rcases open_ with rfl | rfl <;> decide
        refine row.pairs ?_ (.pair noReference) (TakesRows.derives pairs)
        rcases open_ with rfl | rfl <;> rfl
      · exact never.elim

/-- **The rules keep the rows of every phrase.** -/
theorem rowed_of_takes (name : Phrase) (ts us : List Token)
    (row : TakesRows dialect (rule dialect name) ts us) :
    Derives dialect (phrase name) ts us ∧ Rowed dialect name ts us := by
  refine ⟨.nonterminal (TakesRows.derives row), ?_⟩
  cases name with
  | target => exact target_rowed row
  | call => exact call_rowed row
  | declared => exact declared_rowed row
  | reference =>
      -- neither what can be assigned to nor a call is a type
      rcases row with ⟨-, stage, row, assignable⟩ | ⟨-, stage, row, isCall⟩ | never
      · refine ⟨stage, row, ?_⟩
        intro isType
        rw [isType] at assignable
        cases assignable
      · refine ⟨stage, row, ?_⟩
        intro isType
        cases isType.symm.trans isCall
      · exact never.elim
  | _ => trivial

/-- Every phrase has its row. -/
theorem rowed_of_derives {name : Phrase} (derives : Derives dialect (phrase name) ts us) :
    Rowed dialect name ts us :=
  (derives.least rowed_of_takes).2

end Phrases

/-! ## Where an update may stand -/

/-- In front of a name or a type a statement begins with a type-or-reference. -/
theorem works_statement_reference {dialect : Dialect} {stop : Token} {ts : List Token}
    (place : Place) (begins : (frontOf stop ts).kind.beginsReference = true) :
    Works dialect stop ([.statement place], ts) ([.reference (.statement place)], ts) := by
  have opens : (Symbol.statement place).expand dialect (frontOf stop ts) =
      .replace [.announce (.statement (frontOf stop ts).kind (place = .body)),
        .statementBody place] := by
    cases kind : (frontOf stop ts).kind <;> simp_all [Symbol.expand, TokenKind.beginsReference]
  have chooses : (Symbol.statementBody place).expand dialect (frontOf stop ts) =
      .replace [.reference (.statement place)] := by
    simp only [TokenKind.beginsReference] at begins
    split at begins <;> simp_all [Symbol.expand, expandStatementBody]
  exact .head (.replace opens) (.head (.announce rfl) (.single (.replace chooses)))

/-- The places of an update. -/
inductive UpdatePlace where
  /-- A statement of its own. -/
  | statement
  /-- The last clause in the head of a loop. -/
  | loopHead

namespace UpdatePlace

/-- The kind of token that ends an update. -/
def closing : UpdatePlace → TokenKind
  | statement => .semicolon
  | loopHead => .rParen

/-- What a type-or-reference at the place is read for. -/
def purpose : UpdatePlace → Purpose
  | statement => .statement .body
  | loopHead => .forUpdate

/-- What is pending behind it. -/
def pending : UpdatePlace → List Symbol
  | statement => []
  | loopHead => [.token .rParen]

/-- Work on an update, with the token that ends it. -/
def agenda : UpdatePlace → List Symbol
  | statement => [.statement .body]
  | loopHead => [.forUpdate, .token .rParen]

/-- That an update with all its tokens is accepted. -/
def Takes (place : UpdatePlace) (dialect : Dialect) (stop : Token) (tokens : List Token) : Prop :=
  Accepts dialect stop place.agenda tokens

/-- That recognition of an update ends with an error of a code. -/
def Refuses (place : UpdatePlace) (dialect : Dialect) (stop : Token) (tokens : List Token)
    (code : String) : Prop :=
  ∃ bound error left,
    runOn dialect stop bound place.agenda tokens = (.rejected error, left) ∧
      error.code.text = code

variable {place : UpdatePlace} {dialect : Dialect} {stop sign : Token} {ts : List Token}

theorem closing_ends (place : UpdatePlace) (dialect : Dialect) :
    ¬ dialect.startsSuffix place.closing := by
  cases place <;> simp [Dialect.startsSuffix, closing]

/-- A sign in front leaves what it counts to come. -/
theorem works_sign (place : UpdatePlace) (isSign : sign.kind = .incDec) :
    Works dialect stop (place.agenda, sign :: ts)
      ([.reference (.update sign), .token place.closing], ts) := by
  have counts : Symbol.update.expand dialect sign = .consume [.reference (.update sign)] := by
    rw [Symbol.expand, if_pos isSign]
  cases place with
  | statement =>
      have opens : (Symbol.statement .body).expand dialect (frontOf stop (sign :: ts)) =
          .replace [.announce (.statement sign.kind true), .statementBody .body] := by
        simp [Symbol.expand, isSign]
      have chooses : (Symbol.statementBody .body).expand dialect (frontOf stop (sign :: ts)) =
          .replace [.update, .token .semicolon] := by
        simp [Symbol.expand, expandStatementBody, isSign, afterStatement]
      exact .head (.replace opens) (.head (.announce rfl) (.head (.replace chooses)
        (.single (.consume counts))))
  | loopHead =>
      have chooses : Symbol.forUpdate.expand dialect (frontOf stop (sign :: ts)) =
          .replace [.update] := by
        simp [Symbol.expand, expandForUpdate, isSign]
      exact .head (.replace chooses) (.single (.consume counts))

/-- In front of a name or a type a type-or-reference is to come. -/
theorem works_reference (place : UpdatePlace)
    (begins : (frontOf stop ts).kind.beginsReference = true) :
    Works dialect stop (place.agenda, ts) (.reference place.purpose :: place.pending, ts) := by
  cases place with
  | statement => exact works_statement_reference .body begins
  | loopHead =>
      have chooses : Symbol.forUpdate.expand dialect (frontOf stop ts) =
          .replace [.reference .forUpdate] := by
        simp only [TokenKind.beginsReference] at begins
        split at begins <;> simp_all [Symbol.expand, expandForUpdate]
      exact .single (.replace chooses)

/-- That work on an update comes to the error of a target that cannot be assigned to. -/
def LacksTarget (place : UpdatePlace) (dialect : Dialect) (stop : Token) (tokens : List Token) :
    Prop :=
  ∃ error, Fails dialect stop (place.agenda, tokens) error ∧ error.code = .invalidTarget

theorem LacksTarget.refuses (lacks : place.LacksTarget dialect stop ts) :
    place.Refuses dialect stop ts "E1004" := by
  obtain ⟨error, fails, code⟩ := lacks
  obtain ⟨bound, left, runs⟩ := fails.runOn
  refine ⟨bound, error, left, runs, ?_⟩
  rw [code]
  rfl

theorem LacksTarget.not_takes (lacks : place.LacksTarget dialect stop ts) :
    ¬ place.Takes dialect stop ts := by
  obtain ⟨error, fails, -⟩ := lacks
  exact fails.not_accepts

end UpdatePlace

/-! ## Both forms of an update -/

section Forms

variable {dialect : Dialect} {stop sign last : Token} {stage : SuffixStage} {r : List Token}

/-- **A row behind the sign** is taken unless it is a type. -/
theorem Row.behind_sign (row : Row dialect stage r []) (place : UpdatePlace)
    (stops : stop.kind = .eot) (isSign : sign.kind = .incDec) (isLast : last.kind = place.closing) :
    (stage.result ≠ .type → place.Takes dialect stop (sign :: (r ++ [last]))) ∧
      (stage.result = .type → place.LacksTarget dialect stop (sign :: (r ++ [last]))) := by
  have noSuffix : ¬ dialect.startsSuffix (frontOf stop [last]).kind := by
    rw [frontOf_cons, isLast]
    exact place.closing_ends dialect
  have works : Works dialect stop (place.agenda, sign :: (r ++ [last]))
      (classify (.update sign) stage.result ++ [.token place.closing], [last]) :=
    (place.works_sign isSign).trans
      (row.classifies stops noSuffix (.update sign) [.token place.closing])
  have judges : (Symbol.classified (.update sign) stage.result).expand dialect last =
      if stage.result = .type then .reject (.located (.updateOfType sign) sign)
      else .replace [] := rfl
  constructor
  · intro noType
    rw [if_neg noType] at judges
    exact works.accepts_iff.mpr
      (accepts_announce_then (.replace judges (accepts_token isLast .done)))
  · intro isType
    rw [if_pos isType] at judges
    refine ⟨_, works.fails ⟨_, _, _, _, .single (.announce rfl), judges, rfl⟩, ?_⟩
    rw [SyntaxError.code_before]
    rfl

/-- **A row in front of the sign** is taken when it can be assigned to. -/
theorem Row.before_sign (row : Row dialect stage r []) (place : UpdatePlace)
    (stops : stop.kind = .eot) (isSign : sign.kind = .incDec) (isLast : last.kind = place.closing) :
    (stage.result.isAssignable = true → place.Takes dialect stop (r ++ [sign, last])) ∧
      (stage.result.isAssignable = false →
        place.LacksTarget dialect stop (r ++ [sign, last])) := by
  have noSuffix : ¬ dialect.startsSuffix (frontOf stop [sign, last]).kind := by
    rw [frontOf_cons, isSign]
    simp [Dialect.startsSuffix]
  have works : Works dialect stop (place.agenda, r ++ [sign, last])
      (classify place.purpose stage.result ++ place.pending, [sign, last]) :=
    (place.works_reference (row.begins stop _)).trans
      (row.classifies stops noSuffix place.purpose place.pending)
  have among : sign.kind ∈ [.assign, .compoundAssign, .incDec] := by simp [isSign]
  -- what the operator makes of the row, and what is left then
  obtain ⟨after, judges, finishes⟩ : ∃ after,
      (Symbol.classified place.purpose stage.result).expand dialect sign =
        assign stage.result sign after ∧
      Accepts dialect stop (after ++ place.pending) [last] := by
    cases place with
    | statement =>
        exact ⟨_, expand_classified_statement among _, accepts_token isLast .done⟩
    | loopHead => exact ⟨_, expand_classified_forUpdate among _, accepts_token isLast .done⟩
  constructor
  · intro assignable
    rw [assign_of_isAssignable assignable, if_pos isSign] at judges
    exact works.accepts_iff.mpr (accepts_announce_then (.consume judges finishes))
  · intro readOnly
    obtain ⟨error, rejects, code⟩ : ∃ error, assign stage.result sign after = .reject error ∧
        error.code = .invalidTarget := by
      cases result : stage.result with
      | undetermined | reference =>
          rw [result] at readOnly
          cases readOnly
      | type | referenceUnassignable => exact ⟨_, rfl, rfl⟩
    rw [rejects] at judges
    refine ⟨_, works.fails ⟨_, _, _, _, .single (.announce rfl), judges, rfl⟩, ?_⟩
    rw [SyntaxError.code_before]
    exact code

/-- What a sign in front is accepted with is a reference. -/
theorem reference_of_takes {place : UpdatePlace} (stops : stop.kind = .eot)
    (legal : ∀ token ∈ r ++ [last], token.Legal dialect) (isSign : sign.kind = .incDec)
    (takes : place.Takes dialect stop (sign :: (r ++ [last]))) :
    Derives dialect (phrase .reference) r [] := by
  have accepts := (place.works_sign isSign).accepts_iff.mp takes
  obtain ⟨vs, reference, ws, closing, isOver⟩ := meansAll_of_accepts stops legal accepts
  obtain rfl : ws = [] := isOver
  have takesOne : ∃ token, vs = [token] := by
    have closing : Derives dialect (tok place.closing) vs [] := closing
    obtain ⟨token, -, same⟩ := closing.reads
    exact ⟨token, same⟩
  obtain ⟨token, rfl⟩ := takesOne
  have reference : Derives dialect (phrase .reference) (r ++ [last]) [token] := reference
  -- one token is left, so it is the last
  obtain ⟨front, split⟩ := reference.suffix
  obtain ⟨rfl, -⟩ := List.append_inj' split rfl
  obtain ⟨word, whole, derives⟩ := Ebnf.Derives.cut reference (List.nil_append [token]).symm
  obtain ⟨rfl, -⟩ := List.append_inj' (split.trans whole) rfl
  exact derives

/-- A reference is taken behind the sign. -/
theorem takes_behind_sign (place : UpdatePlace) (stops : stop.kind = .eot)
    (isSign : sign.kind = .incDec) (isLast : last.kind = place.closing)
    (reference : Derives dialect (phrase .reference) r []) :
    place.Takes dialect stop (sign :: (r ++ [last])) := by
  obtain ⟨stage, row, noType⟩ := rowed_of_derives reference
  exact (row.behind_sign place stops isSign isLast).1 noType

/-- What can be assigned to is taken in front of it. -/
theorem takes_before_sign (place : UpdatePlace) (stops : stop.kind = .eot)
    (isSign : sign.kind = .incDec) (isLast : last.kind = place.closing)
    (target : Derives dialect (phrase .target) r []) :
    place.Takes dialect stop (r ++ [sign, last]) := by
  obtain ⟨stage, row, assignable⟩ := rowed_of_derives target
  exact (row.before_sign place stops isSign isLast).1 assignable

/-- A call in front of it is an error. -/
theorem lacksTarget_of_call (place : UpdatePlace) (stops : stop.kind = .eot)
    (isSign : sign.kind = .incDec) (isLast : last.kind = place.closing)
    (call : Derives dialect (phrase .call) r []) :
    place.LacksTarget dialect stop (r ++ [sign, last]) := by
  obtain ⟨stage, row, isCall⟩ := rowed_of_derives call
  refine (row.before_sign place stops isSign isLast).2 ?_
  rw [isCall]
  rfl

/-- A type is an error on both sides of it. -/
theorem lacksTarget_of_type (place : UpdatePlace) (stops : stop.kind = .eot)
    (isSign : sign.kind = .incDec) (isLast : last.kind = place.closing)
    (declared : Derives dialect (phrase .declared) r [])
    (refused : ¬ place.Takes dialect stop (sign :: (r ++ [last]))) :
    place.LacksTarget dialect stop (sign :: (r ++ [last])) ∧
      place.LacksTarget dialect stop (r ++ [sign, last]) := by
  obtain ⟨stage, row, -⟩ := rowed_of_derives declared
  -- anything but a type would have been taken
  have isType : stage.result = .type :=
    Decidable.byContradiction fun noType =>
      refused ((row.behind_sign place stops isSign isLast).1 noType)
  refine ⟨(row.behind_sign place stops isSign isLast).2 isType,
    (row.before_sign place stops isSign isLast).2 ?_⟩
  rw [isType]
  rfl

end Forms

/-- **What the two forms of an update take.** In front of its target the sign takes references, and
behind it only what can be assigned to: both forms take the targets, and the form in front takes
calls besides, which the other one refuses. No form takes a type. This holds of a statement and of
the last clause in the head of a loop alike. -/
theorem update_forms (dialect : Dialect) (place : UpdatePlace) (stop sign last : Token)
    (r : List Token) (stops : stop.kind = .eot) (isSign : sign.kind = .incDec)
    (isLast : last.kind = place.closing) (legal : ∀ token ∈ r ++ [last], token.Legal dialect) :
    (place.Takes dialect stop (sign :: (r ++ [last])) ↔
        Derives dialect (phrase .reference) r []) ∧
      (place.Takes dialect stop (sign :: (r ++ [last])) ∧
          place.Takes dialect stop (r ++ [sign, last]) ↔
        Derives dialect (phrase .target) r []) ∧
      (place.Takes dialect stop (sign :: (r ++ [last])) ∧
          ¬ place.Takes dialect stop (r ++ [sign, last]) ↔
        Derives dialect (phrase .call) r []) ∧
      (Derives dialect (phrase .call) r [] →
        place.Refuses dialect stop (r ++ [sign, last]) "E1004") ∧
      (Derives dialect (phrase .declared) r [] → ¬ Derives dialect (phrase .reference) r [] →
        place.Refuses dialect stop (sign :: (r ++ [last])) "E1004" ∧
          place.Refuses dialect stop (r ++ [sign, last]) "E1004") := by
  have front : place.Takes dialect stop (sign :: (r ++ [last])) ↔
      Derives dialect (phrase .reference) r [] :=
    ⟨reference_of_takes stops legal isSign, takes_behind_sign place stops isSign isLast⟩
  -- A reference is a target or a call, and only a target may stand before the sign.
  have split (reference : Derives dialect (phrase .reference) r []) :
      Derives dialect (phrase .target) r [] ∨ Derives dialect (phrase .call) r [] := by
    rcases reference.rule.reads with target | call | never
    · exact .inl (.of_reads target)
    · exact .inr (.of_reads call)
    · exact never.elim
  refine ⟨front, ⟨?_, fun target => ?_⟩, ⟨?_, fun call => ?_⟩, fun call => ?_,
    fun declared noReference => ?_⟩
  · rintro ⟨before, behind⟩
    rcases split (front.mp before) with target | call
    · exact target
    · exact absurd behind (lacksTarget_of_call place stops isSign isLast call).not_takes
  · exact ⟨front.mpr (reference_of_target target),
      takes_before_sign place stops isSign isLast target⟩
  · rintro ⟨before, behind⟩
    rcases split (front.mp before) with target | call
    · exact absurd (takes_before_sign place stops isSign isLast target) behind
    · exact call
  · exact ⟨front.mpr (reference_of_call call),
      (lacksTarget_of_call place stops isSign isLast call).not_takes⟩
  · exact (lacksTarget_of_call place stops isSign isLast call).refuses
  · obtain ⟨before, behind⟩ := lacksTarget_of_type place stops isSign isLast declared
      fun takes => noReference (front.mp takes)
    exact ⟨before.refuses, behind.refuses⟩

/-- `++f();` is taken as a statement, and `f()++;` is not. -/
theorem update_forms_call :
    UpdatePlace.statement.Takes .mini ⟨.eot, "", ⟨1, 7⟩⟩
        [⟨.incDec, "++", ⟨1, 1⟩⟩, ⟨.ident, "f", ⟨1, 3⟩⟩, ⟨.lParen, "(", ⟨1, 4⟩⟩,
          ⟨.rParen, ")", ⟨1, 5⟩⟩, ⟨.semicolon, ";", ⟨1, 6⟩⟩] ∧
      UpdatePlace.statement.Refuses .mini ⟨.eot, "", ⟨1, 7⟩⟩
        [⟨.ident, "f", ⟨1, 3⟩⟩, ⟨.lParen, "(", ⟨1, 4⟩⟩, ⟨.rParen, ")", ⟨1, 5⟩⟩,
          ⟨.incDec, "++", ⟨1, 1⟩⟩, ⟨.semicolon, ";", ⟨1, 6⟩⟩] "E1004" := by
  have call : Derives .mini (phrase .call)
      [⟨.ident, "f", ⟨1, 3⟩⟩, ⟨.lParen, "(", ⟨1, 4⟩⟩, ⟨.rParen, ")", ⟨1, 5⟩⟩] [] := by
    have named : Derives .mini name [⟨.ident, "f", ⟨1, 3⟩⟩, ⟨.lParen, "(", ⟨1, 4⟩⟩,
        ⟨.rParen, ")", ⟨1, 5⟩⟩] [⟨.lParen, "(", ⟨1, 4⟩⟩, ⟨.rParen, ")", ⟨1, 5⟩⟩] :=
      .sequence (.terminal (by simp [Sign.Admits])) (.sequence .stop .empty)
    have called : Derives .mini (phrase .arguments)
        [⟨.lParen, "(", ⟨1, 4⟩⟩, ⟨.rParen, ")", ⟨1, 5⟩⟩] [] :=
      .nonterminal (.sequence (.terminal rfl)
        (.sequence (.other .empty) (.sequence (.terminal rfl) .empty)))
    exact .nonterminal (.sequence named (.sequence called .empty))
  obtain ⟨-, -, differ, refuses, -⟩ := update_forms .mini .statement ⟨.eot, "", ⟨1, 7⟩⟩
    ⟨.incDec, "++", ⟨1, 1⟩⟩ ⟨.semicolon, ";", ⟨1, 6⟩⟩
    [⟨.ident, "f", ⟨1, 3⟩⟩, ⟨.lParen, "(", ⟨1, 4⟩⟩, ⟨.rParen, ")", ⟨1, 5⟩⟩] rfl rfl rfl
    (by simp [Token.Legal, TokenKind.isExtendedOnly])
  exact ⟨(differ.mpr call).1, refuses call⟩

end MiniJ
