import MiniJ.Proofs.Recognition.Framing

/-!
# A type-or-reference is read alike everywhere

A type-or-reference is read as an operand, as the beginning of a statement or for an update, and the
symbols that read it remember for what. Until it is classified that makes no difference: in front of
a token a reading becomes another reading, behind symbols that do not depend on the purpose either,
or it ends with the same error (`Reading.becomes`). So what is read for one purpose is read for all
of them (`Works.through_reference`). That tokens are classified as something, up to what is behind
them, is therefore a relation without a purpose (`Classifies`), and it is a function
(`Classifies.unique`).
-/

set_option autoImplicit false

namespace MiniJ

open Grammar

/-- How far the reading of a type-or-reference has come. -/
inductive Reading where
  /-- Nothing was read. -/
  | start
  /-- A suffix may come. -/
  | suffixes (soFar : Classification) (last : LastPart)
  /-- An opening bracket was read. -/
  | insideBrackets (soFar : Classification)
  /-- It is known what it is. -/
  | classified (result : Classification)

namespace Reading

/-- The symbol that goes on with a reading. -/
def symbol (purpose : Purpose) : Reading → Symbol
  | start => .reference purpose
  | suffixes soFar last => .suffixes purpose soFar last
  | insideBrackets soFar => .insideBrackets purpose soFar
  | classified result => .classified purpose result

end Reading

/-- The symbol with which began what a symbol goes on with, if it remembers something of it. -/
def Symbol.origin? : Symbol → Option Symbol
  | reference purpose | suffixes purpose _ _ | insideBrackets purpose _ | classified purpose _ =>
    some (.reference purpose)
  | memberName true | memberEnd true _ _ => some (.memberName true)
  | _ => none

/-! ## One step of a reading -/

/-- What a reading becomes in front of a token, whatever it is for. -/
inductive Reading.Becomes (dialect : Dialect) (current : Token) (reading : Reading) : Prop
  /-- Symbols that remember nothing are worked off, and then another reading goes on. -/
  | replace (inner : List Symbol) (next : Reading) :
      (∀ symbol ∈ inner, symbol.origin? = none) →
      (∀ purpose, (reading.symbol purpose).expand dialect current =
        .replace (inner ++ [next.symbol purpose])) → Becomes dialect current reading
  /-- The same behind the token. -/
  | consume (inner : List Symbol) (next : Reading) :
      (∀ symbol ∈ inner, symbol.origin? = none) →
      (∀ purpose, (reading.symbol purpose).expand dialect current =
        .consume (inner ++ [next.symbol purpose])) → Becomes dialect current reading
  /-- The token is an error at itself. -/
  | reject (error : SyntaxError) :
      error.position = current.position →
      (∀ purpose, (reading.symbol purpose).expand dialect current = .reject error) →
      Becomes dialect current reading

namespace Reading

variable {dialect : Dialect} {current : Token} {soFar result : Classification} {last : LastPart}

/-- The end of a reading. -/
theorem becomes_classified {reading : Reading}
    (expands : ∀ purpose, (reading.symbol purpose).expand dialect current =
      .replace (classify purpose result)) : reading.Becomes dialect current :=
  .replace [.announce (.typeOrReference result)] (.classified result)
    (by simp [Symbol.origin?]) expands

theorem start_becomes (dialect : Dialect) (current : Token) : start.Becomes dialect current := by
  have named (here : current.kind ∈ [.ident, .keyword .this_]) : start.Becomes dialect current := by
    refine .consume [] (suffixes .undetermined .base) (by simp) fun purpose => ?_
    simp only [List.mem_cons, List.not_mem_nil, or_false] at here
    rcases here with here | here <;>
      simp [symbol, Symbol.expand, expandReference, here]
  cases here : current.kind with
  | ident => exact named (by simp [here])
  | primitive name =>
      by_cases truth : (dialect.isMini && decide (name = .boolean)) = true
      · refine .consume [.announce (.typeOrReference .type)] (.classified .type)
          (by simp [Symbol.origin?]) fun purpose => ?_
        simp only [symbol, Symbol.expand, expandReference, here, if_pos truth]
        rfl
      · refine .consume [.emptyBrackets, .announce (.typeOrReference .type)] (.classified .type)
          (by simp [Symbol.origin?]) fun purpose => ?_
        simp only [symbol, Symbol.expand, expandReference, here, if_neg truth]
        rfl
  | keyword word =>
      by_cases isThis : word = .this_
      · exact named (by simp [here, isThis])
      · refine .reject (.expectedKinds [.ident, .keyword .this_] current) rfl fun purpose => ?_
        cases word <;> simp_all [symbol, Symbol.expand, expandReference]
  | _ =>
      refine .reject (.expectedKinds [.ident, .keyword .this_] current) rfl fun purpose => ?_
      simp [symbol, Symbol.expand, expandReference, here]

theorem suffixes_becomes (dialect : Dialect) (current : Token) (soFar : Classification)
    (last : LastPart) : (suffixes soFar last).Becomes dialect current := by
  cases here : current.kind with
  | dot =>
      refine .consume [.token .ident] (suffixes soFar .member)
        (by simp [Symbol.origin?]) fun purpose => ?_
      simp [symbol, Symbol.expand, expandSuffixes, here]
  | lBracket =>
      refine .consume [] (insideBrackets soFar) (by simp) fun purpose => ?_
      simp [symbol, Symbol.expand, expandSuffixes, here]
  | leftChevron =>
      cases dialect with
      | mini =>
          apply becomes_classified
          intro purpose
          simp only [symbol, Symbol.expand, expandSuffixes, here]
          rfl
      | extended =>
          by_cases isReference : soFar = .reference
          · refine .reject (.located .typeArgumentsAfterReference current) rfl fun purpose => ?_
            simp [symbol, Symbol.expand, expandSuffixes, here, Dialect.isMini, isReference]
          · refine .consume [.typeArguments] (suffixes .type .typeArguments)
              (by simp [Symbol.origin?]) fun purpose => ?_
            simp [symbol, Symbol.expand, expandSuffixes, here, Dialect.isMini, isReference]
  | lParen =>
      by_cases isType : soFar = .type
      · refine .reject (.located .callAfterType current) rfl fun purpose => ?_
        simp [symbol, Symbol.expand, expandSuffixes, here, isType]
      by_cases callable : last.isCallable = true
      · cases dialect with
        | mini =>
            refine .consume [.elements .rParen, .close .arguments,
              .announce (.typeOrReference .referenceUnassignable)]
              (classified .referenceUnassignable) (by simp [Symbol.origin?]) fun purpose => ?_
            simp [symbol, Symbol.expand, expandSuffixes, here, isType, callable, Dialect.isMini,
              classify]
        | extended =>
            refine .consume [.elements .rParen, .close .arguments] (suffixes .reference .arguments)
              (by simp [Symbol.origin?]) fun purpose => ?_
            simp [symbol, Symbol.expand, expandSuffixes, here, isType, callable, Dialect.isMini]
      · refine .reject (.located .callAfterValue current) rfl fun purpose => ?_
        simp [symbol, Symbol.expand, expandSuffixes, here, isType, callable]
  | _ =>
      apply becomes_classified
      intro purpose
      simp only [symbol, Symbol.expand, expandSuffixes, here]
      rfl

theorem insideBrackets_becomes (dialect : Dialect) (current : Token) (soFar : Classification) :
    (insideBrackets soFar).Becomes dialect current := by
  by_cases closing : current.kind = .rBracket
  · by_cases isReference : soFar = .reference
    · refine .reject (.located (.bracketsAfterReference current) current) rfl fun purpose => ?_
      simp [symbol, Symbol.expand, expandInsideBrackets, closing, isReference]
    · refine .consume [.emptyBrackets, .announce (.typeOrReference .type)] (classified .type)
        (by simp [Symbol.origin?]) fun purpose => ?_
      simp [symbol, Symbol.expand, expandInsideBrackets, closing, isReference, classify]
  by_cases isType : soFar = .type
  · refine .reject (.located (.indexAfterType current) current) rfl fun purpose => ?_
    simp [symbol, Symbol.expand, expandInsideBrackets, closing, isType]
  cases dialect with
  | mini =>
      refine .replace [.expression false, .token .rBracket, .announce (.typeOrReference .reference)]
        (classified .reference) (by simp [Symbol.origin?]) fun purpose => ?_
      simp [symbol, Symbol.expand, expandInsideBrackets, closing, isType, Dialect.isMini, classify]
  | extended =>
      refine .replace [.expression false, .token .rBracket] (suffixes .reference .index)
        (by simp [Symbol.origin?]) fun purpose => ?_
      simp [symbol, Symbol.expand, expandInsideBrackets, closing, isType, Dialect.isMini]

/-- **Until it is classified, a reading does not depend on what it is for.** -/
theorem becomes (dialect : Dialect) (current : Token) {reading : Reading}
    (goesOn : ∀ result, reading ≠ .classified result) : reading.Becomes dialect current := by
  cases reading with
  | start => exact start_becomes dialect current
  | suffixes soFar last => exact suffixes_becomes dialect current soFar last
  | insideBrackets soFar => exact insideBrackets_becomes dialect current soFar
  | classified result => exact absurd rfl (goesOn result)

end Reading

/-! ## Whole readings -/

/-- That the type-or-reference in front is read as something, up to the tokens behind it, whatever
it is read for. -/
def Classifies (dialect : Dialect) (stop : Token) (ts : List Token) (result : Classification)
    (us : List Token) : Prop :=
  ∀ purpose, Works dialect stop ([.reference purpose], ts) ([.classified purpose result], us)

section Work

variable {dialect : Dialect} {stop : Token} {purpose : Purpose} {ts us vs : List Token}
  {there : List Symbol × List Token}

/-- One step of a reading is the same for every other purpose. -/
theorem WorkStep.of_reading {reading : Reading} (goesOn : ∀ result, reading ≠ .classified result)
    (step : WorkStep dialect stop ([reading.symbol purpose], ts) there) :
    ∃ (inner : List Symbol) (next : Reading), there.1 = inner ++ [next.symbol purpose] ∧
      ∀ other, WorkStep dialect stop ([reading.symbol other], ts)
        (inner ++ [next.symbol other], there.2) := by
  -- What a reading becomes is the same for every purpose; the other kinds of step contradict it.
  have becomes := Reading.becomes dialect (frontOf stop ts) goesOn
  cases step with
  | @replace _ symbols _ _ expands =>
      cases becomes with
      | replace inner next _ same =>
          obtain rfl : inner ++ [next.symbol purpose] = symbols :=
            Expansion.replace.inj ((same purpose).symm.trans expands)
          refine ⟨inner, next, List.append_nil _, fun other => ?_⟩
          have step : WorkStep dialect stop ([reading.symbol other], ts)
              ((inner ++ [next.symbol other]) ++ [], ts) := .replace (same other)
          rwa [List.append_nil] at step
      | consume _ _ _ same => cases (same purpose).symm.trans expands
      | reject _ _ same => cases (same purpose).symm.trans expands
  | @consume _ symbols _ current tokens expands =>
      cases becomes with
      | replace _ _ _ same => cases (same purpose).symm.trans expands
      | consume inner next _ same =>
          obtain rfl : inner ++ [next.symbol purpose] = symbols :=
            Expansion.consume.inj ((same purpose).symm.trans expands)
          refine ⟨inner, next, List.append_nil _, fun other => ?_⟩
          have step : WorkStep dialect stop ([reading.symbol other], current :: tokens)
              ((inner ++ [next.symbol other]) ++ [], tokens) := .consume (same other)
          rwa [List.append_nil] at step
      | reject _ _ same => cases (same purpose).symm.trans expands
  | announce expands =>
      cases becomes with
      | replace _ _ _ same => cases (same purpose).symm.trans expands
      | consume _ _ _ same => cases (same purpose).symm.trans expands
      | reject _ _ same => cases (same purpose).symm.trans expands

/-- **What is read for one purpose is read for all of them.** Work on a type-or-reference has not
come to its classification yet, and then it would have come as far for every other purpose, or the
type-or-reference is classified and the work goes on from there. -/
theorem Works.through_reference (works : Works dialect stop ([.reference purpose], ts) there) :
    (∃ (inner : List Symbol) (reading : Reading), there.1 = inner ++ [reading.symbol purpose] ∧
        ∀ other, Works dialect stop ([.reference other], ts)
          (inner ++ [reading.symbol other], there.2)) ∨
      ∃ result us, Classifies dialect stop ts result us ∧
        Works dialect stop ([.classified purpose result], us) there := by
  induction works with
  | refl => exact .inl ⟨[], .start, rfl, fun _ => .refl⟩
  | @tail between there _ step ih =>
      obtain ⟨agenda, us⟩ := between
      rcases ih with ⟨inner, reading, rfl, works⟩ | ⟨result, vs, classifies, further⟩
      · cases inner with
        | nil =>
            by_cases isOver : ∃ result, reading = .classified result
            · obtain ⟨result, rfl⟩ := isOver
              exact .inr ⟨result, us, works, .single step⟩
            · rw [not_exists] at isOver
              obtain ⟨inner, next, same, steps⟩ := WorkStep.of_reading isOver step
              exact .inl ⟨inner, next, same, fun other => (works other).tail (steps other)⟩
        | cons symbol inner =>
            -- the step is one of what stands in front of the reading
            obtain ⟨left, same, own⟩ := step.unframe
            exact .inl ⟨left, reading, same, fun other => (works other).tail (own.frame _)⟩
      · exact .inr ⟨result, vs, classifies, further.tail step⟩

/-- A type-or-reference has at least one token. -/
theorem Classifies.length_lt {result : Classification}
    (classifies : Classifies dialect stop ts result us) : us.length < ts.length := by
  cases Relation.ReflTransGen.cases_head (classifies (.update stop)) with
  | inl same => cases same
  | inr more =>
      obtain ⟨there, step, further⟩ := more
      cases step with
      | consume => exact Nat.lt_succ_of_le (Works.suffix further).length_le
      | replace expands =>
          simp only [Symbol.expand, expandReference] at expands
          repeat' split at expands
          all_goals cases expands
      | announce expands =>
          simp only [Symbol.expand, expandReference] at expands
          repeat' split at expands
          all_goals cases expands

/-- A symbol that only judges what was read consumes no token and leaves nothing. -/
theorem Works.of_judged {symbol : Symbol} {error : SyntaxError} {result : Classification}
    (judges : ∀ current, symbol.expand dialect current =
      if result = .type then .reject error else .replace [])
    (works : Works dialect stop ([symbol], us) there) :
    there = ([symbol], us) ∨ there = ([], us) := by
  cases Relation.ReflTransGen.cases_head works with
  | inl same => exact .inl same.symm
  | inr more =>
      obtain ⟨next, step, further⟩ := more
      right
      have isOver : next = ([], us) := by
        cases step with
        | replace expands =>
            rw [judges] at expands
            split at expands
            · cases expands
            · cases expands
              rfl
        | consume expands =>
            rw [judges] at expands
            split at expands <;> cases expands
        | announce => rfl
      subst isOver
      exact Works.eq_of_nil further

/-- **What is read is determined**, and so is where it ends. -/
theorem Classifies.unique {result other : Classification}
    (one : Classifies dialect stop ts result us) (another : Classifies dialect stop ts other vs) :
    result = other ∧ us = vs := by
  have same {one two : Classification} {us vs : List Token}
      (works : Works dialect stop ([.classified (.update stop) one], us)
        ([.classified (.update stop) two], vs)) : one = two ∧ us = vs := by
    have judges (current : Token) :
        (Symbol.classified (.update stop) one).expand dialect current =
          if one = .type then .reject (.located (.updateOfType stop) stop) else .replace [] := rfl
    rcases works.of_judged judges with same | isOver
    · cases same
      exact ⟨rfl, rfl⟩
    · cases isOver
  rcases (one (.update stop)).comparable (another (.update stop)) with onward | back
  · exact same onward
  · obtain ⟨rfl, rfl⟩ := same back
    exact ⟨rfl, rfl⟩

end Work

end MiniJ
