import MiniJ.Proofs.Recognition.Reaching

/-!
# Work in front of pending symbols

A step of work looks at the first symbol of an agenda and at the token in front, at nothing else. So
work on symbols is the same in front of any pending ones (`Works.frame`), and work on an agenda is
work on its front until nothing of it is left (`Works.split`). What stands behind the token at which
work ends does not matter (`Works.exchange`). Work goes one way only (`Works.comparable`).

That symbols are worked off up to given tokens is acceptance of the agenda that goes on to ask for
those tokens (`works_exactly_iff`), which is how statements about one construct are carried over to
acceptance and back.
-/

set_option autoImplicit false

namespace MiniJ

section Framing

variable {dialect : Dialect} {stop : Token} {front middle pending : List Symbol}
  {ts us : List Token} {here there other : List Symbol × List Token}

theorem WorkStep.frame (step : WorkStep dialect stop here there) (pending : List Symbol) :
    WorkStep dialect stop (here.1 ++ pending, here.2) (there.1 ++ pending, there.2) := by
  cases step with
  | replace expands =>
      rw [List.append_assoc]
      exact .replace expands
  | consume expands =>
      rw [List.append_assoc]
      exact .consume expands
  | announce expands => exact .announce expands

/-- Pending symbols stay. -/
theorem Works.frame (works : Works dialect stop (front, ts) (middle, us)) (pending : List Symbol) :
    Works dialect stop (front ++ pending, ts) (middle ++ pending, us) := by
  let framed (state : List Symbol × List Token) : List Symbol × List Token :=
    (state.1 ++ pending, state.2)
  have steps (here there : List Symbol × List Token) (step : WorkStep dialect stop here there) :
      WorkStep dialect stop (framed here) (framed there) := step.frame pending
  exact Relation.ReflTransGen.lift framed steps _ _ works

/-- A step in front of pending symbols is a step of what is in front of them. -/
theorem WorkStep.unframe {symbol : Symbol}
    (step : WorkStep dialect stop (symbol :: front ++ pending, ts) there) :
    ∃ left, there.1 = left ++ pending ∧
      WorkStep dialect stop (symbol :: front, ts) (left, there.2) := by
  cases step with
  | replace expands => exact ⟨_, (List.append_assoc _ _ _).symm, .replace expands⟩
  | consume expands => exact ⟨_, (List.append_assoc _ _ _).symm, .consume expands⟩
  | announce expands => exact ⟨_, rfl, .announce expands⟩

/-- **Work on an agenda is work on its front**, and on the pending symbols when nothing of the front
is left. -/
theorem Works.split (works : Works dialect stop (front ++ pending, ts) there) :
    (∃ left, there.1 = left ++ pending ∧ Works dialect stop (front, ts) (left, there.2)) ∨
      ∃ us, Works dialect stop (front, ts) ([], us) ∧ Works dialect stop (pending, us) there := by
  induction works with
  | refl => exact .inl ⟨front, rfl, .refl⟩
  | @tail between there _ step ih =>
      obtain ⟨agenda, tokens⟩ := between
      rcases ih with ⟨left, rfl, works⟩ | ⟨us, works, behind⟩
      · cases left with
        | nil => exact .inr ⟨tokens, works, .single step⟩
        | cons symbol left =>
            obtain ⟨next, same, inner⟩ := step.unframe
            exact .inl ⟨next, same, works.tail inner⟩
      · exact .inr ⟨us, works, behind.tail step⟩

/-- Work that leaves nothing leaves nothing of the front first. -/
theorem Works.split_nil (works : Works dialect stop (front ++ pending, ts) ([], us)) :
    ∃ vs, Works dialect stop (front, ts) ([], vs) ∧ Works dialect stop (pending, vs) ([], us) := by
  rcases works.split with ⟨left, isOver, inner⟩ | through
  · obtain ⟨rfl, rfl⟩ := List.nil_eq_append_iff.mp isOver
    exact ⟨us, inner, .refl⟩
  · exact through

/-! ## One way -/

theorem workStep_rightUnique : Relator.RightUnique (WorkStep dialect stop) := by
  intro here one other first second
  cases first with
  | replace expands =>
      cases second with
      | replace same =>
          cases expands.symm.trans same
          rfl
      | consume other => cases expands.symm.trans other
      | announce other => cases expands.symm.trans other
  | consume expands =>
      cases second with
      | replace other => cases expands.symm.trans other
      | consume same =>
          cases expands.symm.trans same
          rfl
      | announce other => cases expands.symm.trans other
  | announce expands =>
      cases second with
      | replace other => cases expands.symm.trans other
      | consume other => cases expands.symm.trans other
      | announce _ => rfl

/-- Of two states that work comes to, one comes behind the other. -/
theorem Works.comparable (first : Works dialect stop here there)
    (second : Works dialect stop here other) :
    Works dialect stop there other ∨ Works dialect stop other there :=
  Relation.ReflTransGen.total_of_right_unique workStep_rightUnique first second

/-- Nothing comes behind an empty agenda. -/
theorem Works.eq_of_nil (works : Works dialect stop ([], ts) there) : there = ([], ts) := by
  cases Relation.ReflTransGen.cases_head works with
  | inl same => exact same.symm
  | inr more =>
      obtain ⟨_, step, -⟩ := more
      cases step

/-! ## The first step

What becomes of the first symbol decides how work goes on from a state, unless it does not leave the
state. -/

section First

variable {symbol : Symbol} {symbols : List Symbol} {found : SyntaxError}

theorem Works.of_replace (works : Works dialect stop (symbol :: pending, ts) there)
    (leaves : there ≠ (symbol :: pending, ts))
    (expands : symbol.expand dialect (frontOf stop ts) = .replace symbols) :
    Works dialect stop (symbols ++ pending, ts) there := by
  rcases Relation.ReflTransGen.cases_head works with same | ⟨next, step, further⟩
  · exact absurd same.symm leaves
  · obtain rfl := workStep_rightUnique step (.replace expands)
    exact further

theorem Works.of_consume (works : Works dialect stop (symbol :: pending, ts) there)
    (leaves : there ≠ (symbol :: pending, ts))
    (expands : symbol.expand dialect (frontOf stop ts) = .consume symbols) :
    ∃ current rest, ts = current :: rest ∧ Works dialect stop (symbols ++ pending, rest) there := by
  rcases Relation.ReflTransGen.cases_head works with same | ⟨next, step, further⟩
  · exact absurd same.symm leaves
  · cases step with
    | @consume _ _ _ current rest takes =>
        cases expands.symm.trans takes
        exact ⟨current, rest, rfl, further⟩
    | replace other => cases expands.symm.trans other
    | announce other => cases expands.symm.trans other

/-- An error is not left. -/
theorem Works.eq_of_reject (works : Works dialect stop (symbol :: pending, ts) there)
    (rejects : symbol.expand dialect (frontOf stop ts) = .reject found) :
    there = (symbol :: pending, ts) := by
  rcases Relation.ReflTransGen.cases_head works with same | ⟨next, step, -⟩
  · exact same.symm
  · cases step with
    | replace expands | announce expands => cases rejects.symm.trans expands
    | consume expands => cases rejects.symm.trans expands

/-- A terminal is worked off with one token. -/
theorem Works.of_token {kind : TokenKind}
    (works : Works dialect stop ([.token kind], ts) ([], us)) :
    ∃ token, token.kind = kind ∧ ts = token :: us := by
  by_cases here : (frontOf stop ts).kind ∈ [kind]
  · have expands : (Symbol.token kind).expand dialect (frontOf stop ts) = .consume [] := by
      rw [Symbol.expand, if_pos here]
    obtain ⟨token, rest, rfl, further⟩ := works.of_consume nofun expands
    cases Works.eq_of_nil further
    exact ⟨token, List.mem_singleton.mp here, rfl⟩
  · have rejects : (Symbol.token kind).expand dialect (frontOf stop ts) =
        .reject (.expectedKinds [kind] (frontOf stop ts)) := by
      rw [Symbol.expand, if_neg here]
    cases works.eq_of_reject rejects

end First

/-! ## The tokens behind -/

theorem WorkStep.suffix (step : WorkStep dialect stop here there) : there.2 <:+ here.2 := by
  cases step with
  | replace | announce => exact List.suffix_refl _
  | consume => exact List.suffix_cons _ _

/-- Work leaves the end of the tokens. -/
theorem Works.suffix (works : Works dialect stop here there) : there.2 <:+ here.2 := by
  induction works with
  | refl => exact List.suffix_refl _
  | tail _ step ih => exact step.suffix.trans ih

/-- **What stands behind the token at which work ends does not matter.** The induction is on the
work, whose tokens always end in that token and those behind it. -/
theorem Works.exchange {last : Token} {behind : List Token}
    (works : Works dialect stop (front, ts ++ last :: behind) (middle, us ++ last :: behind))
    (instead : List Token) :
    Works dialect stop (front, ts ++ last :: instead) (middle, us ++ last :: instead) := by
  generalize entered : (front, ts ++ last :: behind) = here at works
  induction works using Relation.ReflTransGen.head_induction_on generalizing front ts with
  | refl =>
      rw [Prod.mk.injEq, List.append_left_inj] at entered
      obtain ⟨rfl, rfl⟩ := entered
      exact .refl
  | @head here next step rest ih =>
      subst entered
      obtain ⟨agenda, tokens⟩ := next
      -- all that is left behind the step still ends in the token and those behind it
      obtain ⟨taken, same⟩ := Works.suffix rest
      rw [← List.append_assoc] at same
      obtain rfl : taken ++ us ++ last :: behind = tokens := same
      refine .head ?_ (ih rfl)
      have front (vs : List Token) (behind : List Token) :
          frontOf stop (vs ++ last :: behind) = frontOf last vs := by
        cases vs <;> rfl
      generalize entered : ts ++ last :: behind = before at step
      cases step with
      | replace expands =>
          rw [List.append_left_inj] at entered
          rw [front, ← front (taken ++ us) instead] at expands
          subst entered
          exact .replace expands
      | @consume symbol symbols pending current tokens expands =>
          rw [← List.cons_append, List.append_left_inj] at entered
          subst entered
          exact .consume expands
      | announce expands =>
          rw [List.append_left_inj] at entered
          rw [front, ← front (taken ++ us) instead] at expands
          subst entered
          exact .announce expands

/-- **Symbols are worked off up to given tokens** exactly when the agenda that goes on to ask for
those tokens is accepted. -/
theorem works_exactly_iff {behind : List Token} :
    Works dialect stop (front, ts ++ behind) ([], behind) ↔
      Accepts dialect stop (front ++ agendaOf behind) (ts ++ behind) := by
  constructor
  · intro works
    exact (works.frame (agendaOf behind)).accepts_iff.mpr (accepts_agendaOf behind)
  · intro accepts
    have exactly := accepts.works_off []
    rwa [List.append_nil] at exactly

end Framing

end MiniJ
