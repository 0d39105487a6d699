import Mathlib.Logic.Relation
import MiniJ.Proofs.Recognition.Layout

/-!
# Parts of a recognition

`Accepts` speaks of work on an agenda to its end. A statement about one construct needs less: that
the symbols of the construct are worked off, whatever is pending behind them. `Works` says to which
agenda, in front of which tokens, work comes. A step looks at the first symbol only, so the pending
symbols may be exchanged, and what is accepted in front of some of them is worked off in front of
all (`Accepts.works`). Acceptance of a phrase is stated for every agenda that is accepted behind it;
with the agenda that asks for the very tokens that are left, it tells where work on the phrase ends
(`works_behind`).

A recognizer in front of the same tokens does the same work (`Works.reaches`), and so does a run in
front of them (`Works.runOn`).
-/

set_option autoImplicit false

namespace MiniJ

/-- One step of work on an agenda in front of tokens. -/
inductive WorkStep (dialect : Dialect) (stop : Token) :
    List Symbol × List Token → List Symbol × List Token → Prop
  | replace {symbol : Symbol} {symbols pending : List Symbol} {tokens : List Token} :
      symbol.expand dialect (frontOf stop tokens) = .replace symbols →
      WorkStep dialect stop (symbol :: pending, tokens) (symbols ++ pending, tokens)
  | consume {symbol : Symbol} {symbols pending : List Symbol} {current : Token}
      {tokens : List Token} :
      symbol.expand dialect current = .consume symbols →
      WorkStep dialect stop (symbol :: pending, current :: tokens) (symbols ++ pending, tokens)
  | announce {symbol : Symbol} {event : Event} {pending : List Symbol} {tokens : List Token} :
      symbol.expand dialect (frontOf stop tokens) = .announce event →
      WorkStep dialect stop (symbol :: pending, tokens) (pending, tokens)

/-- Some steps of work. -/
abbrev Works (dialect : Dialect) (stop : Token) :
    List Symbol × List Token → List Symbol × List Token → Prop :=
  Relation.ReflTransGen (WorkStep dialect stop)

section Work

variable {dialect : Dialect} {stop : Token} {front pending : List Symbol} {ts behind : List Token}
  {here there : List Symbol × List Token}

/-- Work changes nothing about what is accepted. -/
theorem Works.accepts_iff (works : Works dialect stop here there) :
    Accepts dialect stop here.1 here.2 ↔ Accepts dialect stop there.1 there.2 := by
  induction works with
  | refl => exact Iff.rfl
  | tail _ step ih =>
      rw [ih]
      cases step with
      | replace expands => exact accepts_replace expands
      | consume expands => exact accepts_consume expands
      | announce expands => exact accepts_announce expands

/-- **What is accepted in front of pending symbols is worked off in front of any.** The induction is
on acceptance; it ends where the first of the pending symbols is on top. -/
theorem Accepts.works {agenda : List Symbol} (accepts : Accepts dialect stop agenda ts)
    (split : agenda = front ++ pending) :
    ∃ us, us <:+ ts ∧ Accepts dialect stop pending us ∧
      ∀ other, Works dialect stop (front ++ other, ts) (other, us) := by
  induction accepts generalizing front with
  | done =>
      obtain ⟨rfl, rfl⟩ := List.nil_eq_append_iff.mp split
      exact ⟨[], List.suffix_refl _, .done, fun _ => .refl⟩
  | @replace symbol symbols rest tokens expands accepts ih =>
      -- either the symbol on top is already pending, or it is one of those in front
      rcases List.cons_eq_append_iff.mp split with ⟨rfl, rfl⟩ | ⟨middle, rfl, rfl⟩
      · exact ⟨tokens, List.suffix_refl _, .replace expands accepts, fun _ => .refl⟩
      · obtain ⟨us, left, asked, works⟩ := ih (List.append_assoc symbols middle pending).symm
        refine ⟨us, left, asked, ?_⟩
        intro other
        have inside := works other
        rw [List.append_assoc] at inside
        exact .head (.replace expands) inside
  | @consume symbol symbols rest current tokens expands accepts ih =>
      rcases List.cons_eq_append_iff.mp split with ⟨rfl, rfl⟩ | ⟨middle, rfl, rfl⟩
      · exact ⟨_, List.suffix_refl _, .consume expands accepts, fun _ => .refl⟩
      · obtain ⟨us, left, asked, works⟩ := ih (List.append_assoc symbols middle pending).symm
        refine ⟨us, left.trans (List.suffix_cons _ _), asked, ?_⟩
        intro other
        have inside := works other
        rw [List.append_assoc] at inside
        exact .head (.consume expands) inside
  | @announce symbol event rest tokens expands accepts ih =>
      rcases List.cons_eq_append_iff.mp split with ⟨rfl, rfl⟩ | ⟨middle, rfl, rfl⟩
      · exact ⟨tokens, List.suffix_refl _, .announce expands accepts, fun _ => .refl⟩
      · obtain ⟨us, left, asked, works⟩ := ih rfl
        exact ⟨us, left, asked, fun other => .head (.announce expands) (works other)⟩

/-- The agenda that asks for tokens of the kinds of given ones. -/
def agendaOf (tokens : List Token) : List Symbol :=
  tokens.map fun token => .token token.kind

theorem accepts_agendaOf (tokens : List Token) : Accepts dialect stop (agendaOf tokens) tokens := by
  induction tokens with
  | nil => exact .done
  | cons token tokens ih =>
      have expands : (Symbol.token token.kind).expand dialect token = .consume [] := by
        simp [Symbol.expand]
      exact .consume expands ih

/-- It is worked off in front of as many tokens only. -/
theorem Accepts.length_of_agendaOf {tokens : List Token}
    (accepts : Accepts dialect stop (agendaOf tokens) ts) : ts.length = tokens.length := by
  induction tokens generalizing ts with
  | nil =>
      cases accepts
      rfl
  | cons token tokens ih =>
      have only (current : Token) (expansion : Expansion)
          (expands : (Symbol.token token.kind).expand dialect current = expansion) :
          expansion = .consume [] ∨ ∃ error, expansion = .reject error := by
        rw [Symbol.expand] at expands
        split at expands
        · exact .inl expands.symm
        · exact .inr ⟨_, expands.symm⟩
      cases accepts with
      | replace expands => simpa using only _ _ expands
      | @consume _ symbols _ current ts expands rest =>
          obtain same | ⟨error, other⟩ := only _ _ expands
          · cases same
            rw [List.length_cons, List.length_cons, ih rest]
          · cases other
      | announce expands => simpa using only _ _ expands

/-- Symbols are worked off up to given tokens if the agenda that goes on to ask for those tokens is
accepted. -/
theorem Accepts.works_off
    (accepts : Accepts dialect stop (front ++ agendaOf behind) (ts ++ behind))
    (other : List Symbol) : Works dialect stop (front ++ other, ts ++ behind) (other, behind) := by
  -- an agenda that only fits the tokens behind tells where the work ended
  obtain ⟨us, left, asked, works⟩ := accepts.works rfl
  have inside := List.suffix_of_suffix_length_le left (List.suffix_append ts behind)
    (Nat.le_of_eq asked.length_of_agendaOf)
  obtain rfl : us = behind := inside.eq_of_length asked.length_of_agendaOf
  exact works other

/-- **Symbols that are accepted in front of everything that is, are worked off** up to the tokens
behind them. -/
theorem works_behind
    (accepts : ∀ rest, Accepts dialect stop rest behind →
      Accepts dialect stop (front ++ rest) (ts ++ behind)) (other : List Symbol) :
    Works dialect stop (front ++ other, ts ++ behind) (other, behind) :=
  (accepts _ (accepts_agendaOf behind)).works_off other

/-- A run does the work. -/
theorem Works.runOn (works : Works dialect stop here there) :
    ∃ steps, ∀ bound, runOn dialect stop (steps + bound) here.1 here.2 =
      runOn dialect stop bound there.1 there.2 := by
  induction works using Relation.ReflTransGen.head_induction_on with
  | refl => exact ⟨0, fun bound => by rw [Nat.zero_add]⟩
  | head step _ ih =>
      obtain ⟨steps, same⟩ := ih
      refine ⟨steps + 1, ?_⟩
      intro bound
      rw [← same bound, Nat.add_right_comm]
      cases step with
      | replace expands => simp only [MiniJ.runOn, expands]
      | consume expands => simp only [MiniJ.runOn, frontOf_cons, expands, List.tail_cons]
      | announce expands => simp only [MiniJ.runOn, expands]

/-- That work comes to an error. -/
def Fails (dialect : Dialect) (stop : Token) (here : List Symbol × List Token)
    (error : SyntaxError) : Prop :=
  ∃ symbol pending tokens found, Works dialect stop here (symbol :: pending, tokens) ∧
    symbol.expand dialect (frontOf stop tokens) = .reject found ∧ found.before pending = error

theorem Works.fails {error : SyntaxError} (works : Works dialect stop here there)
    (fails : Fails dialect stop there error) : Fails dialect stop here error := by
  obtain ⟨symbol, pending, tokens, found, further, rejects, same⟩ := fails
  exact ⟨symbol, pending, tokens, found, works.trans further, rejects, same⟩

theorem Fails.not_accepts {error : SyntaxError} (fails : Fails dialect stop here error) :
    ¬ Accepts dialect stop here.1 here.2 := by
  obtain ⟨symbol, pending, tokens, found, works, rejects, -⟩ := fails
  rw [works.accepts_iff]
  exact not_accepts_reject rejects

theorem Fails.runOn {error : SyntaxError} (fails : Fails dialect stop here error) :
    ∃ bound left, runOn dialect stop bound here.1 here.2 = (.rejected error, left) := by
  obtain ⟨symbol, pending, tokens, found, works, rejects, same⟩ := fails
  obtain ⟨steps, runs⟩ := works.runOn
  refine ⟨steps + 1, tokens, ?_⟩
  rw [runs 1]
  simp only [MiniJ.runOn, rejects, same]

/-- **A run that ends with an error is work up to the symbol that finds it.** The induction is on
the bound; the token for the end is not consumed, so each consumed token is one of those ahead. -/
theorem exists_reject_of_runOn {bound : Nat} {agenda : List Symbol} {us : List Token}
    {error : SyntaxError} (stops : stop.kind = .eot)
    (guarded : ∀ symbol ∈ agenda, symbol.isGuarded = true)
    (ends : MiniJ.runOn dialect stop bound agenda ts = (.rejected error, us)) :
    ∃ symbol pending found, Works dialect stop (agenda, ts) (symbol :: pending, us) ∧
      symbol.expand dialect (frontOf stop us) = .reject found ∧ found.before pending = error := by
  induction bound generalizing agenda ts with
  | zero => cases ends
  | succ bound ih =>
      cases agenda with
      | nil => cases ends
      | cons symbol pending =>
          have proper := symbol.expand_proper dialect (frontOf stop ts)
          have own := guarded symbol List.mem_cons_self
          have rest : ∀ other ∈ pending, other.isGuarded = true :=
            fun other member => guarded other (List.mem_cons_of_mem _ member)
          simp only [MiniJ.runOn] at ends
          cases expands : symbol.expand dialect (frontOf stop ts) with
          | replace symbols =>
              rw [expands] at proper
              simp only [expands] at ends
              obtain ⟨last, behind, found, works, rejects⟩ :=
                ih (Recognizer.guarded_append guarded (proper own)) ends
              exact ⟨last, behind, found, works.head (.replace expands), rejects⟩
          | consume symbols =>
              rw [expands] at proper
              simp only [expands] at ends
              obtain ⟨more, inner⟩ := proper own
              cases ts with
              -- A guarded symbol does not consume the end.
              | nil => exact absurd stops more
              | cons current ts =>
                  obtain ⟨last, behind, found, works, rejects⟩ :=
                    ih (Recognizer.guarded_append guarded inner) ends
                  exact ⟨last, behind, found, works.head (.consume expands), rejects⟩
          | announce event =>
              simp only [expands] at ends
              obtain ⟨last, behind, found, works, rejects⟩ := ih rest ends
              exact ⟨last, behind, found, works.head (.announce expands), rejects⟩
          | reject found =>
              simp only [expands, Prod.mk.injEq, Verdict.rejected.injEq] at ends
              obtain ⟨same, rfl⟩ := ends
              exact ⟨symbol, pending, found, .refl, expands, same⟩

end Work

/-! ## Recognizers at work -/

namespace TokenCursor

variable {cursor : TokenCursor} {current : Token} {ts : List Token}

theorem kind_last (cursor : TokenCursor) : cursor.last.kind = .eot := by
  rw [last]
  split
  · assumption
  · exact Scanner.kind_stop _

/-- The first of the tokens ahead is in view, and a step behind it the others are ahead. -/
theorem current_of_ahead (ahead : cursor.ahead = current :: ts) :
    cursor.current = current ∧ cursor.advance.ahead = ts ∧ cursor.advance.last = cursor.last := by
  by_cases isOver : cursor.current.kind = .eot
  · rw [ahead_of_end isOver] at ahead
    cases ahead
  · rw [ahead_of_more isOver, List.cons.injEq] at ahead
    exact ⟨ahead.1, ahead.2, last_advance isOver⟩

end TokenCursor

namespace Recognizer

/-- One step leads from a recognizer to another. -/
def Leads (recognizer next : Recognizer) : Prop :=
  recognizer.step = .more next

/-- A recognizer comes to another in some number of steps. -/
abbrev Reaches : Recognizer → Recognizer → Prop :=
  Relation.ReflTransGen Leads

theorem leads_rightUnique : Relator.RightUnique Leads := by
  intro recognizer one other first second
  exact Step.more.inj (first.symm.trans second)

/-- There is only one way to go: of two states on it one comes behind the other. -/
theorem Reaches.comparable {recognizer one other : Recognizer} (first : Reaches recognizer one)
    (second : Reaches recognizer other) : Reaches one other ∨ Reaches other one :=
  Relation.ReflTransGen.total_of_right_unique leads_rightUnique first second

/-- Nothing comes behind a state in which the work is done. -/
theorem Reaches.eq_of_done {recognizer next : Recognizer} {verdict : Verdict}
    {cursor : TokenCursor} (reaches : Reaches recognizer next)
    (done : recognizer.step = .done verdict cursor) : next = recognizer := by
  cases Relation.ReflTransGen.cases_head reaches with
  | inl same => exact same.symm
  | inr more =>
      obtain ⟨middle, leads, -⟩ := more
      cases done.symm.trans leads

section Steps

variable {dialect : Dialect} {symbol : Symbol} {symbols pending : List Symbol}
  {cursor : TokenCursor}

theorem leads_replace (expands : symbol.expand dialect cursor.current = .replace symbols) :
    Leads ⟨dialect, symbol :: pending, cursor⟩ ⟨dialect, symbols ++ pending, cursor⟩ := by
  simp only [Leads, step, expands]

theorem leads_consume (expands : symbol.expand dialect cursor.current = .consume symbols) :
    Leads ⟨dialect, symbol :: pending, cursor⟩
      ⟨dialect, symbols ++ pending, cursor.advance⟩ := by
  simp only [Leads, step, expands]

theorem leads_announce {event : Event}
    (expands : symbol.expand dialect cursor.current = .announce event) :
    Leads ⟨dialect, symbol :: pending, cursor⟩ ⟨dialect, pending, cursor.announce event⟩ := by
  simp only [Leads, step, expands]

theorem step_reject {error : SyntaxError}
    (expands : symbol.expand dialect cursor.current = .reject error) :
    step ⟨dialect, symbol :: pending, cursor⟩ =
      .done (.rejected (error.before pending)) cursor := by
  simp only [step, expands]

end Steps

end Recognizer

open Recognizer

/-- **A recognizer in front of the tokens does the work**, too. -/
theorem Works.reaches {dialect : Dialect} {stop : Token} {here there : List Symbol × List Token}
    (works : Works dialect stop here there) (cursor : TokenCursor)
    (ahead : cursor.ahead = here.2) (last : cursor.last = stop) :
    ∃ next : TokenCursor, next.ahead = there.2 ∧ next.last = stop ∧
      Reaches ⟨dialect, here.1, cursor⟩ ⟨dialect, there.1, next⟩ := by
  induction works using Relation.ReflTransGen.head_induction_on generalizing cursor with
  | refl => exact ⟨cursor, ahead, last, .refl⟩
  | head step _ ih =>
      cases step with
      | @replace symbol symbols pending tokens expands =>
          have inView : frontOf stop tokens = cursor.current := by
            rw [cursor.current_eq_front, ahead, last]
          rw [inView] at expands
          obtain ⟨next, left, same, reaches⟩ := ih cursor ahead last
          exact ⟨next, left, same, .head (leads_replace expands) reaches⟩
      | consume expands =>
          obtain ⟨rfl, further, unchanged⟩ := TokenCursor.current_of_ahead ahead
          obtain ⟨next, left, same, reaches⟩ :=
            ih cursor.advance further (unchanged.trans last)
          exact ⟨next, left, same, .head (leads_consume expands) reaches⟩
      | @announce symbol event pending tokens expands =>
          have inView : frontOf stop tokens = cursor.current := by
            rw [cursor.current_eq_front, ahead, last]
          rw [inView] at expands
          obtain ⟨next, left, same, reaches⟩ := ih (cursor.announce event) ahead last
          exact ⟨next, left, same, .head (leads_announce expands) reaches⟩

theorem Fails.reaches {dialect : Dialect} {stop : Token} {here : List Symbol × List Token}
    {error : SyntaxError} (fails : Fails dialect stop here error) (cursor : TokenCursor)
    (ahead : cursor.ahead = here.2) (last : cursor.last = stop) :
    ∃ final place, Reaches ⟨dialect, here.1, cursor⟩ final ∧
      final.step = .done (.rejected error) place := by
  obtain ⟨symbol, pending, tokens, found, works, rejects, same⟩ := fails
  obtain ⟨next, left, unchanged, reaches⟩ := works.reaches cursor ahead last
  refine ⟨_, next, reaches, ?_⟩
  rw [← same]
  apply step_reject
  rw [next.current_eq_front, left, unchanged]
  exact rejects

end MiniJ
