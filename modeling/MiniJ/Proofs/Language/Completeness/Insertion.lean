import MiniJ.Proofs.Recognition.Acceptance

/-!
# Optional symbols in an agenda

The grammars are ambiguous where an `else` or an operator may belong to one of several constructs
that are open. Recognition gives it to the innermost one, so it works with agendas in which the
optional symbol stands more often, or further in front, than a derivation asks for. The main
statement is that this loses nothing: an optional symbol may be inserted into an accepted agenda
wherever what stands behind it yields (`accepts_insert`). What stands behind yields when it refuses
the tokens that the symbol would take, or when the next such symbol is there to take them anyway
(`Yields`).
-/

set_option autoImplicit false

namespace MiniJ

/-- That an agenda is not accepted in front of tokens of some kinds. -/
def Refuses (dialect : Dialect) (stop : Token) (kinds : List TokenKind) (agenda : List Symbol) :
    Prop :=
  ∀ tokens, (frontOf stop tokens).kind ∈ kinds → ¬ Accepts dialect stop agenda tokens

/-- That a symbol consumes tokens of some kinds at most, and may stand for nothing. -/
def Symbol.IsOptional (dialect : Dialect) (kinds : List TokenKind) (symbol : Symbol) : Prop :=
  ∀ current : Token, symbol.expand dialect current = .replace [] ∨
    current.kind ∈ kinds ∧ ∃ symbols, symbol.expand dialect current = .consume symbols

/-- That an agenda leaves tokens of some kinds to an optional symbol in front of it. -/
inductive Yields (dialect : Dialect) (stop : Token) (kinds : List TokenKind) (symbol : Symbol) :
    List Symbol → Prop
  | refuses {agenda : List Symbol} :
      Refuses dialect stop kinds agenda → Yields dialect stop kinds symbol agenda
  | close {construct : Construct} {agenda : List Symbol} :
      Yields dialect stop kinds symbol agenda →
      Yields dialect stop kinds symbol (.close construct :: agenda)
  | again {agenda : List Symbol} :
      Yields dialect stop kinds symbol agenda →
      Yields dialect stop kinds symbol (symbol :: agenda)

variable {dialect : Dialect} {stop : Token} {kinds : List TokenKind} {symbol : Symbol}
  {agenda rest : List Symbol} {tokens : List Token}

/-- The end of a construct takes nothing, so it may stand anywhere. -/
theorem accepts_insert_close {construct : Construct} {before : List Symbol}
    (accepts : Accepts dialect stop agenda tokens) (split : agenda = before ++ rest) :
    Accepts dialect stop (before ++ .close construct :: rest) tokens := by
  -- the place is either in front of the agenda, or in what is pending behind its first symbol
  induction accepts generalizing before with
  | done =>
      obtain ⟨rfl, rfl⟩ := List.nil_eq_append_iff.mp split
      exact .replace rfl .done
  | @replace first symbols pending tokens expands accepts ih =>
      rcases List.cons_eq_append_iff.mp split with ⟨rfl, rfl⟩ | ⟨middle, rfl, rfl⟩
      · exact .replace rfl (.replace expands accepts)
      · have inner := ih (List.append_assoc symbols middle rest).symm
        rw [List.append_assoc] at inner
        exact .replace expands inner
  | @consume first symbols pending current tokens expands accepts ih =>
      rcases List.cons_eq_append_iff.mp split with ⟨rfl, rfl⟩ | ⟨middle, rfl, rfl⟩
      · exact .replace rfl (.consume expands accepts)
      · have inner := ih (List.append_assoc symbols middle rest).symm
        rw [List.append_assoc] at inner
        exact .consume expands inner
  | @announce first event pending tokens expands accepts ih =>
      rcases List.cons_eq_append_iff.mp split with ⟨rfl, rfl⟩ | ⟨middle, rfl, rfl⟩
      · exact .replace rfl (.announce expands accepts)
      · exact .announce expands (ih rfl)

/-- An accepted symbol that consumes the token in front leaves what it expands to. -/
theorem Accepts.after_consume {symbols : List Symbol}
    (accepts : Accepts dialect stop (symbol :: rest) tokens)
    (expands : symbol.expand dialect (frontOf stop tokens) = .consume symbols) :
    ∃ current others, tokens = current :: others ∧
      symbol.expand dialect current = .consume symbols ∧
      Accepts dialect stop (symbols ++ rest) others := by
  cases accepts with
  | replace other => cases expands.symm.trans other
  | @consume _ symbols' _ current others same rest =>
      rw [frontOf_cons] at expands
      cases expands.symm.trans same
      exact ⟨current, others, rfl, expands, rest⟩
  | announce other => cases expands.symm.trans other

/-- **An optional symbol may be inserted in front of what yields to it.** -/
theorem accepts_insert (isOptional : symbol.IsOptional dialect kinds) {before : List Symbol}
    (accepts : Accepts dialect stop agenda tokens) (split : agenda = before ++ rest)
    (yields : Yields dialect stop kinds symbol rest) :
    Accepts dialect stop (before ++ symbol :: rest) tokens := by
  -- induction on acceptance, for all places: a symbol in front is either passed over, or the
  -- token in front is one that it would take, and then what stands behind yields
  induction accepts generalizing before rest with
  | done =>
      obtain ⟨rfl, rfl⟩ := List.nil_eq_append_iff.mp split
      rcases isOptional stop with nothing | ⟨taken, -⟩
      · exact .replace nothing .done
      · cases yields with
        | refuses refuses => exact absurd .done (refuses [] taken)
  | @replace first symbols pending tokens expands accepts ih =>
      rcases List.cons_eq_append_iff.mp split with ⟨rfl, rfl⟩ | ⟨middle, rfl, rfl⟩
      · rcases isOptional (frontOf stop tokens) with nothing | ⟨taken, others, consumes⟩
        · exact .replace nothing (.replace expands accepts)
        · cases yields with
          | refuses refuses => exact absurd (.replace expands accepts) (refuses tokens taken)
          | close yields =>
              -- the end of a construct lets the symbol through and goes behind what it takes
              cases expands
              have nearer : Accepts dialect stop (symbol :: pending) tokens := ih rfl yields
              obtain ⟨current, behind, rfl, consumes, accepts⟩ := nearer.after_consume consumes
              exact .consume consumes (accepts_insert_close accepts rfl)
          | again => cases expands.symm.trans consumes
      · -- further in, the place is in what the first symbol leaves
        have inner := ih (List.append_assoc symbols middle rest).symm yields
        rw [List.append_assoc] at inner
        exact .replace expands inner
  | @consume first symbols pending current tokens expands accepts ih =>
      rcases List.cons_eq_append_iff.mp split with ⟨rfl, rfl⟩ | ⟨middle, rfl, rfl⟩
      · rcases isOptional current with nothing | ⟨taken, others, consumes⟩
        · exact .replace nothing (.consume expands accepts)
        · cases yields with
          | refuses refuses =>
              exact absurd (.consume expands accepts) (refuses (current :: tokens) taken)
          | close => cases expands
          -- The symbol that was there takes the token, and the inserted one stands in its place.
          | again yields => exact .consume expands (ih rfl yields)
      · have inner := ih (List.append_assoc symbols middle rest).symm yields
        rw [List.append_assoc] at inner
        exact .consume expands inner
  | @announce first event pending tokens expands accepts ih =>
      rcases List.cons_eq_append_iff.mp split with ⟨rfl, rfl⟩ | ⟨middle, rfl, rfl⟩
      · rcases isOptional (frontOf stop tokens) with nothing | ⟨taken, others, consumes⟩
        · exact .replace nothing (.announce expands accepts)
        · cases yields with
          | refuses refuses => exact absurd (.announce expands accepts) (refuses tokens taken)
          | close => cases expands
          | again => cases expands.symm.trans consumes
      · exact .announce expands (ih rfl yields)

/-- What yields to a symbol refuses the tokens that the symbol leaves in place, too. -/
theorem Yields.not_accepts (yields : Yields dialect stop kinds symbol rest)
    (refused : (frontOf stop tokens).kind ∈ kinds)
    (nothing : symbol.expand dialect (frontOf stop tokens) = .replace []) :
    ¬ Accepts dialect stop rest tokens := by
  -- what stands in between takes nothing, so the refusal behind it is reached
  induction yields with
  | refuses refuses => exact refuses tokens refused
  | @close construct agenda _ ih =>
      have closes : (Symbol.close construct).expand dialect (frontOf stop tokens) = .replace [] :=
        rfl
      rw [accepts_replace closes]
      exact ih
  | again _ ih =>
      rw [accepts_replace nothing]
      exact ih

end MiniJ
