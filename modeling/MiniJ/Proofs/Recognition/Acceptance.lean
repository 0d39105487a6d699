import MiniJ.Recognition.Recognizer

/-!
# Acceptance of token lists

`Accepts dialect stop agenda tokens` says that work on an agenda comes to its end exactly when the
tokens are all consumed, where `stop` stands behind the last token. It is recognition without the
scanner, the trace and the bound on the number of steps: one rule for each kind of expansion but
rejection. A token in front settles which rule applies, so acceptance of an agenda is acceptance of
what its first symbol expands to (`accepts_replace`, `accepts_consume`, `accepts_announce`).
-/

set_option autoImplicit false

namespace MiniJ

/-- The token in front: the first one, or the one that stands for the end. -/
def frontOf (stop : Token) : List Token → Token
  | [] => stop
  | token :: _ => token

@[simp] theorem frontOf_nil (stop : Token) : frontOf stop [] = stop := rfl

@[simp] theorem frontOf_cons (stop token : Token) (tokens : List Token) :
    frontOf stop (token :: tokens) = token := rfl

/-- Whether an agenda can be worked off in front of exactly these tokens. -/
inductive Accepts (dialect : Dialect) (stop : Token) : List Symbol → List Token → Prop
  | done : Accepts dialect stop [] []
  | replace {symbol : Symbol} {symbols pending : List Symbol} {tokens : List Token} :
      symbol.expand dialect (frontOf stop tokens) = .replace symbols →
      Accepts dialect stop (symbols ++ pending) tokens →
      Accepts dialect stop (symbol :: pending) tokens
  | consume {symbol : Symbol} {symbols pending : List Symbol} {current : Token}
      {tokens : List Token} :
      symbol.expand dialect current = .consume symbols →
      Accepts dialect stop (symbols ++ pending) tokens →
      Accepts dialect stop (symbol :: pending) (current :: tokens)
  | announce {symbol : Symbol} {event : Event} {pending : List Symbol} {tokens : List Token} :
      symbol.expand dialect (frontOf stop tokens) = .announce event →
      Accepts dialect stop pending tokens →
      Accepts dialect stop (symbol :: pending) tokens

section Steps

variable {dialect : Dialect} {stop : Token} {symbol : Symbol} {symbols pending : List Symbol}
  {tokens : List Token}

theorem accepts_replace (expands : symbol.expand dialect (frontOf stop tokens) = .replace symbols) :
    Accepts dialect stop (symbol :: pending) tokens ↔
      Accepts dialect stop (symbols ++ pending) tokens := by
  constructor
  · intro h
    cases h with
    | replace same rest =>
        rw [expands] at same
        cases same
        exact rest
    | consume other => cases expands.symm.trans other
    | announce other => cases expands.symm.trans other
  · exact .replace expands

theorem accepts_consume {current : Token}
    (expands : symbol.expand dialect current = .consume symbols) :
    Accepts dialect stop (symbol :: pending) (current :: tokens) ↔
      Accepts dialect stop (symbols ++ pending) tokens := by
  constructor
  · intro h
    cases h with
    | replace other => cases expands.symm.trans other
    | consume same rest =>
        rw [expands] at same
        cases same
        exact rest
    | announce other => cases expands.symm.trans other
  · exact .consume expands

theorem accepts_announce {event : Event}
    (expands : symbol.expand dialect (frontOf stop tokens) = .announce event) :
    Accepts dialect stop (symbol :: pending) tokens ↔ Accepts dialect stop pending tokens := by
  constructor
  · intro h
    cases h with
    | replace other => cases expands.symm.trans other
    | consume other => cases expands.symm.trans other
    | announce _ rest => exact rest
  · exact .announce expands

theorem not_accepts_reject {error : SyntaxError}
    (expands : symbol.expand dialect (frontOf stop tokens) = .reject error) :
    ¬ Accepts dialect stop (symbol :: pending) tokens := by
  intro h
  cases h with
  | replace other => cases expands.symm.trans other
  | consume other => cases expands.symm.trans other
  | announce other => cases expands.symm.trans other

end Steps

end MiniJ
