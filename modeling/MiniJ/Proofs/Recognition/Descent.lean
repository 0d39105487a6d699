import MiniJ.Proofs.Recognition.Streaming

/-!
# Recognition by recursive descent

A recognizer keeps what is still to come on an agenda. `descend` works off the same expansions by
recursion instead: a symbol is worked off by a call, and the symbols that take its place are worked
off by calls of the call, one after the other. A failure ends every call that is open and is named
for the innermost construct on its way out. The depth of the recursion is bounded, and `descend`
says so when the bound was too small.

The main statement is `descend_agrees`: unless it was too deep, a call does what the recognizer
does with the symbol on top of any agenda.
-/

set_option autoImplicit false

namespace MiniJ

/-- How a call ends. -/
inductive Descent where
  /-- The symbol was worked off up to the token that the cursor shows. -/
  | returned (cursor : TokenCursor)
  /-- A token was an error. -/
  | failed (error : SyntaxError) (cursor : TokenCursor)
  /-- The bound on the depth was too small. -/
  | tooDeep
  deriving DecidableEq

namespace Descent

/-- Where a call left the cursor. -/
def cursor? : Descent → Option TokenCursor
  | returned cursor | failed _ cursor => some cursor
  | tooDeep => none

end Descent

/-- Work off symbols one after the other, each by a call. -/
def descendAll (call : Symbol → TokenCursor → Descent) : List Symbol → TokenCursor → Descent
  | [], cursor => .returned cursor
  | symbol :: pending, cursor =>
    match call symbol cursor with
    | .returned next => descendAll call pending next
    -- The constructs that the pending symbols end are open where the call failed.
    | .failed error next => .failed (error.before pending) next
    | .tooDeep => .tooDeep

/-- Work off a symbol by calls that are nested no deeper than a bound. -/
def descend (dialect : Dialect) : Nat → Symbol → TokenCursor → Descent
  | 0, _, _ => .tooDeep
  | depth + 1, symbol, cursor =>
    match symbol.expand dialect cursor.current with
    | .replace symbols => descendAll (descend dialect depth) symbols cursor
    | .consume symbols => descendAll (descend dialect depth) symbols cursor.advance
    | .announce event => .returned (cursor.announce event)
    | .reject error => .failed error cursor

/-! ## Constructs on the way out -/

theorem innermost?_append (front agenda : List Symbol) :
    innermost? (front ++ agenda) = (innermost? front).or (innermost? agenda) := by
  induction front with
  | nil => rfl
  | cons symbol front ih => cases symbol <;> simp [innermost?, ih]

/-- The innermost construct stays when an error goes further out. -/
theorem SyntaxError.before_append (error : SyntaxError) (front agenda : List Symbol) :
    error.before (front ++ agenda) = (error.before front).before agenda := by
  simp only [SyntaxError.before, innermost?_append]
  cases innermost? front with
  | none => rfl
  | some inner =>
      cases innermost? agenda with
      | none => rfl
      | some outer =>
          simp only [Option.some_or, SyntaxError.within]
          cases error.construct <;> rfl

/-! ## Calls and agendas -/

/-- That a call does what a recognizer does with symbols on top of an agenda. -/
def Descent.Agrees (dialect : Dialect) (symbols : List Symbol) (cursor : TokenCursor) :
    Descent → Prop
  | returned next =>
    ∃ steps, ∀ bound pending,
      Recognizer.run (steps + bound) ⟨dialect, symbols ++ pending, cursor⟩ =
        Recognizer.run bound ⟨dialect, pending, next⟩
  | failed error next =>
    ∃ steps, ∀ bound pending,
      Recognizer.run (steps + bound) ⟨dialect, symbols ++ pending, cursor⟩ =
        (.rejected (error.before pending), next)
  | tooDeep => True

section Agreement

variable {dialect : Dialect} {symbol : Symbol} {symbols : List Symbol}
  {cursor next : TokenCursor} {outcome : Descent}

/-- A step of the recognizer goes in front of what the call does behind it. -/
theorem Descent.Agrees.step (agrees : outcome.Agrees dialect symbols next)
    (works : ∀ pending, Recognizer.step ⟨dialect, symbol :: pending, cursor⟩ =
      .more ⟨dialect, symbols ++ pending, next⟩) :
    outcome.Agrees dialect [symbol] cursor := by
  have longer (steps bound : Nat) (pending : List Symbol) :
      Recognizer.run (steps + 1 + bound) ⟨dialect, [symbol] ++ pending, cursor⟩ =
        Recognizer.run (steps + bound) ⟨dialect, symbols ++ pending, next⟩ := by
    rw [Nat.add_right_comm, Recognizer.run, List.singleton_append, works pending]
  cases outcome with
  | returned last =>
      obtain ⟨steps, same⟩ := agrees
      exact ⟨steps + 1, fun bound pending => (longer steps bound pending).trans (same _ _)⟩
  | failed error last =>
      obtain ⟨steps, same⟩ := agrees
      exact ⟨steps + 1, fun bound pending => (longer steps bound pending).trans (same _ _)⟩
  | tooDeep => trivial

/-- Calls one after the other do what the recognizer does with their symbols in a row. -/
theorem descendAll_agrees {call : Symbol → TokenCursor → Descent}
    (agrees : ∀ symbol cursor, (call symbol cursor).Agrees dialect [symbol] cursor)
    (symbols : List Symbol) (cursor : TokenCursor) :
    (descendAll call symbols cursor).Agrees dialect symbols cursor := by
  induction symbols generalizing cursor with
  | nil => exact ⟨0, fun bound pending => by rw [Nat.zero_add, List.nil_append]⟩
  | cons symbol symbols ih =>
      have first := agrees symbol cursor
      rw [descendAll]
      cases ended : call symbol cursor with
      | returned next =>
          rw [ended] at first
          obtain ⟨steps, same⟩ := first
          -- The calls of the list follow one another, and so their numbers of steps add up.
          have join (more bound : Nat) (pending : List Symbol) :
              Recognizer.run (steps + more + bound)
                  ⟨dialect, symbol :: symbols ++ pending, cursor⟩ =
                Recognizer.run (more + bound) ⟨dialect, symbols ++ pending, next⟩ := by
            rw [Nat.add_assoc]
            exact same (more + bound) (symbols ++ pending)
          have rest := ih next
          dsimp only
          cases behind : descendAll call symbols next with
          | returned last =>
              rw [behind] at rest
              obtain ⟨more, later⟩ := rest
              exact ⟨steps + more, fun bound pending => (join _ _ _).trans (later _ _)⟩
          | failed error last =>
              rw [behind] at rest
              obtain ⟨more, later⟩ := rest
              exact ⟨steps + more, fun bound pending => (join _ _ _).trans (later _ _)⟩
          | tooDeep => trivial
      | failed error next =>
          rw [ended] at first
          obtain ⟨steps, same⟩ := first
          refine ⟨steps, fun bound pending => ?_⟩
          rw [← SyntaxError.before_append]
          exact same bound (symbols ++ pending)
      | tooDeep => trivial

/-- **A call does what the recognizer does.** The induction is on the depth. -/
theorem descend_agrees (dialect : Dialect) (depth : Nat) (symbol : Symbol)
    (cursor : TokenCursor) :
    (descend dialect depth symbol cursor).Agrees dialect [symbol] cursor := by
  induction depth generalizing symbol cursor with
  | zero => trivial
  | succ depth ih =>
      rw [descend]
      cases expands : symbol.expand dialect cursor.current with
      | replace symbols =>
          refine (descendAll_agrees ih symbols cursor).step fun pending => ?_
          simp only [Recognizer.step, expands]
      | consume symbols =>
          refine (descendAll_agrees ih symbols cursor.advance).step fun pending => ?_
          simp only [Recognizer.step, expands]
      | announce event =>
          refine ⟨1, fun bound pending => ?_⟩
          rw [Nat.add_comm, Recognizer.run, List.singleton_append]
          simp only [Recognizer.step, expands]
      | reject error =>
          refine ⟨1, fun bound pending => ?_⟩
          rw [Nat.add_comm, Recognizer.run, List.singleton_append]
          simp only [Recognizer.step, expands]

end Agreement

/-! ## A whole text -/

/-- The cursor with which recognition of a text begins. -/
def TokenCursor.opening (dialect : Dialect) (source : Source) (file : Option String) :
    TokenCursor :=
  (start (.start dialect source) (.empty file)).announce (.parse dialect)

/-- A parse ends with a verdict. -/
theorem verdict_ne_unfinished (dialect : Dialect) (source : Source) (file : Option String) :
    (parse dialect source file).verdict ≠ .unfinished := by
  obtain ⟨verdict, cursor, seen, here, ended, -, settles⟩ := parse_settles dialect source file
  rw [ended]
  cases settles with
  | accepted | rejected => simp

/-- A parse is a run with any number of steps from the bound on. -/
theorem parse_eq_run {dialect : Dialect} {source : Source} {bound : Nat}
    (enough : Recognizer.stepBound source.size ≤ bound) (file : Option String) :
    let outcome := Recognizer.run bound ⟨dialect, [.program], .opening dialect source file⟩
    parse dialect source file = ⟨outcome.1, conclude outcome.1 outcome.2⟩ := by
  intro outcome
  have settled : outcome = Recognizer.run (Recognizer.stepBound source.size)
      ⟨dialect, [.program], .opening dialect source file⟩ :=
    Recognizer.run_of_le (verdict_ne_unfinished dialect source file) enough
  rw [settled]
  rfl

/-- A run of any length that ends is the run of the parse. -/
theorem parse_of_run {dialect : Dialect} {source : Source} {file : Option String} {bound : Nat}
    {verdict : Verdict} {cursor : TokenCursor}
    (runs : Recognizer.run bound ⟨dialect, [.program], .opening dialect source file⟩ =
      (verdict, cursor))
    (ended : verdict ≠ .unfinished) :
    parse dialect source file = ⟨verdict, conclude verdict cursor⟩ := by
  rw [parse_eq_run (Nat.le_max_right bound _) file,
    Recognizer.run_of_le (by rwa [runs]) (Nat.le_max_left bound _), runs]

/-- **A descent that is not too deep is the parse.** -/
theorem parse_of_descend {dialect : Dialect} {source : Source} {file : Option String}
    {depth : Nat}
    (enough : descend dialect depth .program (.opening dialect source file) ≠ .tooDeep) :
    (∃ cursor, descend dialect depth .program (.opening dialect source file) = .returned cursor ∧
      parse dialect source file = ⟨.accepted, conclude .accepted cursor⟩) ∨
    ∃ error cursor,
      descend dialect depth .program (.opening dialect source file) = .failed error cursor ∧
      parse dialect source file = ⟨.rejected error, conclude (.rejected error) cursor⟩ := by
  have agrees := descend_agrees dialect depth .program (.opening dialect source file)
  cases ended : descend dialect depth .program (.opening dialect source file) with
  | returned cursor =>
      rw [ended] at agrees
      obtain ⟨steps, same⟩ := agrees
      exact .inl ⟨cursor, rfl, parse_of_run (same 1 []) (by simp)⟩
  | failed error cursor =>
      rw [ended] at agrees
      obtain ⟨steps, same⟩ := agrees
      exact .inr ⟨error, cursor, rfl, parse_of_run (same 0 []) (by simp)⟩
  | tooDeep => exact absurd ended enough

end MiniJ
