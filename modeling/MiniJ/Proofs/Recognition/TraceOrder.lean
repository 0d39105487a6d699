import MiniJ.Proofs.Recognition.Descent

/-!
# The order of a trace

What recognition says about its work is a protocol. The first token is scanned and recognition
begins. From then on each token is consumed directly behind the scan of the next one, and in between
there are only milestones of the grammar (`Turns`). The last entry says how the work ended, after how
many tokens, and nothing is scanned behind it.

A step keeps the protocol (`TokenCursor.Logs.announce`, `TokenCursor.Logs.advance`), because a
milestone is no entry about a token, and because a consumed token is never the end, so the scanner
behind it still gives a token and an entry for it. The main statement is `parse_trace_turns`.
-/

set_option autoImplicit false

namespace MiniJ

/-- The entries of a trace while the first tokens of a list are consumed: each is consumed directly
behind the scan of the next one, and milestones stand in between. -/
inductive Turns (tokens : List Token) : Nat → List Event → Prop
  | start : Turns tokens 0 []
  | milestone {count : Nat} {events : List Event} {event : Event} :
      Turns tokens count events → event.isMilestone = true →
      Turns tokens count (events ++ [event])
  /-- One more token is consumed, and the one behind it comes into view. -/
  | turn {count : Nat} {events : List Event} {token next : Token} :
      Turns tokens count events → tokens[count]? = some token →
      tokens[count + 1]? = some next →
      Turns tokens (count + 1) (events ++ [.scan next, .consume token])

/-! ## Steps -/

/-- That the trace of a cursor goes on with turns behind its first entries. -/
def TokenCursor.Logs (tokens : List Token) (first : List Event) (cursor : TokenCursor) : Prop :=
  ∃ body, cursor.trace.toList = first ++ body ∧ Turns tokens cursor.consumed body

namespace TokenCursor

variable {file : Option String} {text here : Scanner} {seen : List Scan} {cursor : TokenCursor}
  {tokens : List Token} {first : List Event}

theorem Logs.announce {event : Event} (logs : cursor.Logs tokens first)
    (milestone : event.isMilestone = true) : (cursor.announce event).Logs tokens first := by
  obtain ⟨body, trace, turns⟩ := logs
  refine ⟨body ++ [event], ?_, turns.milestone milestone⟩
  rw [TokenCursor.announce, Array.toList_push, trace, List.append_assoc]

/-- A scanner that is not finished makes one entry. -/
theorem scanEvents_of_open {scanner : Scanner} (open_ : scanner.finished = false) :
    scanEvents scanner = [.scan scanner.scan.token] := by
  rw [scanEvents, open_]
  rfl

/-- Consuming a token other than the end is a turn. -/
theorem Logs.advance (logs : cursor.Logs (text.scans.map Scan.token) first)
    (follows : cursor.Follows file text seen here) (more : here.scan.token.kind ≠ .eot) :
    cursor.advance.Logs (text.scans.map Scan.token) first := by
  obtain ⟨body, trace, turns⟩ := logs
  have shown : (text.scans.map Scan.token)[cursor.consumed]? = some cursor.current := by
    rw [follows.consumed]
    exact follows.tokens.1
  have next : (text.scans.map Scan.token)[cursor.consumed + 1]? = some cursor.scanner.scan.token := by
    have behind := (follows.advance more).tokens.1
    rwa [List.length_append, List.length_singleton, ← follows.consumed] at behind
  -- the scanner behind the token in view is not finished, since that token is not the end
  have entry : scanEvents cursor.scanner = [.scan cursor.scanner.scan.token] := by
    apply scanEvents_of_open
    rw [follows.behind]
    exact Scanner.scan_goesOn more
  have longer : cursor.advance.trace.toList =
      first ++ (body ++ [.scan cursor.scanner.scan.token, .consume cursor.current]) := by
    simp [TokenCursor.advance, entry, trace]
  exact ⟨_, longer, turns.turn shown next⟩

end TokenCursor

/-! ## Runs -/

namespace Recognizer

variable {file : Option String} {text here : Scanner} {seen : List Scan}
  {recognizer : Recognizer} {first : List Event}

/-- **A run keeps the order of the trace.** The induction is on the bound; a run on track announces
milestones only and consumes words only. -/
theorem logs_run (bound : Nat) (onTrack : recognizer.OnTrack file text seen here)
    (logs : recognizer.cursor.Logs (text.scans.map Scan.token) first) :
    (run bound recognizer).2.Logs (text.scans.map Scan.token) first := by
  induction bound generalizing recognizer seen here with
  | zero => exact logs
  | succ bound ih =>
      obtain ⟨dialect, agenda, cursor⟩ := recognizer
      cases agenda with
      | nil => exact logs
      | cons symbol pending =>
          cases expands : symbol.expand dialect cursor.current with
          | replace symbols =>
              simp only [run, step, expands]
              exact ih (onTrack.replace expands) logs
          | consume symbols =>
              obtain ⟨more, tracked⟩ := onTrack.consume expands
              simp only [run, step, expands]
              exact ih tracked (logs.advance onTrack.follows more)
          | announce event =>
              have milestone := onTrack.isMilestone expands
              simp only [run, step, expands]
              exact ih (onTrack.announce expands) (logs.announce milestone)
          | reject error =>
              simp only [run, step, expands]
              exact logs

end Recognizer

/-! ## The parse of a text -/

/-- The last entry of a trace. -/
def Verdict.lastEvent? (consumed : Nat) : Verdict → Option Event
  | .accepted => some (.finished consumed)
  | .rejected error => some (.aborted error.code error.position consumed)
  | .unfinished => none

/-- The end of recognition makes the last entry and no other. -/
theorem trace_conclude (verdict : Verdict) (cursor : TokenCursor) :
    (conclude verdict cursor).trace.toList =
      cursor.trace.toList ++ (verdict.lastEvent? cursor.consumed).toList := by
  cases verdict with
  | accepted | rejected error => simp [conclude, TokenCursor.announce, Verdict.lastEvent?]
  | unfinished => simp [conclude, Verdict.lastEvent?]

/-- The scanner of a text is open, so the first entry is about the first token. -/
theorem trace_opening (dialect : Dialect) (source : Source) (file : Option String) :
    (TokenCursor.opening dialect source file).trace.toList =
      [.scan (Scanner.start dialect source).scan.token, .parse dialect] := by
  have entry : TokenCursor.scanEvents (Scanner.start dialect source) =
      [.scan (Scanner.start dialect source).scan.token] := TokenCursor.scanEvents_of_open rfl
  simp [TokenCursor.opening, TokenCursor.start, TokenCursor.announce, entry]

/-- The entries of a parse: two before the first turn, the turns, and the last one. -/
theorem parse_logs (dialect : Dialect) (source : Source) (file : Option String) :
    let outcome := parse dialect source file
    ∃ body, Turns (lex dialect source).tokens outcome.cursor.consumed body ∧
      outcome.cursor.trace.toList =
        [.scan (Scanner.start dialect source).scan.token, .parse dialect] ++ body ++
          (outcome.verdict.lastEvent? outcome.cursor.consumed).toList := by
  intro outcome
  let ran := Recognizer.run (Recognizer.stepBound source.size)
    ⟨dialect, [.program], .opening dialect source file⟩
  have ends : outcome = ⟨ran.1, conclude ran.1 ran.2⟩ := parse_eq_run (Nat.le_refl _) file
  have begins : (TokenCursor.opening dialect source file).Logs (lex dialect source).tokens
      [.scan (Scanner.start dialect source).scan.token, .parse dialect] :=
    ⟨[], by rw [trace_opening, List.append_nil], .start⟩
  obtain ⟨body, trace, turns⟩ : ran.2.Logs (lex dialect source).tokens _ :=
    Recognizer.logs_run _ (Recognizer.onTrack_program dialect source file) begins
  have consumed : outcome.cursor.consumed = ran.2.consumed := by
    rw [ends]
    exact (conclude_eq _ _).2.1
  refine ⟨body, ?_, ?_⟩
  · rwa [consumed]
  · rw [consumed, ends, trace_conclude, trace]

/-- **The order of a trace.** A parse says that the first token was scanned and that it begins. Then
come the turns of the tokens that it consumes, and one last entry with their number. That entry says
that the parse is finished exactly when no violation of the grammar is reported, and then the token
behind those that were consumed is the end. Otherwise it says that the parse is aborted, with the
code and the position of the only violation that is reported. -/
theorem parse_trace_turns (dialect : Dialect) (source : Source) (file : Option String) :
    let tokens := (lex dialect source).tokens
    let outcome := parse dialect source file
    let consumed := outcome.cursor.consumed
    ∃ first body last,
      tokens[0]? = some first ∧
      outcome.cursor.trace.toList = [.scan first, .parse dialect] ++ body ++ [last] ∧
      Turns tokens consumed body ∧
      (last = .finished consumed ↔
        ∀ diagnostic ∈ outcome.reports, ¬ diagnostic.code.IsE1) ∧
      ((last = .finished consumed ∧ ∃ stop, tokens[consumed]? = some stop ∧ stop.kind = .eot) ∨
        ∃ lexical diagnostic position, outcome.reports = lexical ++ [diagnostic] ∧
          (∀ other ∈ lexical, ¬ other.code.IsE1) ∧ diagnostic.code.IsE1 ∧
          diagnostic.position = some position ∧
          last = .aborted diagnostic.code position consumed) := by
  intro tokens outcome consumed
  obtain ⟨body, turns, trace⟩ := parse_logs dialect source file
  have front : tokens[0]? = some (Scanner.start dialect source).scan.token :=
    (TokenCursor.follows_start file (.start dialect source)).tokens.1
  -- No lexical diagnostic has the number of a syntax error, so the last event tells the outcomes
  -- apart.
  have lexical : ∀ diagnostic ∈ ((Scanner.start dialect source).faultsTo consumed).map
      (fun fault => fault.diagnostic.under file), ¬ diagnostic.code.IsE1 := by
    intro diagnostic member syntactic
    obtain ⟨fault, -, rfl⟩ := List.mem_map.mp member
    exact fault.not_isE1 syntactic
  rcases parse_reports dialect source file with
    ⟨accepted, atEnd, reports⟩ | ⟨error, rejected, syntactic, reports⟩
  · refine ⟨_, body, .finished consumed, front, ?_, turns, ?_, ?_⟩
    · rw [trace, accepted]
      rfl
    · refine iff_of_true rfl ?_
      rw [reports]
      exact lexical
    · exact .inl ⟨rfl, _, parse_shows dialect source file, atEnd⟩
  · refine ⟨_, body, .aborted error.code error.position consumed, front, ?_, turns, ?_, ?_⟩
    · rw [trace, rejected]
      rfl
    · refine iff_of_false Event.noConfusion ?_
      intro silent
      refine silent (error.diagnostic.under file) ?_ syntactic
      rw [reports]
      exact List.mem_append_right _ List.mem_cons_self
    · exact .inr ⟨_, _, error.position, reports, lexical, syntactic, rfl, rfl⟩

end MiniJ
