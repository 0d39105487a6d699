import MiniJ.Proofs.Recognition.Acceptance
import MiniJ.Proofs.Recognition.Agenda
import MiniJ.Proofs.Recognition.StepBound
import MiniJ.Proofs.Scanning.Stream

/-!
# Recognition follows the token list

Recognition asks the scanner for tokens one at a time. `TokenCursor.Follows` states what a cursor
then knows: it shows the token behind those that were consumed, and it has reported what scanning
as far as that token reports. Every step of a recognizer keeps this (`Recognizer.OnTrack`), and the
run ends with a verdict that acceptance of the token list decides (`run_settles`).

The main statement is `parse_streams_tokens`.
-/

set_option autoImplicit false

namespace MiniJ

theorem Scanner.token_eq_frontOf (scanner : Scanner) :
    scanner.scan.token = frontOf scanner.stop scanner.words := by
  by_cases finished : scanner.scan.token.kind = .eot
  · rw [words_of_end finished, stop_of_end finished, frontOf_nil]
  · rw [words_of_more finished, frontOf_cons]

/-! ## Reports and traces -/

theorem Reporter.reportAll_append (reporter : Reporter) (first second : List Diagnostic) :
    reporter.reportAll (first ++ second) = (reporter.reportAll first).reportAll second :=
  List.foldl_append

/-- A diagnostic about an input whose name may be known. -/
def Diagnostic.under (file : Option String) (diagnostic : Diagnostic) : Diagnostic :=
  { diagnostic with file := diagnostic.file.or file }

@[simp] theorem Diagnostic.code_under (file : Option String) (diagnostic : Diagnostic) :
    (diagnostic.under file).code = diagnostic.code := rfl

/-- A reporter keeps the diagnostics in order and puts its name on them. -/
theorem Reporter.reportAll_eq (reporter : Reporter) (diagnostics : List Diagnostic) :
    (reporter.reportAll diagnostics).file = reporter.file ∧
      (reporter.reportAll diagnostics).diagnostics.toList =
        reporter.diagnostics.toList ++ diagnostics.map (Diagnostic.under reporter.file) := by
  induction diagnostics generalizing reporter with
  | nil => exact ⟨rfl, (List.append_nil _).symm⟩
  | cons diagnostic diagnostics ih =>
      obtain ⟨named, reports⟩ := ih (reporter.report diagnostic)
      refine ⟨named, ?_⟩
      rw [reportAll, List.foldl_cons, ← reportAll, reports]
      simp [report, Diagnostic.under]

/-- The token that an entry says was consumed. -/
def Event.consumed? : Event → Option Token
  | consume token => some token
  | _ => none

/-- The tokens that a trace says were consumed, in order. -/
def consumedTokens (trace : Trace) : List Token :=
  trace.toList.filterMap Event.consumed?

theorem consumedTokens_push (trace : Trace) (event : Event) :
    consumedTokens (trace.push event) = consumedTokens trace ++ event.consumed?.toList := by
  cases event <;> simp [consumedTokens, Event.consumed?]

theorem consumedTokens_scanEvents (trace : Trace) (scanner : Scanner) :
    consumedTokens (trace.appendList (TokenCursor.scanEvents scanner)) = consumedTokens trace := by
  rw [TokenCursor.scanEvents]
  split <;> simp [consumedTokens, Event.consumed?]

/-! ## Cursors -/

/-- A cursor over a text shows the first token of `here`, behind the outcomes `seen`, and has
reported what they report. -/
structure TokenCursor.Follows (file : Option String) (text : Scanner) (seen : List Scan)
    (here : Scanner) (cursor : TokenCursor) : Prop where
  split : text.scans = seen ++ here.scans
  current : cursor.current = here.scan.token
  behind : cursor.scanner = here.scan.next
  consumed : cursor.consumed = seen.length
  reporter : cursor.reporter = (Reporter.empty file).reportAll
    (((seen ++ [here.scan]).flatMap Scan.faults).map LexicalFault.diagnostic)
  trace : consumedTokens cursor.trace = seen.map Scan.token

namespace TokenCursor

variable {file : Option String} {text here : Scanner} {seen : List Scan} {cursor : TokenCursor}

theorem follows_start (file : Option String) (text : Scanner) :
    Follows file text [] text (start text (.empty file)) where
  split := rfl
  current := rfl
  behind := rfl
  consumed := rfl
  reporter := by simp [start]
  trace := by
    rw [start, scanEvents]
    split <;> simp [consumedTokens, Event.consumed?]

theorem Follows.announce (follows : cursor.Follows file text seen here) {event : Event}
    (silent : event.consumed? = none) : (cursor.announce event).Follows file text seen here where
  split := follows.split
  current := follows.current
  behind := follows.behind
  consumed := follows.consumed
  reporter := follows.reporter
  trace := by
    rw [TokenCursor.announce, consumedTokens_push, silent, follows.trace]
    simp

/-- Consuming a token other than the end moves on to the next. -/
theorem Follows.advance (follows : cursor.Follows file text seen here)
    (more : here.scan.token.kind ≠ .eot) :
    cursor.advance.Follows file text (seen ++ [here.scan]) here.scan.next where
  split := by
    rw [follows.split, Scanner.scans_of_more more]
    simp
  current := by simp [TokenCursor.advance, follows.behind]
  behind := by simp [TokenCursor.advance, follows.behind]
  consumed := by simp [TokenCursor.advance, follows.consumed]
  reporter := by
    rw [List.flatMap_append, List.map_append, Reporter.reportAll_append, ← follows.reporter]
    simp [TokenCursor.advance, follows.behind]
  trace := by
    simp only [TokenCursor.advance, consumedTokens_push, consumedTokens_scanEvents]
    simp [follows.trace, follows.current, Event.consumed?]

/-- The words of a text are those that were consumed and those that are still to come. -/
theorem Follows.words (follows : cursor.Follows file text seen here) :
    text.words = seen.map Scan.token ++ here.words := by
  have nonempty : here.scans.map Scan.token ≠ [] := by
    simpa using Scanner.scans_ne_nil here
  rw [Scanner.words, follows.split, List.map_append, List.dropLast_append_of_ne_nil nonempty,
    Scanner.words]

theorem Follows.stop (follows : cursor.Follows file text seen here) : here.stop = text.stop := by
  simp only [Scanner.stop, follows.split]
  rw [List.getLast_append_of_ne_nil _ (Scanner.scans_ne_nil here)]

theorem Follows.current_eq_frontOf (follows : cursor.Follows file text seen here) :
    cursor.current = frontOf here.stop here.words := by
  rw [follows.current, Scanner.token_eq_frontOf]

end TokenCursor

/-! ## Runs -/

/-- A recognizer over a text whose cursor follows the text, and whose agenda keeps what expansions
keep. -/
structure Recognizer.OnTrack (file : Option String) (text : Scanner) (seen : List Scan)
    (here : Scanner) (recognizer : Recognizer) : Prop where
  follows : recognizer.cursor.Follows file text seen here
  guarded : ∀ symbol ∈ recognizer.agenda, symbol.isGuarded = true
  grounded : IsGrounded recognizer.agenda recognizer.cursor.current

/-- How a run over a text ends: accepted behind the last word if the agenda is accepted, and
otherwise rejected for a violation of the grammar. -/
inductive Settles (accepts : Prop) (here : Scanner) : Verdict → Prop
  | accepted : accepts → here.words = [] → Settles accepts here .accepted
  | rejected {error : SyntaxError} : ¬ accepts → error.code.isLexical = false →
      Settles accepts here (.rejected error)

theorem SyntaxError.code_before (error : SyntaxError) (agenda : List Symbol) :
    (error.before agenda).code = error.code := by
  rw [SyntaxError.before]
  split <;> rfl

namespace Recognizer

variable {file : Option String} {text here : Scanner} {seen : List Scan}
  {dialect : Dialect} {cursor : TokenCursor} {symbol : Symbol} {pending : List Symbol}

theorem guarded_append {symbols : List Symbol}
    (guarded : ∀ next ∈ symbol :: pending, next.isGuarded = true)
    (front : ∀ next ∈ symbols, next.isGuarded = true) :
    ∀ next ∈ symbols ++ pending, next.isGuarded = true := by
  intro next member
  rcases List.mem_append.mp member with new | old
  · exact front next new
  · exact guarded next (List.mem_cons_of_mem _ old)

theorem OnTrack.replace {symbols : List Symbol}
    (onTrack : OnTrack file text seen here ⟨dialect, symbol :: pending, cursor⟩)
    (expands : symbol.expand dialect cursor.current = .replace symbols) :
    OnTrack file text seen here ⟨dialect, symbols ++ pending, cursor⟩ where
  follows := onTrack.follows
  guarded := by
    have proper := symbol.expand_proper dialect cursor.current
    rw [expands] at proper
    exact guarded_append onTrack.guarded (proper (onTrack.guarded symbol List.mem_cons_self))
  grounded := isGrounded_replace onTrack.grounded expands

/-- Only milestones are announced. -/
theorem OnTrack.isMilestone {event : Event}
    (onTrack : OnTrack file text seen here ⟨dialect, symbol :: pending, cursor⟩)
    (expands : symbol.expand dialect cursor.current = .announce event) :
    event.isMilestone = true := by
  have proper := symbol.expand_proper dialect cursor.current
  rw [expands] at proper
  exact proper (onTrack.guarded symbol List.mem_cons_self)

theorem OnTrack.announce {event : Event}
    (onTrack : OnTrack file text seen here ⟨dialect, symbol :: pending, cursor⟩)
    (expands : symbol.expand dialect cursor.current = .announce event) :
    OnTrack file text seen here ⟨dialect, pending, cursor.announce event⟩ where
  follows := by
    have milestone := onTrack.isMilestone expands
    apply onTrack.follows.announce
    cases event <;> simp_all [Event.isMilestone, Event.consumed?]
  guarded next member := onTrack.guarded next (List.mem_cons_of_mem _ member)
  grounded := isGrounded_announce onTrack.grounded expands

/-- A consumed token is a word, and the cursor moves on to the next one. -/
theorem OnTrack.consume {symbols : List Symbol}
    (onTrack : OnTrack file text seen here ⟨dialect, symbol :: pending, cursor⟩)
    (expands : symbol.expand dialect cursor.current = .consume symbols) :
    here.scan.token.kind ≠ .eot ∧
      OnTrack file text (seen ++ [here.scan]) here.scan.next
        ⟨dialect, symbols ++ pending, cursor.advance⟩ := by
  have proper := symbol.expand_proper dialect cursor.current
  rw [expands] at proper
  obtain ⟨more, front⟩ := proper (onTrack.guarded symbol List.mem_cons_self)
  rw [onTrack.follows.current] at more
  exact ⟨more, onTrack.follows.advance more, guarded_append onTrack.guarded front,
    isGrounded_consume onTrack.grounded expands⟩

/-- **A run with enough steps ends with a verdict.** The induction is on the bound; each step keeps
the recognizer on track and lowers the potential, and acceptance is the same before and after it. -/
theorem run_settles {bound : Nat} {recognizer : Recognizer}
    (onTrack : recognizer.OnTrack file text seen here)
    (enough : potential recognizer.agenda here.words.length < bound) :
    ∃ seen' here', (run bound recognizer).2.Follows file text seen' here' ∧
      Settles (Accepts recognizer.dialect text.stop recognizer.agenda here.words) here'
        (run bound recognizer).1 := by
  induction bound generalizing recognizer seen here with
  | zero => exact absurd enough (Nat.not_lt_zero _)
  | succ bound ih =>
      obtain ⟨dialect, agenda, cursor⟩ := recognizer
      -- the cursor shows the token that acceptance looks at
      have front : cursor.current = frontOf text.stop here.words := by
        rw [← onTrack.follows.stop]
        exact onTrack.follows.current_eq_frontOf
      cases agenda with
      | nil =>
          -- the agenda is grounded, so it is empty only in front of the end
          have finished : here.scan.token.kind = .eot := by
            rw [← onTrack.follows.current]
            exact onTrack.grounded
          have isOver := Scanner.words_of_end finished
          refine ⟨seen, here, onTrack.follows, .accepted ?_ isOver⟩
          rw [isOver]
          exact .done
      | cons symbol pending =>
          cases expands : symbol.expand dialect cursor.current with
          | replace symbols =>
              -- the same words are ahead, and the agenda got lighter
              have less := potential_replace_lt expands pending here.words.length
              have next := ih (onTrack.replace expands)
                (Nat.lt_of_lt_of_le less (Nat.le_of_lt_succ enough))
              simp only [run, step, expands]
              rw [front] at expands
              rwa [accepts_replace expands]
          | consume symbols =>
              -- one word fewer is ahead, which pays for what was left on the agenda
              obtain ⟨more, tracked⟩ := onTrack.consume expands
              have words := Scanner.words_of_more more
              rw [words, List.length_cons] at enough
              have less := potential_consume_lt expands pending here.scan.next.words.length
              have next := ih tracked (Nat.lt_of_lt_of_le less (Nat.le_of_lt_succ enough))
              simp only [run, step, expands]
              rw [onTrack.follows.current] at expands
              rwa [words, accepts_consume expands]
          | announce event =>
              have less := potential_announce_lt expands pending here.words.length
              have next := ih (onTrack.announce expands)
                (Nat.lt_of_lt_of_le less (Nat.le_of_lt_succ enough))
              simp only [run, step, expands]
              rw [front] at expands
              rwa [accepts_announce expands]
          | reject error =>
              have proper := symbol.expand_proper dialect cursor.current
              rw [expands] at proper
              simp only [run, step, expands]
              rw [front] at expands
              refine ⟨seen, here, onTrack.follows, .rejected (not_accepts_reject expands) ?_⟩
              rw [SyntaxError.code_before]
              exact proper

end Recognizer

/-- Recognition of a text begins on track. -/
theorem Recognizer.onTrack_program (dialect : Dialect) (source : Source) (file : Option String) :
    OnTrack file (.start dialect source) [] (.start dialect source)
      ⟨dialect, [.program],
        (TokenCursor.start (.start dialect source) (.empty file)).announce (.parse dialect)⟩ where
  follows := (TokenCursor.follows_start file _).announce rfl
  guarded := by simp [Symbol.isGuarded]
  grounded := isGrounded_program _

/-- The run of a parse, before its conclusion. -/
theorem parse_settles (dialect : Dialect) (source : Source) (file : Option String) :
    ∃ verdict cursor seen here,
      parse dialect source file = ⟨verdict, conclude verdict cursor⟩ ∧
      cursor.Follows file (.start dialect source) seen here ∧
      Settles (Accepts dialect (Scanner.start dialect source).stop [.program]
        (lex dialect source).words) here verdict := by
  have onTrack := Recognizer.onTrack_program dialect source file
  have enough := potential_program_lt (Scanner.length_words_le (.start dialect source))
  obtain ⟨seen, here, follows, settles⟩ := Recognizer.run_settles onTrack enough
  exact ⟨_, _, seen, here, rfl, follows, settles⟩

/-! ## The written forms of codes -/

/-- Whether a code is written `E0` and more. -/
def ErrorCode.IsE0 (code : ErrorCode) : Prop :=
  "E0".toList <+: code.text.toList

/-- Whether a code is written `E1` and more. -/
def ErrorCode.IsE1 (code : ErrorCode) : Prop :=
  "E1".toList <+: code.text.toList

theorem ErrorCode.isE0_iff (code : ErrorCode) : code.IsE0 ↔ code.isLexical = true := by
  rw [IsE0]
  cases code <;> decide

theorem ErrorCode.isE1_iff (code : ErrorCode) : code.IsE1 ↔ code.isLexical = false := by
  rw [IsE1]
  cases code <;> decide

/-! ## The parse of a text -/

/-- What a parse reports, in order. -/
def Parse.reports (outcome : Parse) : List Diagnostic :=
  outcome.cursor.reporter.diagnostics.toList

section Conclusion

variable {file : Option String} {text here : Scanner} {seen : List Scan} {cursor : TokenCursor}
  {verdict : Verdict}

/-- The end of recognition consumes no token. -/
theorem conclude_eq (verdict : Verdict) (cursor : TokenCursor) :
    (conclude verdict cursor).current = cursor.current ∧
      (conclude verdict cursor).consumed = cursor.consumed ∧
      consumedTokens (conclude verdict cursor).trace = consumedTokens cursor.trace := by
  cases verdict with
  | accepted | rejected error =>
      refine ⟨rfl, rfl, ?_⟩
      simp [conclude, TokenCursor.announce, consumedTokens_push, Event.consumed?]
  | unfinished => exact ⟨rfl, rfl, rfl⟩

/-- The faults as far as the token that a cursor shows are those of the outcomes up to it. -/
theorem TokenCursor.Follows.faultsTo (follows : cursor.Follows file text seen here) :
    text.faultsTo seen.length = (seen ++ [here.scan]).flatMap Scan.faults := by
  obtain ⟨later, first⟩ : ∃ later, here.scans = here.scan :: later := by
    by_cases finished : here.scan.token.kind = .eot
    · exact ⟨[], Scanner.scans_of_end finished⟩
    · exact ⟨_, Scanner.scans_of_more finished⟩
  rw [Scanner.faultsTo, follows.split, first, List.append_cons, List.take_left' (by simp)]

theorem TokenCursor.Follows.reports (follows : cursor.Follows file text seen here) :
    cursor.reporter.file = file ∧ cursor.reporter.diagnostics.toList =
      (text.faultsTo seen.length).map fun fault => fault.diagnostic.under file := by
  obtain ⟨named, reports⟩ := Reporter.reportAll_eq (.empty file)
    (((seen ++ [here.scan]).flatMap Scan.faults).map LexicalFault.diagnostic)
  rw [follows.reporter, follows.faultsTo]
  refine ⟨named, reports.trans ?_⟩
  rw [List.map_map]
  rfl

/-- The token that a cursor shows, found in the token list of the text. -/
theorem TokenCursor.Follows.tokens (follows : cursor.Follows file text seen here) :
    (text.scans.map Scan.token)[seen.length]? = some cursor.current ∧
      (text.scans.map Scan.token).take seen.length = seen.map Scan.token := by
  have split : text.scans.map Scan.token =
      seen.map Scan.token ++ (here.words ++ [here.stop]) := by
    rw [follows.split, List.map_append, Scanner.tokens_eq]
  rw [split]
  constructor
  · rw [List.getElem?_append_right (by simp), follows.current_eq_frontOf]
    cases here.words <;> simp
  · exact List.take_left' (by simp)

/-- At the end of a text everything that scanning it reports was reported. -/
theorem TokenCursor.Follows.all_of_words_nil (follows : cursor.Follows file text seen here)
    (isOver : here.words = []) :
    seen.length + 1 = (text.scans.map Scan.token).length ∧
      text.faultsTo seen.length = text.scans.flatMap Scan.faults := by
  have last : here.scans.length = 1 := by rw [Scanner.length_scans, isOver, List.length_nil]
  have length : text.scans.length = seen.length + 1 := by
    rw [follows.split, List.length_append, last]
  constructor
  · rw [List.length_map, length]
  · rw [Scanner.faultsTo, ← length, List.take_length]

/-- What a concluded run reports: the faults up to the token in view, and behind them the violation
that ended the run, if one did. -/
theorem Settles.reports {accepts : Prop} (settles : Settles accepts here verdict)
    (follows : cursor.Follows file text seen here) :
    let lexical := (text.faultsTo seen.length).map fun fault => fault.diagnostic.under file
    let reported := (conclude verdict cursor).reporter.diagnostics.toList
    (verdict = .accepted ∧ here.words = [] ∧ reported = lexical) ∨
      ∃ error, verdict = .rejected error ∧ error.diagnostic.code.IsE1 ∧
        reported = lexical ++ [error.diagnostic.under file] := by
  obtain ⟨named, reports⟩ := follows.reports
  cases settles with
  | accepted _ isOver => exact Or.inl ⟨rfl, isOver, reports⟩
  | @rejected error _ syntactic =>
      refine Or.inr ⟨error, rfl, (ErrorCode.isE1_iff _).mpr syntactic, ?_⟩
      have last := (Reporter.reportAll_eq cursor.reporter [error.diagnostic]).2
      rw [named, reports] at last
      exact last

end Conclusion

theorem LexicalFault.isE0 (fault : LexicalFault) : fault.diagnostic.code.IsE0 :=
  (ErrorCode.isE0_iff _).mpr fault.error.code_isLexical

/-- No fault of scanning has a code of the grammar. -/
theorem LexicalFault.not_isE1 (fault : LexicalFault) : ¬ fault.diagnostic.code.IsE1 := by
  have lexical := (ErrorCode.isE0_iff _).mp fault.isE0
  rw [ErrorCode.isE1_iff, lexical]
  exact Bool.noConfusion

theorem Symbol.isE1_of_reject {dialect : Dialect} {current : Token} {symbol : Symbol}
    {error : SyntaxError} (expands : symbol.expand dialect current = .reject error) :
    error.diagnostic.code.IsE1 := by
  have proper := symbol.expand_proper dialect current
  rw [expands] at proper
  exact (ErrorCode.isE1_iff _).mpr proper

/-- The token in view where a parse ended is the one behind those that were consumed. -/
theorem parse_shows (dialect : Dialect) (source : Source) (file : Option String) :
    (lex dialect source).tokens[(parse dialect source file).cursor.consumed]? =
      some (parse dialect source file).cursor.current := by
  obtain ⟨verdict, cursor, seen, here, ended, follows, -⟩ := parse_settles dialect source file
  obtain ⟨current, consumed, -⟩ := conclude_eq verdict cursor
  obtain ⟨shown, -⟩ := follows.tokens
  rw [follows.consumed] at consumed
  simp only [ended, current, consumed]
  exact shown

/-- A parse comes to the end of the text and reports its faults, or it reports the faults up to the
token in view and behind them the violation that ended it. -/
theorem parse_reports (dialect : Dialect) (source : Source) (file : Option String) :
    let outcome := parse dialect source file
    let lexical := ((Scanner.start dialect source).faultsTo outcome.cursor.consumed).map
      fun fault => fault.diagnostic.under file
    (outcome.verdict = .accepted ∧ outcome.cursor.current.kind = .eot ∧
        outcome.reports = lexical) ∨
      ∃ error, outcome.verdict = .rejected error ∧ error.diagnostic.code.IsE1 ∧
        outcome.reports = lexical ++ [error.diagnostic.under file] := by
  obtain ⟨verdict, cursor, seen, here, ended, follows, settles⟩ :=
    parse_settles dialect source file
  obtain ⟨current, consumed, -⟩ := conclude_eq verdict cursor
  have reported := settles.reports follows
  rw [follows.consumed] at consumed
  simp only [ended, Parse.reports, current, consumed]
  rcases reported with ⟨accepted, isOver, lexical⟩ | rejected
  · refine Or.inl ⟨accepted, ?_, lexical⟩
    rw [follows.current_eq_frontOf, isOver]
    exact Scanner.kind_stop here
  · exact Or.inr rejected

/-- **Recognition follows the token list, and the first violation ends it.** The token in view is
the one behind those that were consumed, which are never the end. What is reported is what scanning
up to the token in view reports, and behind it at most one violation, which comes last; without a
violation the whole text was scanned. Scanning reports codes `E0…` only and the grammar codes `E1…`
only. -/
theorem parse_streams_tokens (dialect : Dialect) (source : Source) (file : Option String) :
    let text := Scanner.start dialect source
    let lexed := lex dialect source
    let outcome := parse dialect source file
    let consumed := outcome.cursor.consumed
    let lexical := (text.faultsTo consumed).map fun fault => fault.diagnostic.under file
    (∃ before last, lexed.tokens = before ++ [last] ∧ last.kind = .eot ∧
      ∀ token ∈ before, token.kind ≠ .eot) ∧
    lexed.tokens[consumed]? = some outcome.cursor.current ∧
    consumedTokens outcome.cursor.trace = lexed.tokens.take consumed ∧
    (∀ token ∈ consumedTokens outcome.cursor.trace, token.kind ≠ .eot) ∧
    ((outcome.verdict = .accepted ∧ outcome.reports = lexical) ∨
      ∃ error, outcome.verdict = .rejected error ∧ error.diagnostic.code.IsE1 ∧
        outcome.reports = lexical ++ [error.diagnostic.under file]) ∧
    ((∀ diagnostic ∈ outcome.reports, ¬ diagnostic.code.IsE1) →
      consumed + 1 = lexed.tokens.length ∧
        outcome.reports = lexed.faults.map fun fault => fault.diagnostic.under file) ∧
    (∀ scanner : Scanner, ∀ fault ∈ scanner.scan.faults, fault.diagnostic.code.IsE0) ∧
    (∀ (current : Token) (symbol : Symbol) (error : SyntaxError),
      symbol.expand dialect current = .reject error → error.diagnostic.code.IsE1) := by
  obtain ⟨verdict, cursor, seen, here, ended, follows, settles⟩ :=
    parse_settles dialect source file
  obtain ⟨current, consumed, trace⟩ := conclude_eq verdict cursor
  obtain ⟨shown, taken⟩ := follows.tokens
  have reported := settles.reports follows
  rw [follows.consumed] at consumed
  simp only [ended, Parse.reports, current, consumed, trace, follows.trace]
  refine ⟨⟨_, _, tokens_lex dialect source, Scanner.kind_stop _,
    fun _ => Scanner.kind_ne_eot_of_mem_words⟩, shown, taken.symm, ?_, ?_, ?_,
    fun _ fault _ => fault.isE0, fun _ _ _ => Symbol.isE1_of_reject⟩
  · -- what was consumed are words
    intro token member
    have word : token ∈ (Scanner.start dialect source).words := by
      rw [follows.words]
      exact List.mem_append_left _ member
    exact Scanner.kind_ne_eot_of_mem_words word
  · rcases reported with ⟨accepted, _, lexical⟩ | rejected
    · exact Or.inl ⟨accepted, lexical⟩
    · exact Or.inr rejected
  · -- a rejection would have reported a violation, so the parse was accepted
    intro silent
    rcases reported with ⟨_, isOver, lexical⟩ | ⟨error, _, syntactic, last⟩
    · obtain ⟨length, faults⟩ := follows.all_of_words_nil isOver
      rw [faults] at lexical
      exact ⟨length, lexical⟩
    · refine absurd syntactic (silent (error.diagnostic.under file) ?_)
      rw [last]
      exact List.mem_append_right _ List.mem_cons_self

end MiniJ
