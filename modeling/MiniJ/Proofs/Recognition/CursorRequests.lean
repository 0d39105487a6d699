import MiniJ.Proofs.Recognition.Streaming
import MiniJ.Proofs.Scanning.Ending

/-!
# Requests to a token cursor

A token cursor answers five kinds of requests (`TokenCursor.Request`). A request moves it over at most
one token, whatever was asked before, and otherwise leaves it as it is. So the number of tokens consumed
says all about the cursor: the token in view is the one with that number, and what was reported is what
scanning reports as far as that token (`TokenCursor.Shows`). The end may be consumed too. The scanner then
gives it once more and reports nothing (`Scanner.scan_behind_end`), so the number goes on and the rest
stays.

The main statement is `cursor_requests`.
-/

set_option autoImplicit false

namespace MiniJ

/-! ## Scans by number -/

namespace Scanner

variable {scanner : Scanner}

/-- The outcome of asking for a token after `count` others. -/
def nthScan : Nat → Scanner → Scan
  | 0, scanner => scanner.scan
  | count + 1, scanner => nthScan count scanner.scan.next

/-- What is wrong with the text, as far as asking a number of times says. -/
def faultsOf (count : Nat) (scanner : Scanner) : List LexicalFault :=
  (scanner.scanTimes count).flatMap Scan.faults

theorem nthScan_succ (count : Nat) (scanner : Scanner) :
    scanner.nthScan (count + 1) = (scanner.nthScan count).next.scan := by
  induction count generalizing scanner with
  | zero => rfl
  | succ count ih => exact ih scanner.scan.next

theorem scanTimes_succ (count : Nat) (scanner : Scanner) :
    scanner.scanTimes (count + 1) = scanner.scanTimes count ++ [scanner.nthScan count] := by
  induction count generalizing scanner with
  | zero => rfl
  | succ count ih =>
      rw [scanTimes, ih, scanTimes, List.cons_append]
      rfl

theorem faultsOf_succ (count : Nat) (scanner : Scanner) :
    scanner.faultsOf (count + 1) = scanner.faultsOf count ++ (scanner.nthScan count).faults := by
  rw [faultsOf, scanTimes_succ, List.flatMap_append, List.flatMap_singleton, faultsOf]

/-- **Behind the end a scanner gives the same end**, and nothing is reported. -/
theorem scan_behind_end (ended : scanner.scan.token.kind = .eot) :
    scanner.scan.next.scan = ⟨scanner.scan.token, [], scanner.scan.next⟩ := by
  cases isFinished : scanner.finished with
  | true =>
      have same : scanner.scan = ⟨.endAt scanner.cursor.position, [], scanner⟩ := by
        rw [scan, if_pos isFinished]
      rw [same, same]
  | false =>
      rw [scan_of_open isFinished] at ended ⊢
      obtain ⟨place, finished⟩ := (scanFrom_ends scanner.dialect scanner.cursor).1 ended
      rw [scan, if_pos finished, ← place]

/-- Whoever asks on behind the end gets what was given and reported there. -/
theorem nthScan_of_end (ended : scanner.scan.token.kind = .eot) (count : Nat) :
    (scanner.nthScan count).token = scanner.scan.token ∧
      scanner.faultsOf (count + 1) = scanner.scan.faults := by
  induction count generalizing scanner with
  | zero => exact ⟨rfl, List.append_nil _⟩
  | succ count ih =>
      -- the next scan is this one without its reports, so it ends there too
      have again := scan_behind_end ended
      have stays : scanner.scan.next.scan.token.kind = .eot := by
        rw [again]
        exact ended
      obtain ⟨token, faults⟩ := ih stays
      rw [again] at token faults
      refine ⟨token, ?_⟩
      rw [faultsOf, scanTimes, List.flatMap_cons, ← faultsOf, faults, List.append_nil]

/-- The number of the last token that a scanner gives for the first time. -/
def lastNumber (scanner : Scanner) : Nat :=
  scanner.scans.length - 1

theorem lastNumber_of_more (more : scanner.scan.token.kind ≠ .eot) :
    scanner.lastNumber = scanner.scan.next.lastNumber + 1 := by
  have nonempty := List.length_pos_iff.mpr scanner.scan.next.scans_ne_nil
  rw [lastNumber, lastNumber, scans_of_more more, List.length_cons]
  omega

/-- **Any number of scans, found in the token list of the text.** From the last token on it stays with
that token and with what is wrong with the whole text. -/
theorem nthScan_eq (count : Nat) (scanner : Scanner) :
    (scanner.scans.map Scan.token)[min count scanner.lastNumber]? =
        some (scanner.nthScan count).token ∧
      scanner.faultsOf (count + 1) = scanner.faultsTo (min count scanner.lastNumber) := by
  induction scanner using scans_induction generalizing count with
  | finished scanner ended =>
      -- the last token is the first one, whatever the number
      obtain ⟨token, faults⟩ := nthScan_of_end ended count
      have last : min count scanner.lastNumber = 0 := by
        rw [lastNumber, scans_of_end ended]
        exact Nat.min_zero count
      rw [token, faults, last, faultsTo, scans_of_end ended]
      exact ⟨rfl, (List.append_nil _).symm⟩
  | more scanner more ih =>
      rw [lastNumber_of_more more, faultsTo, scans_of_more more]
      cases count with
      | zero =>
          rw [Nat.zero_min, faultsOf, scanTimes, scanTimes]
          exact ⟨rfl, rfl⟩
      | succ count =>
          obtain ⟨token, faults⟩ := ih count
          rw [Nat.add_min_add_right, faultsOf, scanTimes, List.flatMap_cons, ← faultsOf, faults]
          exact ⟨token, rfl⟩

end Scanner

/-! ## Requests -/

namespace TokenCursor

/-- What a token cursor can be asked for. -/
inductive Request where
  /-- To consume the token in view. -/
  | advance
  /-- To consume it if it is of a kind. -/
  | eat (kind : TokenKind)
  /-- To say whether it is of a kind. -/
  | check (kind : TokenKind)
  /-- To consume it, which must be of a kind. -/
  | expect (kind : TokenKind)
  /-- To consume it, which must be of one of some kinds. -/
  | expectAny (kinds : List TokenKind)
  deriving DecidableEq

/-- What a token cursor replies. -/
inductive Reply where
  | token (consumed : Token)
  | truth (holds : Bool)
  | error (error : SyntaxError)
  deriving DecidableEq

/-- The reply with a token or an error. -/
def Reply.ofResult : Except SyntaxError Token → Reply
  | .ok consumed => token consumed
  | .error missing => error missing

/-- Whether a reply says that the token in view was as it was asked for. -/
def Reply.succeeds : Reply → Bool
  | token _ => true
  | truth holds => holds
  | error _ => false

/-- Whether a request is for a token of a kind. -/
def Request.admits (found : TokenKind) : Request → Bool
  | advance => true
  | eat kind | check kind | expect kind => found = kind
  | expectAny kinds => found ∈ kinds

/-- Whether a request is for the token itself and not for whether it is there. -/
def Request.wantsToken : Request → Bool
  | advance | expect _ | expectAny _ => true
  | eat _ | check _ => false

/-- Whether a token is consumed by a request that got a reply: every request but one consumes the token
that it was for. -/
def consumes : Request × Reply → Bool
  | (.check _, _) => false
  | (_, reply) => reply.succeeds

/-- Reply to a request. -/
def reply (cursor : TokenCursor) : Request → Reply × TokenCursor
  | .advance => (.token cursor.current, cursor.advance)
  | .eat kind => (.truth (cursor.eat kind).1, (cursor.eat kind).2)
  | .check kind => (.truth (cursor.check kind), cursor)
  | .expect kind => (.ofResult (cursor.expect kind).1, (cursor.expect kind).2)
  | .expectAny kinds => (.ofResult (cursor.expectAny kinds).1, (cursor.expectAny kinds).2)

/-- Reply to requests, one after the other, and keep each with its reply. -/
def replyAll (cursor : TokenCursor) : List Request → List (Request × Reply) × TokenCursor
  | [] => ([], cursor)
  | request :: requests =>
    let (answer, next) := cursor.reply request
    let (answers, last) := next.replyAll requests
    ((request, answer) :: answers, last)

/-- How a cursor replies to a request: with success just if the token in view is as asked for, with that
token or the error that it is not where the token is wanted, and moving on if the token is consumed. -/
structure Replies (cursor : TokenCursor) (request : Request) (reply : Reply) (next : TokenCursor) :
    Prop where
  succeeds : reply.succeeds = request.admits cursor.current.kind
  next : next = if consumes (request, reply) then cursor.advance else cursor
  truth : request.wantsToken = false → reply = .truth (request.admits cursor.current.kind)
  token : request.wantsToken = true → reply.succeeds = true → reply = .token cursor.current
  error : request.wantsToken = true → reply.succeeds = false → ∃ error,
    reply = .error error ∧ error.code.text = "E1001" ∧ error.position = cursor.current.position

variable {cursor : TokenCursor}

theorem replies_expectAny (kinds : List TokenKind) :
    cursor.Replies (.expectAny kinds) (.ofResult (cursor.expectAny kinds).1)
      (cursor.expectAny kinds).2 := by
  rw [expectAny]
  split
  · rename_i found
    refine ⟨(decide_eq_true found).symm, rfl, ?_, fun _ _ => rfl, ?_⟩
    · rintro ⟨⟩
    · rintro - ⟨⟩
  · rename_i missing
    refine ⟨(decide_eq_false missing).symm, rfl, ?_, ?_, fun _ _ => ⟨_, rfl, rfl, rfl⟩⟩
    · rintro ⟨⟩
    · rintro - ⟨⟩

theorem replies_expect (kind : TokenKind) :
    cursor.Replies (.expect kind) (.ofResult (cursor.expect kind).1) (cursor.expect kind).2 := by
  have one : Request.admits cursor.current.kind (.expectAny [kind]) =
      Request.admits cursor.current.kind (.expect kind) := by
    simp [Request.admits]
  obtain ⟨succeeds, next, -, token, error⟩ := cursor.replies_expectAny [kind]
  refine ⟨succeeds.trans one, next, ?_, token, error⟩
  rintro ⟨⟩

theorem replies_eat (kind : TokenKind) :
    cursor.Replies (.eat kind) (.truth (cursor.eat kind).1) (cursor.eat kind).2 := by
  have holds : (cursor.eat kind).1 = cursor.check kind := by
    rw [eat]
    split
    · rename_i found
      exact found.symm
    · rename_i missing
      exact (Bool.eq_false_iff.mpr missing).symm
  have moved : (cursor.eat kind).2 = if cursor.check kind then cursor.advance else cursor := by
    rw [eat]
    split <;> rfl
  rw [holds]
  refine ⟨rfl, moved, fun _ => rfl, ?_, ?_⟩
  · rintro ⟨⟩
  · rintro ⟨⟩

theorem replies_check (kind : TokenKind) :
    cursor.Replies (.check kind) (.truth (cursor.check kind)) cursor := by
  refine ⟨rfl, rfl, fun _ => rfl, ?_, ?_⟩
  · rintro ⟨⟩
  · rintro ⟨⟩

theorem replies_advance : cursor.Replies .advance (.token cursor.current) cursor.advance := by
  refine ⟨rfl, rfl, ?_, fun _ _ => rfl, ?_⟩
  · rintro ⟨⟩
  · rintro - ⟨⟩

/-- **One request.** -/
theorem replies_reply (cursor : TokenCursor) (request : Request) :
    cursor.Replies request (cursor.reply request).1 (cursor.reply request).2 := by
  cases request with
  | advance => exact replies_advance
  | eat kind => exact replies_eat kind
  | check kind => exact replies_check kind
  | expect kind => exact replies_expect kind
  | expectAny kinds => exact replies_expectAny kinds

/-! ## Any number of requests -/

/-- That a cursor over a text shows the token that comes behind as many as were consumed, and has reported
what scanning reports as far as that token. -/
structure Shows (file : Option String) (text : Scanner) (cursor : TokenCursor) : Prop where
  current : cursor.current = (text.nthScan cursor.consumed).token
  behind : cursor.scanner = (text.nthScan cursor.consumed).next
  reporter : cursor.reporter = (Reporter.empty file).reportAll
    ((text.faultsOf (cursor.consumed + 1)).map LexicalFault.diagnostic)

variable {file : Option String} {text : Scanner}

theorem shows_start (file : Option String) (text : Scanner) :
    (start text (.empty file)).Shows file text where
  current := rfl
  behind := rfl
  reporter := by
    rw [Scanner.faultsOf_succ]
    rfl

/-- Consuming a token, the end too, brings the next one into view. -/
theorem Shows.advance (shows_ : cursor.Shows file text) : cursor.advance.Shows file text where
  current := by
    rw [TokenCursor.advance, Scanner.nthScan_succ, ← shows_.behind]
  behind := by
    rw [TokenCursor.advance, Scanner.nthScan_succ, ← shows_.behind]
  reporter := by
    rw [TokenCursor.advance, Scanner.faultsOf_succ, List.map_append, Reporter.reportAll_append,
      ← shows_.reporter, Scanner.nthScan_succ, ← shows_.behind]

theorem Shows.reply (shows_ : cursor.Shows file text) (request : Request) :
    (cursor.reply request).2.Shows file text := by
  rw [(replies_reply cursor request).next]
  split
  · exact shows_.advance
  · exact shows_

/-- **Whatever is asked, the cursor shows the token behind those that were consumed.** The induction is
on the requests; each of them moves the cursor just if it counts. -/
theorem Shows.replyAll (shows_ : cursor.Shows file text) (requests : List Request) :
    (cursor.replyAll requests).2.Shows file text ∧
      (cursor.replyAll requests).2.consumed =
        cursor.consumed + (cursor.replyAll requests).1.countP consumes := by
  induction requests generalizing cursor with
  | nil => exact ⟨shows_, rfl⟩
  | cons request requests ih =>
      obtain ⟨last, count⟩ := ih (shows_.reply request)
      refine ⟨last, ?_⟩
      have moved : (cursor.reply request).2.consumed =
          cursor.consumed + if consumes (request, (cursor.reply request).1) then 1 else 0 := by
        rw [(replies_reply cursor request).next]
        split <;> rfl
      have answers : (cursor.replyAll (request :: requests)).1 =
          (request, (cursor.reply request).1) ::
            ((cursor.reply request).2.replyAll requests).1 := rfl
      have ending : (cursor.replyAll (request :: requests)).2 =
          ((cursor.reply request).2.replyAll requests).2 := rfl
      rw [ending, count, moved, answers, List.countP_cons]
      omega

/-- What a cursor has reported, as diagnostics. -/
theorem Shows.reports (shows_ : cursor.Shows file text) :
    cursor.reporter.diagnostics.toList =
      (text.faultsOf (cursor.consumed + 1)).map fun fault => fault.diagnostic.under file := by
  have reports := (Reporter.reportAll_eq (.empty file)
    ((text.faultsOf (cursor.consumed + 1)).map LexicalFault.diagnostic)).2
  rw [← shows_.reporter, List.map_map] at reports
  exact reports

end TokenCursor

/-- **The number of consumed tokens says all about a token cursor.** Whatever it was asked before, also
behind the end, that number counts the requests that consumed a token. The token in view is the one with
this number and, from there on, the end; what was reported is what scanning reports as far as that token.
To one more request the cursor replies with success just if that token is as asked for, with the token
itself or an error `E1001` at its position, and unless the token is consumed nothing changes. -/
theorem cursor_requests (dialect : Dialect) (source : Source) (file : Option String)
    (requests : List TokenCursor.Request) :
    let text := Scanner.start dialect source
    let tokens := (lex dialect source).tokens
    let outcome := (TokenCursor.start text (.empty file)).replyAll requests
    let cursor := outcome.2
    let place := min cursor.consumed (tokens.length - 1)
    cursor.consumed = outcome.1.countP TokenCursor.consumes ∧
    tokens[place]? = some cursor.current ∧
    cursor.reporter.diagnostics.toList =
      ((text.faultsTo place).map fun fault => fault.diagnostic.under file) ∧
    ∀ request, cursor.Replies request (cursor.reply request).1 (cursor.reply request).2 := by
  intro text tokens outcome cursor place
  obtain ⟨shows_, count⟩ := (TokenCursor.shows_start file text).replyAll requests
  have last : text.lastNumber = tokens.length - 1 :=
    congrArg (· - 1) (List.length_map Scan.token).symm
  obtain ⟨token, faults⟩ := text.nthScan_eq cursor.consumed
  rw [last] at token faults
  refine ⟨count.trans (Nat.zero_add _), ?_, ?_, cursor.replies_reply⟩
  · rw [shows_.current]
    exact token
  · rw [shows_.reports, faults]

/-- The end is consumed twice, and a name is missing there. -/
example :
    let cursor := TokenCursor.start (.start .mini (.ofString "a")) (.empty none)
    (cursor.replyAll [.expect .ident, .advance, .advance, .expect .ident]).1.map Prod.snd =
      [.token ⟨.ident, "a", ⟨1, 1⟩⟩, .token (.endAt ⟨1, 2⟩), .token (.endAt ⟨1, 2⟩),
        .error (.expectedKinds [.ident] (.endAt ⟨1, 2⟩))] := by
  decide +kernel

end MiniJ
