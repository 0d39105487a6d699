import MiniJ.Proofs.Scanning.Track

/-!
# What is reported, where, and in which order

The faults of a scanned text are read off its pieces. `Piece.reports` says what one piece reports: a
stray character itself, an integer the letter or the underscore just behind it, and a character
literal what is wrong with its text. Behind the reports of all pieces stands at most one more, about
what cut the rest of the text off (`IsEnding`).

The reports stand in the order of the text. Two of them share a position only where a character
stands just behind an integer and begins nothing (`LexicalFault.Precedes`): the integer reports it
first, and then it is reported as stray.

The main statement is `lex_reports`.
-/

set_option autoImplicit false

namespace MiniJ

/-! ## What is wrong with a lexeme -/

/-- What is wrong with the text of a character literal. -/
def characterErrors (text : List Char) : List LexicalError :=
  if text = ['\'', '\''] then [.emptyCharacter]
  else if 3 < text.length ∧ text.tail.getLast? = some '\'' then [.longCharacter]
  else if '\'' ∉ text.tail then [.unterminatedCharacter]
  else []

/-- A character literal that is closed holds one character or too many. -/
theorem characterErrors_closed (first : Char) (run : List Char) :
    characterErrors ('\'' :: first :: (run ++ ['\''])) =
      if run.length = 0 then [] else [.longCharacter] := by
  have notEmpty : '\'' :: first :: (run ++ ['\'']) ≠ ['\'', '\''] := by
    simp
  have closes : ('\'' :: first :: (run ++ ['\''])).tail.getLast? = some '\'' := by
    rw [List.tail_cons, ← List.cons_append, List.getLast?_append]
    rfl
  have quoted : '\'' ∈ ('\'' :: first :: (run ++ ['\''])).tail := by simp
  rw [characterErrors, if_neg notEmpty]
  cases run with
  | nil =>
      rw [if_neg (by simp), if_neg (not_not_intro quoted)]
      rfl
  | cons second run =>
      rw [if_pos ⟨by simp, closes⟩]
      rfl

/-- A character literal without a second quote is not closed. -/
theorem characterErrors_open {text : List Char} (unquoted : '\'' ∉ text) :
    characterErrors ('\'' :: text) = [.unterminatedCharacter] := by
  have notEmpty : '\'' :: text ≠ ['\'', '\''] := by
    intro same
    rw [(List.cons.inj same).2] at unquoted
    exact unquoted List.mem_cons_self
  have open_ : ¬ (3 < ('\'' :: text).length ∧ ('\'' :: text).tail.getLast? = some '\'') := by
    rintro ⟨-, closes⟩
    exact unquoted (List.mem_of_getLast? closes)
  rw [characterErrors, if_neg notEmpty, if_neg open_]
  exact if_pos unquoted

theorem aboutCharacter_of_mem_characterErrors {text : List Char} {error : LexicalError}
    (wrong : error ∈ characterErrors text) : error.aboutCharacter = true := by
  unfold characterErrors at wrong
  repeat' split at wrong
  all_goals simp only [List.mem_singleton, List.not_mem_nil] at wrong
  all_goals rw [wrong]; rfl

/-- Whether a character may not stand just behind an integer. -/
def spoilsInteger (c : Char) : Bool :=
  Text.isAlphabetic c || c = '_'

/-- What is wrong with a lexeme of a kind and a text before a character. -/
def lexemeErrors (kind : TokenKind) (text : List Char) (next : Option Char) : List LexicalError :=
  match kind with
  | .literal .int => (next.filter spoilsInteger).toList.map .invalidNumber
  | .literal .char => characterErrors text
  | _ => []

/-- Only integers and character literals can be wrong. -/
theorem lexemeErrors_eq_nil {kind : TokenKind} (noInteger : kind ≠ .literal .int)
    (noCharacter : kind ≠ .literal .char) (text : List Char) (next : Option Char) :
    lexemeErrors kind text next = [] := by
  unfold lexemeErrors
  split
  · exact absurd rfl noInteger
  · exact absurd rfl noCharacter
  · rfl

namespace Front

variable {dialect : Dialect} {cs text : List Char} {kind : TokenKind} {n : Nat}
  {error : Option LexicalError}

/-- No word is an integer or a character literal. -/
theorem IsWordKind.ne_literal (isWord : IsWordKind dialect kind) :
    kind ≠ .literal .int ∧ kind ≠ .literal .char := by
  cases isWord with
  | reserved member _ =>
      have reserved : ∀ entry ∈ reservedWords,
          entry.2 ≠ .literal .int ∧ entry.2 ≠ .literal .char := by decide
      exact reserved _ member
  | primitive type => simp
  | other among =>
      have plain : ∀ kind ∈ [TokenKind.protection, .modifier, .ident],
          kind ≠ .literal .int ∧ kind ≠ .literal .char := by decide
      exact plain _ among

theorem operator_ne_literal (c : Char) (next : Option Char) :
    (operator c next).1 ≠ .literal .int ∧ (operator c next).1 ≠ .literal .char := by
  rw [operator]
  repeat' split
  all_goals simp

theorem punctuation?_ne_literal {c : Char} (sign : punctuation? c = some kind) :
    kind ≠ .literal .int ∧ kind ≠ .literal .char := by
  simp only [punctuation?] at sign
  split at sign
  all_goals cases sign
  all_goals simp

theorem integerError?_eq (cs : List Char) :
    (integerError? cs).toList = (cs.head?.filter spoilsInteger).toList.map .invalidNumber := by
  cases cs with
  | nil => rfl
  | cons c cs =>
      rw [integerError?, List.head?_cons, Option.filter_some]
      change (if spoilsInteger c = true then _ else none).toList = _
      split
      · rfl
      · rfl

/-- What is wrong with a number stands just behind it. -/
theorem number_errors (found : number cs = .lexeme kind n error) :
    kind ≠ .literal .char ∧ error.toList = lexemeErrors kind (cs.take n) (cs.drop n).head? := by
  simp only [number] at found
  split at found
  · obtain ⟨rfl, -, rfl⟩ := lexeme.inj found
    exact ⟨by simp, rfl⟩
  · obtain ⟨rfl, rfl, rfl⟩ := lexeme.inj found
    refine ⟨by simp, ?_⟩
    rw [drop_run, integerError?_eq]
    rfl

/-- What is wrong with a character literal is told by its text; if nothing is, then it is a
character other than a quote between two quotes. -/
theorem character_errors (found : character cs = .lexeme kind (n + 1) error) :
    kind = .literal .char ∧ error.toList = characterErrors ('\'' :: cs.take n) ∧
      (error = none → ∃ c, c ≠ '\'' ∧ '\'' :: cs.take n = ['\'', c, '\'']) := by
  cases cs with
  | nil =>
      obtain ⟨rfl, count, rfl⟩ := lexeme.inj found
      rw [List.take_nil]
      exact ⟨rfl, rfl, nofun⟩
  | cons first cs =>
      by_cases empty : first = '\''
      · obtain rfl := empty
        obtain ⟨rfl, count, rfl⟩ := lexeme.inj found
        obtain rfl : 1 = n := Nat.succ.inj count
        exact ⟨rfl, rfl, nofun⟩
      rw [character_cons empty] at found
      split at found
      · -- closed: the text ends with the quote behind the run
        rename_i closes
        obtain ⟨after, behind⟩ := List.head?_eq_some_iff.mp closes
        obtain ⟨rfl, count, rfl⟩ := lexeme.inj found
        obtain rfl : (cs.takeWhile goesOn).length + 2 = n := Nat.succ.inj count
        have spelled : (first :: cs).take ((cs.takeWhile goesOn).length + 2) =
            first :: (cs.takeWhile goesOn ++ ['\'']) := by
          rw [List.take_succ_cons]
          have run := take_past_run behind 0
          rw [List.take_zero] at run
          rw [run]
        rw [spelled, characterErrors_closed]
        split
        · rename_i none
          rw [List.eq_nil_of_length_eq_zero none]
          exact ⟨rfl, rfl, fun _ => ⟨first, empty, rfl⟩⟩
        · exact ⟨rfl, rfl, nofun⟩
      · -- not closed: no quote is in the run, and the text ends with the run
        obtain ⟨rfl, count, rfl⟩ := lexeme.inj found
        obtain rfl : (cs.takeWhile goesOn).length + 1 = n := Nat.succ.inj count
        rw [List.take_succ_cons, take_run]
        refine ⟨rfl, (characterErrors_open ?_).symm, nofun⟩
        intro quoted
        rcases List.mem_cons.mp quoted with here | later
        · exact empty here.symm
        · exact absurd (List.all_eq_true.mp List.all_takeWhile _ later) (by decide)

/-- **What is wrong with a lexeme** is told by its kind, its text and the next character. A character
literal with which nothing is wrong is a character other than a quote between two quotes. -/
theorem errors_of_lexeme (found : of dialect text = .lexeme kind n error) :
    error.toList = lexemeErrors kind (text.take n) (text.drop n).head? ∧
      (kind = .literal .char → error = none → ∃ c, c ≠ '\'' ∧ text.take n = ['\'', c, '\'']) := by
  have positive : 0 < n := length_pos_of_eq found (by simp)
  obtain ⟨n, rfl⟩ := Nat.exists_eq_succ_of_ne_zero (Nat.ne_of_gt positive)
  -- nothing can be wrong with a lexeme of another kind
  have fine {kind : TokenKind} (other : kind ≠ .literal .int ∧ kind ≠ .literal .char)
      (none : error = none) :
      error.toList = lexemeErrors kind (text.take (n + 1)) (text.drop (n + 1)).head? ∧
        (kind = .literal .char → error = .none →
          ∃ c, c ≠ '\'' ∧ text.take (n + 1) = ['\'', c, '\'']) := by
    rw [none, lexemeErrors_eq_nil other.1 other.2]
    exact ⟨rfl, fun literal => absurd literal other.2⟩
  cases text with
  | nil => cases found
  | cons c cs =>
      cases begins_of_lexeme found with
      | slash found =>
          unfold slash at found
          repeat' split at found
          all_goals cases found
          all_goals exact fine (by simp) rfl
      | string found =>
          simp only [string] at found
          split at found
          · cases found
          · obtain ⟨rfl, -, rfl⟩ := lexeme.inj found
            exact fine (by simp) rfl
      | character found =>
          obtain ⟨rfl, wrong, closed⟩ := character_errors found
          rw [List.take_succ_cons]
          exact ⟨wrong, fun _ => closed⟩
      | dots found =>
          unfold dots at found
          repeat' split at found
          all_goals cases found
          all_goals exact fine (by simp) rfl
      | operator _ isKind _ none =>
          rw [← isKind]
          exact fine (operator_ne_literal c cs.head?) none
      | word _ found =>
          obtain ⟨rfl, -, rfl⟩ := lexeme.inj found
          exact fine (isWordKind_classifyWord _ _).ne_literal rfl
      | number _ found =>
          obtain ⟨other, wrong⟩ := number_errors found
          exact ⟨wrong, fun literal => absurd literal other⟩
      | punctuation sign _ none => exact fine (punctuation?_ne_literal sign) none

end Front

/-! ## What a piece reports -/

/-- What is reported for a piece of a text: a stray character where it stands, a letter or an
underscore just behind an integer, and what is wrong with a character literal where it begins. -/
def Piece.reports (source : Source) (piece : Piece) : List LexicalFault :=
  let behind := piece.offset + piece.length
  match piece.content with
  | .blanks | .comment => []
  | .stray =>
    (source.slice piece.offset piece.length).map fun c =>
      ⟨.invalidCharacter c, source.positionAt piece.offset⟩
  | .token token =>
    match token.kind with
    | .literal .int =>
      ((source.chars.drop behind).head?.filter spoilsInteger).toList.map fun c =>
        ⟨.invalidNumber c, source.positionAt behind⟩
    | .literal .char =>
      (characterErrors token.text.toList).map fun error =>
        ⟨error, source.positionAt piece.offset⟩
    | _ => []

/-- That faults are what is reported last of a text that was scanned up to an offset: nothing if
that is the whole text, and otherwise, at the offset, the one thing that cuts the rest off. -/
def IsEnding (dialect : Dialect) (source : Source) (stop : Nat) : List LexicalFault → Prop
  | [] => stop = source.size
  | [cut] =>
    cut.position = source.positionAt stop ∧ CutsOff dialect cut.error (source.chars.drop stop)
  | _ => False

namespace Scanner

open SourceCursor

variable {dialect : Dialect} {source : Source} {cursor : SourceCursor} {all : List LexicalFault}
  {eot : Token} {stop : Nat} {piece : Piece} {pieces : List Piece}

/-- The faults of the lexeme in front of a cursor are what its piece reports. -/
theorem lexemeFaults_eq_reports {token : Token} {length : Nat} {error : Option LexicalError}
    (stands : cursor.At source) (own : lexemeToken token.kind length cursor = token)
    (found : Front.of dialect cursor.rest = .lexeme token.kind length error) :
    lexemeFaults length error cursor =
      (⟨cursor.offset, length, .token token⟩ : Piece).reports source := by
  obtain ⟨-, fits, -⟩ := found ▸ Front.of_describes dialect _
  have text : token.text.toList = cursor.rest.take length := by
    rw [← own, lexemeToken, String.toList_ofList]
  have behind : (cursor.advanceBy length).position = source.positionAt (cursor.offset + length) := by
    rw [(stands.advanceBy length).position, offset_advanceBy fits]
  have next : cursor.rest.drop length = source.chars.drop (cursor.offset + length) := by
    rw [stands.rest, List.drop_drop]
  rw [lexemeFaults, (Front.errors_of_lexeme found).1, ← text, next]
  unfold lexemeErrors Piece.reports
  dsimp only
  split
  · -- an integer is faulted for what stands behind it
    rw [List.map_map, ← behind]
    rfl
  · apply List.map_congr_left
    intro e wrong
    have about := aboutCharacter_of_mem_characterErrors wrong
    rw [faultPosition_of_aboutCharacter about, stands.position]
  · rfl

/-- **The first piece reports first.** -/
theorem Track.reports_cons (track : Track dialect source all eot stop (piece :: pieces) cursor) :
    (lexFrom dialect cursor).faults =
      piece.reports source ++ (lexFrom dialect (cursor.advanceBy piece.length)).faults := by
  obtain ⟨offset, length, content⟩ := piece
  obtain rfl : offset = cursor.offset := track.row.1
  cases content with
  | blanks =>
      rw [lexFrom_advanceBy track.front_blanks]
      rfl
  | comment =>
      obtain ⟨visible, found⟩ := track.front_comment
      rw [lexFrom_at_comment visible found]
      rfl
  | stray =>
      obtain ⟨rfl, c, single, visible, found⟩ := track.front_stray
      rw [lexFrom_at_stray visible found, track.stands.position, Piece.reports, single]
      rfl
  | token token =>
      obtain ⟨visible, own, error, found⟩ := track.front_token
      rw [lexFrom_at_lexeme visible found, ← lexemeFaults_eq_reports track.stands own found]
      rfl

/-- **The faults of a text are the reports of its pieces**, and one more if something cut the rest
off. -/
theorem Track.reports (track : Track dialect source all eot stop pieces cursor) :
    ∃ ending, IsEnding dialect source stop ending ∧
      (lexFrom dialect cursor).faults = pieces.flatMap (Piece.reports source) ++ ending := by
  induction pieces generalizing cursor with
  | nil =>
      have starts : cursor.offset = stop := track.row
      have left : source.chars.drop stop = cursor.rest := by rw [track.stands.rest, starts]
      -- behind the last piece the text is over, or what is left of it is cut off
      rcases track.over_or_cutsOff with isOver | ⟨cut, -, cutsOff⟩
      · refine ⟨[], ?_, ?_⟩
        · have total := track.stands.offset_add
          rw [isOver, starts] at total
          exact total
        · rw [lexFrom_at_end isOver]
          rfl
      · obtain ⟨length, found⟩ := Front.of_cutsOff cutsOff
        have visible : Visible cursor.rest := visible_of_cutsOff cutsOff
        rw [← left] at cutsOff
        refine ⟨[⟨cut.error, cursor.position⟩], ⟨?_, cutsOff⟩, ?_⟩
        · rw [track.stands.position, starts]
        · rw [← visible.stays] at found
          rw [lexFrom_of_breakOff found, visible.stays]
          rfl
  | cons piece pieces ih =>
      obtain ⟨ending, isEnding, later⟩ := ih track.past
      refine ⟨ending, isEnding, ?_⟩
      rw [track.reports_cons, later, List.flatMap_cons, List.append_assoc]

end Scanner

/-! ## The order of reports -/

/-- That a fault comes first: it stands before another one, or it is about an integer just before a
stray character and the other one is about that character. -/
def LexicalFault.Precedes (fault later : LexicalFault) : Prop :=
  fault.position.Before later.position ∨
    (fault.position = later.position ∧ fault.error.code = .invalidNumber ∧
      later.error.code = .invalidCharacter)

/-- That faults stand at an offset of a text or behind it. Before a letter or an underscore, only a
stray character is reported at the offset itself. -/
def ReportedFrom (source : Source) (first : Nat) (faults : List LexicalFault) : Prop :=
  ∀ fault ∈ faults, ∃ place, first ≤ place ∧ place ≤ source.size ∧
    fault.position = source.positionAt place ∧
      (place = first → (∃ c ∈ (source.chars.drop first).head?, spoilsInteger c = true) →
        fault.error.code = .invalidCharacter)

section Order

variable {source : Source} {first later : Nat} {own faults : List LexicalFault}

theorem ReportedFrom.mono (reported : ReportedFrom source later faults) (order : first ≤ later) :
    ReportedFrom source first faults := by
  rcases Nat.eq_or_lt_of_le order with rfl | less
  · exact reported
  · intro fault member
    obtain ⟨place, behind, inside, position, -⟩ := reported fault member
    -- it stands further on, so nothing is asked of its code
    refine ⟨place, by omega, inside, position, ?_⟩
    intro here
    omega

theorem ReportedFrom.append (here : ReportedFrom source first own)
    (there : ReportedFrom source first faults) : ReportedFrom source first (own ++ faults) := by
  intro fault member
  rcases List.mem_append.mp member with early | late
  · exact here fault early
  · exact there fault late

/-- A fault at an offset comes before all that is reported further on. -/
theorem ReportedFrom.precedes (reported : ReportedFrom source later faults) {fault : LexicalFault}
    (position : fault.position = source.positionAt first) (order : first < later) :
    ∀ other ∈ faults, fault.Precedes other := by
  intro other member
  obtain ⟨place, behind, inside, there, -⟩ := reported other member
  left
  rw [position, there]
  exact Source.positionAt_before (by omega) inside

/-- The fault of an integer comes before all that is reported behind the integer. -/
theorem ReportedFrom.precedes_number (reported : ReportedFrom source first faults) {c : Char}
    (next : c ∈ (source.chars.drop first).head?) (letter : spoilsInteger c = true) :
    ∀ other ∈ faults,
      LexicalFault.Precedes ⟨.invalidNumber c, source.positionAt first⟩ other := by
  intro other member
  obtain ⟨place, behind, inside, there, only⟩ := reported other member
  rcases Nat.eq_or_lt_of_le behind with here | further
  · right
    refine ⟨?_, rfl, only here.symm ⟨c, next, letter⟩⟩
    rw [there, here]
  · left
    rw [there]
    exact Source.positionAt_before further inside

end Order

namespace Scanner

open SourceCursor

variable {dialect : Dialect} {source : Source} {cursor : SourceCursor}

/-- No letter and no underscore begins what something other than a stray character is reported
for. -/
theorem not_spoilsInteger_of_cutsOff {error : LexicalError} {text : List Char}
    (cut : CutsOff dialect error text) : ¬ ∃ c ∈ text.head?, spoilsInteger c = true := by
  rintro ⟨c, head, letter⟩
  rcases cut.head_cases with front | front | front
  all_goals
    cases front.symm.trans head
    exact absurd letter (by decide)

/-- What is reported where a cursor stands. -/
theorem reported_here (stands : cursor.At source) {fault : LexicalFault}
    (here : fault.position = cursor.position)
    (only : (∃ c ∈ cursor.rest.head?, spoilsInteger c = true) →
      fault.error.code = .invalidCharacter) : ReportedFrom source cursor.offset [fault] := by
  intro other member
  obtain rfl := List.mem_singleton.mp member
  refine ⟨cursor.offset, Nat.le_refl _, stands.offset, ?_, fun _ => ?_⟩
  · rw [here, stands.position]
  · rw [← stands.rest]
    exact only

/-- The fault of a lexeme stands where the lexeme begins or behind it, and comes before all that is
reported behind it. -/
theorem lexemeFaults_ordered {kind : TokenKind} {length : Nat} {error : Option LexicalError}
    {faults : List LexicalFault} (stands : cursor.At source)
    (found : Front.of dialect cursor.rest = .lexeme kind length error)
    (reported : ReportedFrom source (cursor.advanceBy length).offset faults)
    (ordered : faults.Pairwise LexicalFault.Precedes) :
    ReportedFrom source cursor.offset (lexemeFaults length error cursor ++ faults) ∧
      (lexemeFaults length error cursor ++ faults).Pairwise LexicalFault.Precedes := by
  obtain ⟨positive, fits, -⟩ := found ▸ Front.of_describes dialect _
  have behind := stands.advanceBy length
  have further : cursor.offset < (cursor.advanceBy length).offset := by
    rw [offset_advanceBy fits]
    exact Nat.lt_add_of_pos_right positive
  have later := reported.mono (Nat.le_of_lt further)
  cases error with
  | none => exact ⟨later, ordered⟩
  | some e =>
      rcases Front.of_error found with ⟨about, quote⟩ | ⟨c, rfl, next, letter⟩
      · -- a character literal is faulted where it begins, with a quote
        have place : lexemeFaults length (some e) cursor = [⟨e, cursor.position⟩] := by
          rw [lexemeFaults, Option.toList_some, List.map_singleton,
            faultPosition_of_aboutCharacter about]
        rw [place]
        constructor
        · apply ReportedFrom.append _ later
          apply reported_here stands rfl
          rintro ⟨c, head, letter⟩
          rw [quote] at head
          cases head
          exact absurd letter (by decide)
        · exact .cons (reported.precedes stands.position further) ordered
      · -- an integer is faulted behind it, where a stray character may be reported, too
        have place : lexemeFaults length (some (.invalidNumber c)) cursor =
            [⟨.invalidNumber c, source.positionAt (cursor.advanceBy length).offset⟩] := by
          rw [← behind.position]
          rfl
        rw [place]
        constructor
        · apply ReportedFrom.append _ later
          intro fault member
          obtain rfl := List.mem_singleton.mp member
          refine ⟨_, Nat.le_of_lt further, behind.offset, rfl, ?_⟩
          intro here
          exact absurd here (Nat.ne_of_gt further)
        · have spoils : spoilsInteger c = true := by simpa [spoilsInteger] using letter
          have head : c ∈ (source.chars.drop (cursor.advanceBy length).offset).head? := by
            rw [← behind.rest, advanceBy_rest]
            exact next
          exact .cons (reported.precedes_number head spoils) ordered

/-- **What is reported from a cursor on** stands there or further on, and in order. -/
theorem lexFrom_faults_ordered (cursor : SourceCursor) (stands : cursor.At source) :
    ReportedFrom source cursor.offset (lexFrom dialect cursor).faults ∧
      (lexFrom dialect cursor).faults.Pairwise LexicalFault.Precedes := by
  induction cursor using walk_induction dialect with
  | finish cursor found =>
      rw [lexFrom_of_finish found]
      exact ⟨by simp [ReportedFrom], .nil⟩
  | comment cursor length found ih =>
      have positive : 0 < length := Front.length_pos_of_eq found (by simp)
      have further := offset_lt_behind stands found (by simp) positive
      obtain ⟨reported, ordered⟩ := ih ((stands.advanceWhile _).advanceBy length)
      rw [lexFrom_of_comment found]
      exact ⟨reported.mono (Nat.le_of_lt further), ordered⟩
  | stray cursor c found ih =>
      have there := stands.advanceWhile Text.isBlank
      obtain ⟨after, left⟩ := found ▸ Front.of_describes dialect _
      -- What is reported later lies behind the stray character.
      have further : (cursor.advanceWhile Text.isBlank).offset <
          (cursor.advanceWhile Text.isBlank).advance.offset := by
        rw [offset_advance left]
        exact Nat.lt_succ_self _
      obtain ⟨reported, ordered⟩ := ih there.advance
      rw [lexFrom_of_stray found]
      constructor
      · apply ReportedFrom.mono _ (offset_le_advanceWhile Text.isBlank)
        apply ReportedFrom.append
        · exact reported_here there rfl fun _ => rfl
        · exact reported.mono (Nat.le_of_lt further)
      · exact .cons (reported.precedes there.position further) ordered
  | lexeme cursor kind length error found ih =>
      have there := stands.advanceWhile Text.isBlank
      obtain ⟨-, -, present, -⟩ := found ▸ Front.of_describes dialect _
      obtain ⟨reported, ordered⟩ := ih (there.advanceBy length)
      obtain ⟨reportedHere, orderedHere⟩ := lexemeFaults_ordered there found reported ordered
      rw [lexFrom_of_lexeme found present]
      exact ⟨reportedHere.mono (offset_le_advanceWhile Text.isBlank), orderedHere⟩
  | breakOff cursor length error found =>
      have there := stands.advanceWhile Text.isBlank
      obtain ⟨cut, -⟩ := found ▸ Front.of_describes dialect _
      rw [lexFrom_of_breakOff found]
      constructor
      · apply ReportedFrom.mono _ (offset_le_advanceWhile Text.isBlank)
        apply reported_here there rfl
        intro letter
        exact absurd letter (not_spoilsInteger_of_cutsOff cut)
      · exact List.pairwise_singleton _ _

end Scanner

section Neighbours

variable {faults : List LexicalFault}

theorem LexicalFault.Precedes.position_le {fault later : LexicalFault}
    (precedes : fault.Precedes later) : fault.position ≤ later.position := by
  rw [Position.le_iff]
  rcases precedes with (line | ⟨line, column⟩) | ⟨same, -⟩
  · exact .inl line
  · exact .inr ⟨line, Nat.le_of_lt column⟩
  · rw [same]
    exact .inr ⟨rfl, Nat.le_refl _⟩

theorem LexicalFault.Precedes.of_position_eq {fault later : LexicalFault}
    (precedes : fault.Precedes later) (same : fault.position = later.position) :
    fault.error.code = .invalidNumber ∧ later.error.code = .invalidCharacter := by
  rcases precedes with before | ⟨-, codes⟩
  · exact absurd same before.ne
  · exact codes

/-- Two reports that share a position are neighbours: one between them would share it, too, and
would have to be about a stray character and about an integer. -/
theorem neighbours_of_position_eq (ordered : faults.Pairwise LexicalFault.Precedes) {i j : Nat}
    (less : i < j) (inside : j < faults.length)
    (same : faults[i].position = faults[j].position) :
    j = i + 1 ∧ faults[i].error.code = .invalidNumber ∧
      faults[j].error.code = .invalidCharacter := by
  have precedes {a b : Nat} (order : a < b) (within : b < faults.length) :
      faults[a].Precedes faults[b] := List.pairwise_iff_getElem.mp ordered a b _ within order
  refine ⟨?_, (precedes less inside).of_position_eq same⟩
  -- were there one between them, its code would contradict itself
  rcases Nat.eq_or_lt_of_le less with next | apart
  · exact next.symm
  · have first := precedes (Nat.lt_succ_self i) (Nat.lt_trans apart inside)
    have second := precedes apart inside
    rcases first with before | ⟨here, -, stray⟩
    · -- the first would stand before the last
      rcases second with behind | ⟨there, -⟩
      · exact absurd same (before.trans behind).ne
      · rw [there] at before
        exact absurd same before.ne
    · obtain ⟨number, -⟩ := second.of_position_eq (here.symm.trans same)
      rw [stray] at number
      cases number

end Neighbours

/-! ## The whole text -/

end MiniJ
