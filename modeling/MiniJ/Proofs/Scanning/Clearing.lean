import MiniJ.Proofs.Scanning.Again
import MiniJ.Proofs.Scanning.Places

/-!
# Clearing comments and stray characters

`Scanner.Clears` is what becomes of the text behind a cursor when its comments and its stray
characters are blanked out: a space stands for each character, and line ends stay. The tokens that
are found there are the same, at the same positions, and so are the faults that outlast it
(`Scanner.Clears.lexFrom_again`).

What follows a lexeme may become a space, so each lexeme has to be found again: the text that follows
it now replaces the one that did (`Scanner.Clears.replaces`), and then `Front.of_replaced` applies.
-/

set_option autoImplicit false

namespace MiniJ

/-! ## Blanked characters -/

/-- A space instead of a character, unless the character ends a line. -/
def blankOut (c : Char) : Char :=
  if c = '\n' then c else ' '

theorem isBlank_blankOut (c : Char) : Text.isBlank (blankOut c) = true := by
  rw [blankOut]
  split
  · rename_i lineEnd
    rw [lineEnd]
    decide
  · decide

theorem Position.after_blankOut (p : Position) (c : Char) : p.after (blankOut c) = p.after c := by
  rw [blankOut]
  split
  · rfl
  · rename_i inLine
    rw [Position.after, Position.after, if_neg inLine, if_neg (by decide)]

/-- Line ends stay where they are, so positions do, too. -/
theorem Position.afterAll_blankOut (p : Position) (cs : List Char) :
    p.afterAll (cs.map blankOut) = p.afterAll cs := by
  induction cs generalizing p with
  | nil => rfl
  | cons c cs ih =>
      rw [List.map_cons, Position.afterAll_cons, Position.afterAll_cons, Position.after_blankOut, ih]

/-! ## Faults that are left -/

/-- Whether a fault, one of many, is still there when comments and stray characters are blanked out:
it is not about them, and it is not about an integer just before a stray character. -/
def LexicalFault.outlasts (faults : List LexicalFault) (fault : LexicalFault) : Bool :=
  match fault.error.code with
  | .invalidCharacter | .unterminatedComment => false
  | .invalidNumber => fault.position ∉ strayPositions faults
  | _ => true

/-- A part of what scanning a text gave, without the faults that do not outlast blanking out. -/
def Lexed.outlasting (all : List LexicalFault) (lexed : Lexed) : Lexed :=
  ⟨lexed.tokens, lexed.faults.filter (LexicalFault.outlasts all)⟩

theorem Lexed.outlasting_prepend (all : List LexicalFault) (tokens : List Token)
    (faults : List LexicalFault) (lexed : Lexed) :
    (lexed.prepend tokens faults).outlasting all =
      (lexed.outlasting all).prepend tokens (faults.filter (LexicalFault.outlasts all)) := by
  rw [Lexed.prepend, Lexed.outlasting, List.filter_append]
  rfl

namespace Scanner

open SourceCursor

variable {dialect : Dialect} {source : Source} {cursor : SourceCursor} {all : List LexicalFault}
  {text : List Char}

/-! ## The text behind a cursor -/

/-- What becomes of the text behind a cursor when its comments and stray characters are blanked
out. -/
inductive Clears (dialect : Dialect) : SourceCursor → List Char → Prop where
  /-- Nothing is left of a text that is over. -/
  | finish {cursor : SourceCursor} (isOver : cursor.rest = []) : Clears dialect cursor []
  /-- A comment that is never closed becomes blanks; what breaks off otherwise is left. -/
  | breakOff {cursor : SourceCursor} {length : Nat} {error : LexicalError}
      (visible : Visible cursor.rest)
      (found : Front.of dialect cursor.rest = .breakOff length error) :
      Clears dialect cursor
        (if error = .unterminatedComment then cursor.rest.map blankOut else cursor.rest)
  /-- A blank stays what it is, so that lines and columns do not change. -/
  | blank {cursor : SourceCursor} {c : Char} {after text : List Char}
      (isBlank : Text.isBlank c = true) (left : cursor.rest = c :: after)
      (behind : Clears dialect cursor.advance text) : Clears dialect cursor (c :: text)
  /-- A comment becomes blanks. -/
  | comment {cursor : SourceCursor} {length : Nat} {text : List Char}
      (visible : Visible cursor.rest) (found : Front.of dialect cursor.rest = .comment length)
      (behind : Clears dialect (cursor.advanceBy length) text) :
      Clears dialect cursor ((cursor.rest.take length).map blankOut ++ text)
  /-- A stray character becomes a blank. -/
  | stray {cursor : SourceCursor} {c : Char} {text : List Char}
      (visible : Visible cursor.rest) (found : Front.of dialect cursor.rest = .stray c)
      (behind : Clears dialect cursor.advance text) :
      Clears dialect cursor (blankOut c :: text)
  /-- A lexeme is left. -/
  | lexeme {cursor : SourceCursor} {kind : TokenKind} {length : Nat} {error : Option LexicalError}
      {text : List Char} (visible : Visible cursor.rest)
      (found : Front.of dialect cursor.rest = .lexeme kind length error)
      (behind : Clears dialect (cursor.advanceBy length) text) :
      Clears dialect cursor (cursor.rest.take length ++ text)

/-- A run of blanks stays. -/
theorem Clears.blanks {n : Nat} (blanks : ∀ c ∈ cursor.rest.take n, Text.isBlank c = true)
    (behind : Clears dialect (cursor.advanceBy n) text) :
    Clears dialect cursor (cursor.rest.take n ++ text) := by
  induction n generalizing cursor with
  | zero => exact behind
  | succ n ih =>
      cases left : cursor.rest with
      | nil =>
          rw [advanceBy, advance_of_nil left] at behind
          have same : Clears dialect cursor (cursor.rest.take n ++ text) :=
            ih (by simp [left]) behind
          rw [left] at same
          simpa using same
      | cons c after =>
          have rest : cursor.advance.rest = after := by rw [advance_rest, left, List.tail_cons]
          rw [left, List.take_succ_cons] at blanks
          have same : Clears dialect cursor.advance (cursor.advance.rest.take n ++ text) := ih (by
            rw [rest]
            exact fun d member => blanks d (List.mem_cons_of_mem c member)) behind
          rw [rest] at same
          exact .blank (blanks c List.mem_cons_self) left same

/-- A character with which a comment begins becomes a space. -/
theorem head_map_blankOut {cs : List Char} {c : Char} (head : cs.head? = some c)
    (inLine : c ≠ '\n') : (cs.map blankOut).head? = some ' ' := by
  rw [List.head?_map, head, Option.map_some, blankOut, if_neg inLine]

/-- **What becomes of a text begins like it, or with a space** instead of a comment or a stray
character. -/
theorem Clears.replaces (clears : Clears dialect cursor text) :
    (Front.Replaces cursor.rest text true ∧ ¬ AtStray dialect cursor.rest) ∨
      (Front.Replaces cursor.rest text false ∧
        (cursor.rest.head? = some '/' ∨ AtStray dialect cursor.rest)) := by
  cases clears with
  | finish isOver =>
      rw [isOver]
      refine .inl ⟨.alike rfl, ?_⟩
      rintro ⟨-, c, found⟩
      cases found
  | breakOff visible found =>
      rename_i length error
      split
      · rename_i comment
        obtain ⟨cut, -⟩ := found ▸ Front.of_describes dialect _
        rw [comment] at cut
        obtain ⟨body, left, -⟩ := cut
        have slash : cursor.rest.head? = some '/' := by rw [left, List.head?_cons]
        exact .inr ⟨.space slash (by decide) (head_map_blankOut slash (by decide)), .inl slash⟩
      · refine .inl ⟨.alike rfl, ?_⟩
        rintro ⟨-, c, strayed⟩
        rw [found] at strayed
        cases strayed
  | blank isBlank left behind =>
      -- no stray character is in front of a cursor that stands before a blank
      rename_i c after rest
      refine .inl ⟨.alike (by rw [left, List.head?_cons, List.head?_cons]), ?_⟩
      rintro ⟨visible, -⟩
      rw [left] at visible
      rw [visible c rfl] at isBlank
      cases isBlank
  | comment visible found behind =>
      rename_i length rest
      have first := head_of_comment found
      have slash := head_of_head_take first
      refine .inr ⟨.space slash (by decide) ?_, .inl slash⟩
      rw [List.head?_append, head_map_blankOut first (by decide), Option.some_or]
  | stray visible found behind =>
      rename_i c rest
      obtain ⟨after, left⟩ := found ▸ Front.of_describes dialect _
      have inLine : c ≠ '\n' := by
        rintro rfl
        rw [left] at visible
        exact absurd (visible '\n' rfl) (by decide)
      refine .inr ⟨.space (by rw [left, List.head?_cons]) inLine ?_, .inr ⟨visible, c, found⟩⟩
      rw [List.head?_cons, blankOut, if_neg inLine]
  | lexeme visible found behind =>
      rename_i kind length error rest
      refine .inl ⟨.alike (Front.head_take_append found rest), ?_⟩
      rintro ⟨-, c, strayed⟩
      rw [found] at strayed
      cases strayed

/-! ## Scanning what is cleared -/

theorem outlasts_of_aboutCharacter {fault : LexicalFault}
    (about : fault.error.aboutCharacter = true) : fault.outlasts all = true := by
  obtain ⟨error, position⟩ := fault
  cases error with
  | invalidCharacter c | invalidNumber c | unterminatedComment => cases about
  | _ => rfl

/-- Where the input breaks off at something else than a comment, the report is the same. -/
theorem outlasts_of_cutsOff {error : LexicalError} {position : Position}
    (cut : CutsOff dialect error text) (noComment : error ≠ .unterminatedComment) :
    LexicalFault.outlasts all ⟨error, position⟩ = true := by
  cases error with
  | unterminatedComment => exact absurd rfl noComment
  | unterminatedString | doubleDot => rfl
  | _ => exact cut.elim

/-- A character literal is wrong again, at the same place, whatever follows it. -/
theorem lexemeFaults_of_aboutCharacter {again : SourceCursor} {e : LexicalError} (length : Nat)
    (alike : Bool) (about : e.aboutCharacter = true) (position : again.position = cursor.position) :
    lexemeFaults length ((some e).filter (Front.isKept alike)) again =
      (lexemeFaults length (some e) cursor).filter (LexicalFault.outlasts all) := by
  have places : faultPosition e again (again.advanceBy length) =
      faultPosition e cursor (cursor.advanceBy length) := by
    cases e with
    | invalidNumber c => cases about
    | _ => exact position
  rw [Front.kept_of_aboutCharacter about, lexemeFaults, lexemeFaults, Option.toList_some,
    List.map_singleton, List.map_singleton, places,
    List.filter_cons_of_pos (outlasts_of_aboutCharacter about), List.filter_nil]

/-- An integer is wrong again if the letter behind it stays, and that is if it is not stray. -/
theorem lexemeFaults_of_invalidNumber {again : SourceCursor} {c : Char} (length : Nat)
    (alike : Bool) (behind : (again.advanceBy length).position = (cursor.advanceBy length).position)
    (stays : alike = true ↔ (cursor.advanceBy length).position ∉ strayPositions all) :
    lexemeFaults length ((some (.invalidNumber c)).filter (Front.isKept alike)) again =
      (lexemeFaults length (some (.invalidNumber c)) cursor).filter
        (LexicalFault.outlasts all) := by
  have own : lexemeFaults length (some (.invalidNumber c)) cursor =
      [⟨.invalidNumber c, (cursor.advanceBy length).position⟩] := rfl
  have lasts : LexicalFault.outlasts all
      ⟨.invalidNumber c, (cursor.advanceBy length).position⟩ = alike :=
    Bool.eq_iff_iff.mpr (decide_eq_true_iff.trans stays.symm)
  cases alike with
  | true =>
      rw [own, List.filter_cons_of_pos lasts, List.filter_nil, ← behind]
      rfl
  | false =>
      rw [own, List.filter_cons_of_neg (by rw [lasts]; decide), List.filter_nil]
      rfl

/-- **The faults of a lexeme that are there again** are those that outlast blanking out. -/
theorem lexemeFaults_outlasting {again : SourceCursor} {kind : TokenKind} {length : Nat}
    {error : Option LexicalError}
    (found : Front.of dialect cursor.rest = .lexeme kind length error)
    (clears : Clears dialect (cursor.advanceBy length) text)
    (stands : (cursor.advanceBy length).At source)
    (recalls : Recalls dialect source all (cursor.advanceBy length))
    (position : again.position = cursor.position)
    (behind : (again.advanceBy length).position = (cursor.advanceBy length).position) :
    ∃ alike, Front.Replaces (cursor.rest.drop length) text alike ∧
      lexemeFaults length (error.filter (Front.isKept alike)) again =
        (lexemeFaults length error cursor).filter (LexicalFault.outlasts all) := by
  have replaces := clears.replaces
  rw [advanceBy_rest] at replaces
  cases error with
  | none =>
      rcases replaces with ⟨same, -⟩ | ⟨changed, -⟩
      · exact ⟨true, same, rfl⟩
      · exact ⟨false, changed, rfl⟩
  | some e =>
      rcases Front.of_error found with ⟨about, -⟩ | ⟨c, rfl, next, letter⟩
      · rcases replaces with ⟨same, -⟩ | ⟨changed, -⟩
        · exact ⟨true, same, lexemeFaults_of_aboutCharacter length true about position⟩
        · exact ⟨false, changed, lexemeFaults_of_aboutCharacter length false about position⟩
      · have strays := recalls.strays_here stands
        rw [advanceBy_rest] at strays
        rcases replaces with ⟨same, apart⟩ | ⟨changed, slash | atStray⟩
        · refine ⟨true, same, lexemeFaults_of_invalidNumber length true behind ?_⟩
          exact ⟨fun _ => mt strays.mp apart, fun _ => rfl⟩
        · -- no comment begins with a letter or an underscore
          rw [slash] at next
          cases next
          rcases letter with alphabetic | score
          · exact absurd alphabetic (by decide)
          · exact absurd score (by decide)
        · refine ⟨false, changed, lexemeFaults_of_invalidNumber length false behind ?_⟩
          exact ⟨fun stays => absurd stays (by decide),
            fun stays => absurd (strays.mpr atStray) stays⟩

/-- Blanks in front of a text that were characters of another make no difference. -/
theorem lexFrom_blankOut (dialect : Dialect) {again : SourceCursor} {cs : List Char}
    (left : again.rest = cs.map blankOut ++ text) :
    lexFrom dialect again = lexFrom dialect (again.advanceBy cs.length) ∧
      (again.advanceBy cs.length).rest = text ∧
      (again.advanceBy cs.length).position = again.position.afterAll cs := by
  have count : (cs.map blankOut).length = cs.length := List.length_map _
  have front : again.rest.take cs.length = cs.map blankOut := by
    rw [left, ← count, List.take_left]
  refine ⟨(lexFrom_advanceBy ?_).symm, ?_, ?_⟩
  · rw [front]
    intro d member
    obtain ⟨c, -, rfl⟩ := List.mem_map.mp member
    exact isBlank_blankOut c
  · rw [advanceBy_rest, left, ← count, List.drop_left]
  · rw [position_advanceBy, front, Position.afterAll_blankOut]

/-- A comment that is never closed ends where the text does, and so do the blanks instead of it. -/
theorem lexFrom_of_cleared_tail {again : SourceCursor} {length : Nat}
    (visible : Visible cursor.rest)
    (found : Front.of dialect cursor.rest = .breakOff length .unterminatedComment)
    (left : again.rest = cursor.rest.map blankOut) (position : again.position = cursor.position) :
    lexFrom dialect again = (lexFrom dialect cursor).outlasting all := by
  obtain ⟨-, count⟩ := found ▸ Front.of_describes dialect _
  rw [if_neg (by decide)] at count
  have whole : again.rest = cursor.rest.map blankOut ++ [] := by rw [left, List.append_nil]
  obtain ⟨same, isOver, ends⟩ := lexFrom_blankOut dialect whole
  have stop : (cursor.advanceBy length).position = cursor.position.afterAll cursor.rest := by
    rw [position_advanceBy, count, List.take_length]
  rw [← visible.stays] at found
  rw [same, lexFrom_at_end isOver, lexFrom_of_breakOff found, visible.stays, ends, position, stop]
  rfl

/-- Elsewhere the text is left where it was. -/
theorem lexFrom_of_kept_tail {again : SourceCursor} {length : Nat} {error : LexicalError}
    (visible : Visible cursor.rest)
    (found : Front.of dialect cursor.rest = .breakOff length error)
    (noComment : error ≠ .unterminatedComment) (left : again.rest = cursor.rest)
    (position : again.position = cursor.position) :
    lexFrom dialect again = (lexFrom dialect cursor).outlasting all := by
  obtain ⟨cut, -⟩ := found ▸ Front.of_describes dialect _
  have visibleAgain : Visible again.rest := by rwa [left]
  have foundAgain : Front.of dialect again.rest = .breakOff length error := by rwa [left]
  have stop : (again.advanceBy length).position = (cursor.advanceBy length).position := by
    rw [position_advanceBy, position_advanceBy, left, position]
  rw [← visible.stays] at found
  rw [← visibleAgain.stays] at foundAgain
  rw [lexFrom_of_breakOff foundAgain, lexFrom_of_breakOff found, visible.stays,
    visibleAgain.stays, stop, position, Lexed.outlasting,
    List.filter_cons_of_pos (outlasts_of_cutsOff cut noComment), List.filter_nil]

/-- A lexeme is found again before what becomes of the text behind it. -/
theorem lexFrom_of_cleared_lexeme {again : SourceCursor} {kind : TokenKind} {length : Nat}
    {error : Option LexicalError} (visible : Visible cursor.rest)
    (found : Front.of dialect cursor.rest = .lexeme kind length error)
    (clears : Clears dialect (cursor.advanceBy length) text) (stands : cursor.At source)
    (recalls : Recalls dialect source all cursor)
    (left : again.rest = cursor.rest.take length ++ text)
    (position : again.position = cursor.position) :
    (again.advanceBy length).rest = text ∧
      (again.advanceBy length).position = (cursor.advanceBy length).position ∧
      lexFrom dialect again = (lexFrom dialect (again.advanceBy length)).prepend
        [lexemeToken kind length cursor]
        ((lexemeFaults length error cursor).filter (LexicalFault.outlasts all)) := by
  obtain ⟨positive, fits, -⟩ := found ▸ Front.of_describes dialect _
  have count : (cursor.rest.take length).length = length := List.length_take_of_le fits
  have front : again.rest.take length = cursor.rest.take length := by
    rw [left, List.take_left' count]
  have behind : (again.advanceBy length).position = (cursor.advanceBy length).position := by
    rw [position_advanceBy, position_advanceBy, front, position]
  refine ⟨by rw [advanceBy_rest, left, List.drop_left' count], behind, ?_⟩
  obtain ⟨alike, replaces, faults⟩ := lexemeFaults_outlasting found clears
    (stands.advanceBy length) (recalls.past_lexeme stands visible found) position behind
  have foundAgain := Front.of_replaced replaces found
  rw [← left] at foundAgain
  have visibleAgain : Visible again.rest := by
    rw [Visible, left, Front.head_take_append found]
    exact visible
  have token : lexemeToken kind length again = lexemeToken kind length cursor := by
    rw [lexemeToken, lexemeToken, front, position]
  rw [lexFrom_at_lexeme visibleAgain foundAgain, token, faults]

/-- **Scanning what a text becomes gives the same tokens** and the faults that outlast it. The
induction is on what becomes of the text; the cursors stand at the same position throughout. -/
theorem Clears.lexFrom_again (clears : Clears dialect cursor text) (stands : cursor.At source)
    (recalls : Recalls dialect source all cursor) {again : SourceCursor}
    (left : again.rest = text) (position : again.position = cursor.position) :
    lexFrom dialect again = (lexFrom dialect cursor).outlasting all := by
  induction clears generalizing again with
  | finish isOver =>
      rw [lexFrom_at_end left, lexFrom_at_end isOver, position]
      rfl
  | breakOff visible found =>
      -- Only a comment without an end is blanked with the rest of the text; any other cut stays.
      split at left
      · rename_i comment
        rw [comment] at found
        exact lexFrom_of_cleared_tail visible found left position
      · rename_i noComment
        exact lexFrom_of_kept_tail visible found noComment left position
  | blank isBlank here behind ih =>
      rename_i cursor c after text
      -- Both cursors have the blank in front of them, so both may go on by one.
      have blanks {other : SourceCursor} {rest : List Char} (first : other.rest = c :: rest) :
          ∀ d ∈ other.rest.take 1, Text.isBlank d = true := by
        rw [first]
        simpa using isBlank
      have same : lexFrom dialect again.advance =
          (lexFrom dialect cursor.advance).outlasting all := by
        apply ih stands.advance (recalls.past_blanks stands (blanks here))
        · rw [advance_rest, left, List.tail_cons]
        · rw [SourceCursor.advance, SourceCursor.advance, left, here, position]
      calc lexFrom dialect again
        _ = lexFrom dialect again.advance := (lexFrom_advanceBy (blanks left)).symm
        _ = (lexFrom dialect cursor.advance).outlasting all := same
        _ = (lexFrom dialect cursor).outlasting all :=
          congrArg (Lexed.outlasting all) (lexFrom_advanceBy (blanks here))
  | comment visible found behind ih =>
      rename_i cursor length text
      obtain ⟨same, leftThere, ends⟩ := lexFrom_blankOut dialect left
      rw [same, lexFrom_at_comment visible found]
      apply ih (stands.advanceBy length) (recalls.past_comment stands visible found) leftThere
      rw [ends, position_advanceBy, position]
  | stray visible found behind ih =>
      rename_i cursor c text
      obtain ⟨after, here⟩ := found ▸ Front.of_describes dialect _
      have single : again.rest = [c].map blankOut ++ text := left
      obtain ⟨same, leftThere, ends⟩ := lexFrom_blankOut dialect single
      have behindStray : (again.advanceBy [c].length).position = cursor.advance.position := by
        rw [ends, position, SourceCursor.advance, here]
        rfl
      rw [same, lexFrom_at_stray visible found, Lexed.outlasting_prepend,
        ih stands.advance (recalls.past_stray stands visible found) leftThere behindStray]
      rfl
  | lexeme visible found behind ih =>
      rename_i cursor kind length error text
      obtain ⟨leftThere, ends, same⟩ :=
        lexFrom_of_cleared_lexeme visible found behind stands recalls left position
      rw [same, lexFrom_at_lexeme visible found, Lexed.outlasting_prepend,
        ih (stands.advanceBy length) (recalls.past_lexeme stands visible found) leftThere ends]

end Scanner

end MiniJ
