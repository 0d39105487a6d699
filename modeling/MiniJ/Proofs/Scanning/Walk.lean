import MiniJ.Proofs.Scanning.Again
import MiniJ.Proofs.Scanning.Offset
import MiniJ.Proofs.Scanning.Stream

/-!
# Scanning front by front

One scan may pass over many comments and stray characters before it gives a token. This module joins
the scans of a text into one walk over its fronts: `Scanner.lexFrom` is what scanning gives from a
cursor on, and there is one equation for each front that can stand behind the blanks. To prove
something of every cursor it is enough to look at one front at a time (`walk_induction`).

A scanned text is what scanning gives from its first character on (`lex_eq_lexFrom`).
-/

set_option autoImplicit false

namespace MiniJ

/-- A scanned text with tokens and faults in front. -/
def Lexed.prepend (tokens : List Token) (faults : List LexicalFault) (lexed : Lexed) : Lexed :=
  ⟨tokens ++ lexed.tokens, faults ++ lexed.faults⟩

namespace Scanner

/-- What scanning gives from a cursor on. -/
def lexFrom (dialect : Dialect) (cursor : SourceCursor) : Lexed :=
  let scans := (⟨dialect, cursor, false⟩ : Scanner).scans
  ⟨scans.map Scan.token, scans.flatMap Scan.faults⟩

variable {dialect : Dialect} {cursor : SourceCursor}

/-- The scans that follow a scan. -/
theorem scans_eq (scanner : Scanner) :
    scanner.scans =
      scanner.scan :: if scanner.scan.token.kind = .eot then [] else scanner.scan.next.scans := by
  rw [scans]
  split
  · rfl
  · rfl

/-! ## One front -/

theorem lexFrom_eq (dialect : Dialect) (cursor : SourceCursor) :
    let scan := scanFrom dialect cursor
    let later := if scan.token.kind = .eot then [] else scan.next.scans
    lexFrom dialect cursor =
      ⟨scan.token :: later.map Scan.token, scan.faults ++ later.flatMap Scan.faults⟩ := by
  have first : (⟨dialect, cursor, false⟩ : Scanner).scan = scanFrom dialect cursor :=
    scan_of_open rfl
  dsimp only [lexFrom]
  rw [scans_eq, first, List.map_cons, List.flatMap_cons]

/-- Blanks in front make no difference. -/
theorem lexFrom_congr {again : SourceCursor}
    (same : again.advanceWhile Text.isBlank = cursor.advanceWhile Text.isBlank) :
    lexFrom dialect again = lexFrom dialect cursor := by
  rw [lexFrom_eq, lexFrom_eq, scanFrom_congr same]

theorem lexFrom_advanceBy {n : Nat} (blanks : ∀ c ∈ cursor.rest.take n, Text.isBlank c = true) :
    lexFrom dialect (cursor.advanceBy n) = lexFrom dialect cursor :=
  lexFrom_congr (SourceCursor.advanceWhile_advanceBy blanks)

theorem lexFrom_of_finish
    (found : Front.of dialect (cursor.advanceWhile Text.isBlank).rest = .finish) :
    lexFrom dialect cursor = ⟨[.endAt (cursor.advanceWhile Text.isBlank).position], []⟩ := by
  rw [lexFrom_eq, scanFrom_of_finish found]
  rfl

theorem lexFrom_of_comment {length : Nat}
    (found : Front.of dialect (cursor.advanceWhile Text.isBlank).rest = .comment length) :
    lexFrom dialect cursor =
      lexFrom dialect ((cursor.advanceWhile Text.isBlank).advanceBy length) := by
  rw [lexFrom_eq, scanFrom_of_comment found, ← lexFrom_eq]

theorem lexFrom_of_stray {c : Char}
    (found : Front.of dialect (cursor.advanceWhile Text.isBlank).rest = .stray c) :
    let here := cursor.advanceWhile Text.isBlank
    lexFrom dialect cursor =
      (lexFrom dialect here.advance).prepend [] [⟨.invalidCharacter c, here.position⟩] := by
  dsimp only
  rw [lexFrom_eq, scanFrom_of_stray found, lexFrom_eq]
  rfl

theorem lexFrom_of_breakOff {length : Nat} {error : LexicalError}
    (found : Front.of dialect (cursor.advanceWhile Text.isBlank).rest = .breakOff length error) :
    let here := cursor.advanceWhile Text.isBlank
    lexFrom dialect cursor =
      ⟨[.endAt (here.advanceBy length).position], [⟨error, here.position⟩]⟩ := by
  dsimp only
  rw [lexFrom_eq, scanFrom_of_breakOff found]
  rfl

/-- The token of a lexeme behind blanks. -/
def lexemeToken (kind : TokenKind) (length : Nat) (here : SourceCursor) : Token :=
  ⟨kind, String.ofList (here.rest.take length), here.position⟩

/-- The faults of a lexeme behind blanks: one at most. -/
def lexemeFaults (length : Nat) (error : Option LexicalError) (here : SourceCursor) :
    List LexicalFault :=
  error.toList.map fun error => ⟨error, faultPosition error here (here.advanceBy length)⟩

theorem lexFrom_of_lexeme {kind : TokenKind} {length : Nat} {error : Option LexicalError}
    (found : Front.of dialect (cursor.advanceWhile Text.isBlank).rest =
      .lexeme kind length error) (present : kind ≠ .eot) :
    let here := cursor.advanceWhile Text.isBlank
    lexFrom dialect cursor =
      (lexFrom dialect (here.advanceBy length)).prepend [lexemeToken kind length here]
        (lexemeFaults length error here) := by
  dsimp only
  rw [lexFrom_eq, scanFrom_of_lexeme found]
  dsimp only
  rw [if_neg present]
  rfl

/-! ## All fronts -/

/-- To prove something of every cursor, prove it where the text is over or breaks off behind the
blanks, and elsewhere from the cursor behind the front. -/
theorem walk_induction (dialect : Dialect) {motive : SourceCursor → Prop}
    (finish : ∀ cursor : SourceCursor,
      Front.of dialect (cursor.advanceWhile Text.isBlank).rest = .finish → motive cursor)
    (comment : ∀ (cursor : SourceCursor) (length : Nat),
      Front.of dialect (cursor.advanceWhile Text.isBlank).rest = .comment length →
      motive ((cursor.advanceWhile Text.isBlank).advanceBy length) → motive cursor)
    (stray : ∀ (cursor : SourceCursor) (c : Char),
      Front.of dialect (cursor.advanceWhile Text.isBlank).rest = .stray c →
      motive (cursor.advanceWhile Text.isBlank).advance → motive cursor)
    (lexeme : ∀ (cursor : SourceCursor) (kind : TokenKind) (length : Nat)
      (error : Option LexicalError),
      Front.of dialect (cursor.advanceWhile Text.isBlank).rest = .lexeme kind length error →
      motive ((cursor.advanceWhile Text.isBlank).advanceBy length) → motive cursor)
    (breakOff : ∀ (cursor : SourceCursor) (length : Nat) (error : LexicalError),
      Front.of dialect (cursor.advanceWhile Text.isBlank).rest = .breakOff length error →
      motive cursor)
    (cursor : SourceCursor) : motive cursor := by
  induction size : cursor.rest.length using Nat.strongRecOn generalizing cursor with
  | ind _ ih =>
      subst size
      cases found : Front.of dialect (cursor.advanceWhile Text.isBlank).rest with
      | finish => exact finish cursor found
      | comment length =>
          have positive : 0 < length := Front.length_pos_of_eq found (by simp)
          have shorter := rest_lt_of_front found (by simp) positive
          exact comment cursor length found (ih _ shorter _ rfl)
      | stray c =>
          have shorter := rest_lt_of_front found (by simp) Nat.one_pos
          exact stray cursor c found (ih _ shorter _ rfl)
      | lexeme kind length error =>
          have positive : 0 < length := Front.length_pos_of_eq found (by simp)
          have shorter := rest_lt_of_front found (by simp) positive
          exact lexeme cursor kind length error found (ih _ shorter _ rfl)
      | breakOff length error => exact breakOff cursor length error found

/-! ## Behind a front -/

/-- Only a stray character is reported as one. -/
theorem code_of_mem_lexemeFaults {kind : TokenKind} {length : Nat} {error : Option LexicalError}
    {here : SourceCursor} (found : Front.of dialect here.rest = .lexeme kind length error)
    {fault : LexicalFault} (member : fault ∈ lexemeFaults length error here) :
    fault.error.code ≠ .invalidCharacter := by
  obtain ⟨e, wrong, rfl⟩ := List.mem_map.mp member
  obtain rfl := Option.mem_toList.mp wrong
  rcases Front.of_error found with ⟨about, -⟩ | ⟨c, rfl, -⟩
  · intro stray
    rw [LexicalError.aboutCharacter, stray] at about
    exact absurd about (by decide)
  · simp [LexicalError.code]

/-- The cursor behind a front stands further on. -/
theorem offset_lt_behind {source : Source} {front : Front} {n : Nat} (stands : cursor.At source)
    (found : Front.of dialect (cursor.advanceWhile Text.isBlank).rest = front)
    (more : front ≠ .finish) (positive : 0 < n) :
    cursor.offset < ((cursor.advanceWhile Text.isBlank).advanceBy n).offset :=
  stands.offset_lt ((stands.advanceWhile _).advanceBy n) (rest_lt_of_front found more positive)

end Scanner

/-- A scanned text is what scanning gives from its first character on. -/
theorem lex_eq_lexFrom (dialect : Dialect) (source : Source) :
    lex dialect source = Scanner.lexFrom dialect (.start source) :=
  rfl

end MiniJ
