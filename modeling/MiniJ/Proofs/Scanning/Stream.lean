import MiniJ.Scanner

/-!
# The tokens of a scanner

A scanner gives finitely many tokens before the end: `Scanner.words` are these tokens and
`Scanner.stop` is the token for the end behind them. One scan either gives the end, or it takes the
first of the words and leaves a scanner that gives the others (`words_of_more`). What is wrong with
the text is reported on the way: `Scanner.faultsTo` are the faults up to and with a given token.

Each word takes up at least one character, so there are at most as many words as characters
(`length_words_le`).
-/

set_option autoImplicit false

namespace MiniJ

namespace Scanner

variable {scanner : Scanner}

/-! ## One scan -/

theorem scan_of_open {scanner : Scanner} (open_ : scanner.finished = false) :
    scanner.scan = scanFrom scanner.dialect scanner.cursor := by
  simp [Scanner.scan, open_]

section Fronts

variable {dialect : Dialect} {cursor : SourceCursor}

/-- Where nothing is left behind blanks, a scan gives the end. -/
theorem scanFrom_of_finish
    (found : Front.of dialect (cursor.advanceWhile Text.isBlank).rest = .finish) :
    scanFrom dialect cursor =
      ⟨.endAt (cursor.advanceWhile Text.isBlank).position, [],
        ⟨dialect, cursor.advanceWhile Text.isBlank, true⟩⟩ := by
  rw [scanFrom]
  split
  all_goals
    rename_i same
    cases found.symm.trans same
  rfl

/-- A comment behind blanks is passed over. -/
theorem scanFrom_of_comment {length : Nat}
    (found : Front.of dialect (cursor.advanceWhile Text.isBlank).rest = .comment length) :
    scanFrom dialect cursor =
      scanFrom dialect ((cursor.advanceWhile Text.isBlank).advanceBy length) := by
  rw [scanFrom]
  split
  all_goals
    rename_i same
    cases found.symm.trans same
  rfl

/-- A stray character behind blanks is reported and passed over. -/
theorem scanFrom_of_stray {c : Char}
    (found : Front.of dialect (cursor.advanceWhile Text.isBlank).rest = .stray c) :
    let here := cursor.advanceWhile Text.isBlank
    scanFrom dialect cursor =
      { scanFrom dialect here.advance with
        faults := ⟨.invalidCharacter c, here.position⟩ ::
          (scanFrom dialect here.advance).faults } := by
  dsimp only
  rw [scanFrom]
  split
  all_goals
    rename_i same
    cases found.symm.trans same
  rfl

/-- A lexeme behind blanks is what a scan gives. -/
theorem scanFrom_of_lexeme {kind : TokenKind} {length : Nat} {error : Option LexicalError}
    (found : Front.of dialect (cursor.advanceWhile Text.isBlank).rest =
      .lexeme kind length error) :
    let here := cursor.advanceWhile Text.isBlank
    scanFrom dialect cursor =
      ⟨⟨kind, String.ofList (here.rest.take length), here.position⟩,
        error.toList.map fun error => ⟨error, faultPosition error here (here.advanceBy length)⟩,
        ⟨dialect, here.advanceBy length, false⟩⟩ := by
  dsimp only
  rw [scanFrom]
  split
  all_goals
    rename_i same
    cases found.symm.trans same
  rfl

/-- Where the input breaks off behind blanks, a scan reports it and gives the end. -/
theorem scanFrom_of_breakOff {length : Nat} {error : LexicalError}
    (found : Front.of dialect (cursor.advanceWhile Text.isBlank).rest = .breakOff length error) :
    let here := cursor.advanceWhile Text.isBlank
    scanFrom dialect cursor =
      ⟨.endAt (here.advanceBy length).position, [⟨error, here.position⟩],
        ⟨dialect, here.advanceBy length, true⟩⟩ := by
  dsimp only
  rw [scanFrom]
  split
  all_goals
    rename_i same
    cases found.symm.trans same
  rfl

/-- A scan begins behind the blanks. -/
theorem scanFrom_congr {again : SourceCursor}
    (same : again.advanceWhile Text.isBlank = cursor.advanceWhile Text.isBlank) :
    scanFrom dialect again = scanFrom dialect cursor := by
  cases found : Front.of dialect (cursor.advanceWhile Text.isBlank).rest with
  | finish =>
      rw [scanFrom_of_finish found, scanFrom_of_finish (same ▸ found), same]
  | comment length =>
      rw [scanFrom_of_comment found, scanFrom_of_comment (same ▸ found), same]
  | stray c =>
      rw [scanFrom_of_stray found, scanFrom_of_stray (same ▸ found), same]
  | lexeme kind length error =>
      rw [scanFrom_of_lexeme found, scanFrom_of_lexeme (same ▸ found), same]
  | breakOff length error =>
      rw [scanFrom_of_breakOff found, scanFrom_of_breakOff (same ▸ found), same]

end Fronts

/-- Behind a token that is not the end a scanner goes on. -/
theorem scanFrom_goesOn {dialect : Dialect} {cursor : SourceCursor}
    (more : (scanFrom dialect cursor).token.kind ≠ .eot) :
    (scanFrom dialect cursor).next.finished = false := by
  fun_induction scanFrom dialect cursor with
  | case1 | case5 => exact absurd rfl more
  | case2 cursor here length found ih => exact ih more
  | case3 cursor here c found scan ih => exact ih more
  | case4 => rfl

theorem scan_goesOn (more : scanner.scan.token.kind ≠ .eot) :
    scanner.scan.next.finished = false := by
  unfold scan at more ⊢
  split
  · rename_i finished
    rw [if_pos finished] at more
    exact absurd rfl more
  · rename_i finished
    rw [if_neg finished] at more
    exact scanFrom_goesOn more

/-! ## All scans -/

theorem scans_of_end (finished : scanner.scan.token.kind = .eot) :
    scanner.scans = [scanner.scan] := by
  rw [scans]
  simp [finished]

theorem scans_of_more (more : scanner.scan.token.kind ≠ .eot) :
    scanner.scans = scanner.scan :: scanner.scan.next.scans := by
  rw [scans]
  simp [more]

/-- To prove something of every scanner, prove it where the scan gives the end, and elsewhere from
the scanner behind the scan. -/
theorem scans_induction {motive : Scanner → Prop}
    (finished : ∀ scanner : Scanner, scanner.scan.token.kind = .eot → motive scanner)
    (more : ∀ scanner : Scanner, scanner.scan.token.kind ≠ .eot → motive scanner.scan.next →
      motive scanner)
    (scanner : Scanner) : motive scanner := by
  fun_induction scans scanner with
  | case1 scanner scan h => exact finished scanner h
  | case2 scanner scan h ih => exact more scanner h ih

theorem scans_ne_nil (scanner : Scanner) : scanner.scans ≠ [] := by
  rw [scans]
  split <;> simp

/-- The tokens that a scanner gives before the end. -/
def words (scanner : Scanner) : List Token :=
  (scanner.scans.map Scan.token).dropLast

/-- The token for the end that a scanner gives first. -/
def stop (scanner : Scanner) : Token :=
  (scanner.scans.getLast scanner.scans_ne_nil).token

/-- What is wrong with the text up to and with the token behind `count` others. -/
def faultsTo (scanner : Scanner) (count : Nat) : List LexicalFault :=
  (scanner.scans.take (count + 1)).flatMap Scan.faults

theorem words_of_end (finished : scanner.scan.token.kind = .eot) : scanner.words = [] := by
  simp [words, scans_of_end finished]

theorem stop_of_end (finished : scanner.scan.token.kind = .eot) :
    scanner.stop = scanner.scan.token := by
  simp [stop, scans_of_end finished]

theorem words_of_more (more : scanner.scan.token.kind ≠ .eot) :
    scanner.words = scanner.scan.token :: scanner.scan.next.words := by
  have nonempty : scanner.scan.next.scans.map Scan.token ≠ [] := by
    simpa using scans_ne_nil scanner.scan.next
  rw [words, scans_of_more more, List.map_cons, List.dropLast_cons_of_ne_nil nonempty, words]

theorem stop_of_more (more : scanner.scan.token.kind ≠ .eot) :
    scanner.stop = scanner.scan.next.stop := by
  simp [stop, scans_of_more more, List.getLast_cons (scans_ne_nil _)]

/-- The tokens of a text are its words and the end. -/
theorem tokens_eq (scanner : Scanner) :
    scanner.scans.map Scan.token = scanner.words ++ [scanner.stop] := by
  have nonempty : scanner.scans.map Scan.token ≠ [] := by
    simpa using scans_ne_nil scanner
  rw [words, stop, ← List.getLast_map nonempty, List.dropLast_concat_getLast]

theorem length_scans (scanner : Scanner) : scanner.scans.length = scanner.words.length + 1 := by
  have h := congrArg List.length (tokens_eq scanner)
  simpa using h

theorem kind_stop (scanner : Scanner) : scanner.stop.kind = .eot := by
  induction scanner using scans_induction with
  | finished scanner h =>
      rw [stop_of_end h]
      exact h
  | more scanner h ih =>
      rw [stop_of_more h]
      exact ih

theorem kind_ne_eot_of_mem_words {token : Token} (member : token ∈ scanner.words) :
    token.kind ≠ .eot := by
  induction scanner using scans_induction with
  | finished scanner h =>
      rw [words_of_end h] at member
      exact absurd member List.not_mem_nil
  | more scanner h ih =>
      rw [words_of_more h] at member
      rcases List.mem_cons.mp member with rfl | later
      · exact h
      · exact ih later

/-- **There are at most as many words as characters.** -/
theorem length_words_le (scanner : Scanner) :
    scanner.words.length ≤ scanner.cursor.rest.length := by
  induction scanner using scans_induction with
  | finished scanner h => simp [words_of_end h]
  | more scanner h ih =>
      have shorter := rest_lt_of_scan h
      rw [words_of_more h, List.length_cons]
      omega

end Scanner

/-- The tokens of a scanned text before the end. -/
def Lexed.words (lexed : Lexed) : List Token :=
  lexed.tokens.dropLast

/-- What a token is without its position. -/
def Token.lexeme (token : Token) : TokenKind × String :=
  (token.kind, token.text)

/-- The kinds and texts of the tokens of a scanned text, with the end. -/
def Lexed.lexemes (lexed : Lexed) : List (TokenKind × String) :=
  lexed.tokens.map Token.lexeme

theorem words_lex (dialect : Dialect) (source : Source) :
    (lex dialect source).words = (Scanner.start dialect source).words :=
  rfl

/-- The tokens of a scanned text are its words and the token for the end. -/
theorem tokens_lex (dialect : Dialect) (source : Source) :
    (lex dialect source).tokens =
      (lex dialect source).words ++ [(Scanner.start dialect source).stop] :=
  (Scanner.start dialect source).tokens_eq

end MiniJ
