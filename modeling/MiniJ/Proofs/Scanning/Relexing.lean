import MiniJ.Proofs.Scanning.Again
import MiniJ.Proofs.Scanning.Stream

/-!
# Scanning the lexemes of a text

The texts of the tokens of a text, one under the other, are scanned into the tokens they came from:
each is found again from its text, and the line end behind it is passed over. What is left out are
blanks, comments and stray characters, and with them most of the reports. Those about character
literals are about the lexeme itself and come again.

The main statement is `lex_relexed`. It rests on `Scanner.scans_again`, which runs two scanners next
to each other, and each step of that on `Scanner.scanFrom_again`.
-/

set_option autoImplicit false

namespace MiniJ

/-! ## One scan -/

/-- A scan takes the lexeme at the front of a text, behind what it passes over. Of what was wrong,
only the errors about character literals are told, which stand where the lexeme does. -/
structure Scan.Takes (scan : Scan) (dialect : Dialect) (text : List Char) (kind : TokenKind)
    (length : Nat) (error : Option LexicalError) : Prop where
  present : kind ≠ .eot
  visible : ∀ c ∈ text.head?, Text.isBlank c = false
  front : Front.of dialect text = .lexeme kind length error
  token : scan.token.lexeme = (kind, String.ofList (text.take length))
  faults : scan.faults.filter (fun fault => fault.error.aboutCharacter) =
    (error.filter LexicalError.aboutCharacter).toList.map (⟨·, scan.token.position⟩)
  dialect_next : scan.next.dialect = dialect
  open_next : scan.next.finished = false
  rest_next : scan.next.cursor.rest = text.drop length

/-- A lexeme begins with its first character whatever follows it. -/
theorem Scan.Takes.head_visible {scan : Scan} {dialect : Dialect} {text : List Char}
    {kind : TokenKind} {length : Nat} {error : Option LexicalError}
    (takes : scan.Takes dialect text kind length error) (tail : List Char) :
    ∀ c ∈ (text.take length ++ tail).head?, Text.isBlank c = false := by
  rw [Front.head_take_append takes.front]
  exact takes.visible

/-- A scan takes nothing and gives the end. -/
structure Scan.Ends (scan : Scan) : Prop where
  token : scan.token.lexeme = (.eot, "")
  faults : scan.faults.filter (fun fault => fault.error.aboutCharacter) = []

namespace Scanner

/-- An error about a character literal is reported where the literal begins. -/
theorem faults_kept (error : Option LexicalError) (before behind : SourceCursor) :
    (error.toList.map fun error => ⟨error, faultPosition error before behind⟩).filter
        (fun fault : LexicalFault => fault.error.aboutCharacter) =
      (error.filter LexicalError.aboutCharacter).toList.map (⟨·, before.position⟩) := by
  cases error with
  | none => rfl
  | some error => cases error <;> rfl

/-- **A scan takes a lexeme or ends.** -/
theorem scanFrom_takes (dialect : Dialect) (cursor : SourceCursor) :
    ((scanFrom dialect cursor).token.kind = .eot ∧ (scanFrom dialect cursor).Ends) ∨
      ∃ text kind length error,
        (scanFrom dialect cursor).Takes dialect text kind length error := by
  fun_induction scanFrom dialect cursor with
  | case1 cursor here found => exact .inl ⟨rfl, rfl, rfl⟩
  | case2 cursor here length found ih => exact ih
  | case3 cursor here c found scan ih =>
      -- the report of a stray character is not about a literal
      rcases ih with ⟨finished, ends⟩ | ⟨text, kind, length, error, takes⟩
      · exact .inl ⟨finished, ends.token, ends.faults⟩
      · exact .inr ⟨text, kind, length, error, takes.present, takes.visible, takes.front,
          takes.token, takes.faults, takes.dialect_next, takes.open_next, takes.rest_next⟩
  | case4 cursor here kind length error found behind =>
      have visible : ∀ c ∈ here.rest.head?, Text.isBlank c = false := by
        rw [SourceCursor.advanceWhile_rest]
        exact Front.refused_dropWhile
      obtain ⟨-, -, present, -⟩ := found ▸ Front.of_describes dialect here.rest
      exact .inr ⟨here.rest, kind, length, error, present, visible, found, rfl,
        faults_kept error here behind, rfl, rfl, SourceCursor.advanceBy_rest _ _⟩
  | case5 cursor here length error found behind =>
      -- the errors that end the input are none about a character literal
      obtain ⟨cut, -⟩ := found ▸ Front.of_describes dialect here.rest
      have silent : error.aboutCharacter = false := LexicalError.not_aboutCharacter cut.endsInput
      exact .inl ⟨rfl, rfl, List.filter_cons_of_neg (by simp [silent])⟩

/-- A scan that gives the end takes nothing. -/
theorem scan_ends {scanner : Scanner} (open_ : scanner.finished = false)
    (ends : scanner.scan.token.kind = .eot) : scanner.scan.Ends := by
  rw [scan_of_open open_] at ends ⊢
  rcases scanFrom_takes scanner.dialect scanner.cursor with
    ⟨-, ending⟩ | ⟨text, kind, length, error, takes⟩
  · exact ending
  · exact absurd ((congrArg Prod.fst takes.token).symm.trans ends) takes.present

/-- A scan that does not give the end takes a lexeme. -/
theorem scan_takes {scanner : Scanner} (open_ : scanner.finished = false)
    (more : scanner.scan.token.kind ≠ .eot) :
    ∃ text kind length error, scanner.scan.Takes scanner.dialect text kind length error := by
  rw [scan_of_open open_] at more ⊢
  exact (scanFrom_takes scanner.dialect scanner.cursor).resolve_left fun ends => more ends.1

/-- The token for the end has no text. -/
theorem lexeme_stop (scanner : Scanner) : scanner.stop.lexeme = (.eot, "") := by
  induction scanner using scans_induction with
  | finished scanner h =>
      rw [stop_of_end h]
      cases given : scanner.finished with
      | true => simp [Scanner.scan, given, Token.lexeme, Token.endAt]
      | false => exact (scan_ends given h).token
  | more scanner h ih =>
      rw [stop_of_more h]
      exact ih

/-- **The text of a lexeme is scanned into the lexeme again**, and what is wrong with it is all that
is reported. -/
theorem scanFrom_again {scan : Scan} {dialect : Dialect} {text tail : List Char}
    {kind : TokenKind} {length : Nat} {error : Option LexicalError} {cursor : SourceCursor}
    (takes : scan.Takes dialect text kind length error) (apart : Front.Apart tail)
    (later : tail ≠ [] → length < text.length)
    (stands : (cursor.advanceWhile Text.isBlank).rest = text.take length ++ tail) :
    let again := scanFrom dialect cursor
    again.token.lexeme = scan.token.lexeme ∧
      again.faults = (error.filter LexicalError.aboutCharacter).toList.map
        (⟨·, again.token.position⟩) ∧
      again.next.dialect = dialect ∧ again.next.finished = false ∧
        again.next.cursor.rest = tail := by
  have found := Front.of_again apart later takes.front
  rw [← stands] at found
  have fits : length ≤ text.length := (takes.front ▸ Front.of_describes dialect text).2.1
  have count : (text.take length).length = length := by
    rw [List.length_take, Nat.min_eq_left fits]
  dsimp only
  rw [scanFrom_of_lexeme found]
  refine ⟨?_, ?_, rfl, rfl, ?_⟩
  · rw [takes.token, stands, Token.lexeme, List.take_left' count]
  · cases error with
    | none => rfl
    | some error => cases error <;> rfl
  · rw [SourceCursor.advanceBy_rest, stands]
    exact List.drop_left' count

/-! ## Whole texts -/

/-- The texts of tokens, each behind a line end. -/
def linesOf (tokens : List Token) : List Char :=
  tokens.flatMap fun token => '\n' :: token.text.toList

theorem linesOf_cons (token : Token) (tokens : List Token) :
    linesOf (token :: tokens) = '\n' :: (token.text.toList ++ linesOf tokens) := by
  simp [linesOf]

theorem linesOf_apart (tokens : List Token) : Front.Apart (linesOf tokens) := by
  intro c head
  cases tokens with
  | nil => cases head
  | cons token tokens =>
      rw [linesOf_cons] at head
      cases head
      rfl

/-- The lines of tokens are their texts with line ends between them, behind one more. -/
theorem linesOf_eq_cons (token : Token) (tokens : List Token) :
    linesOf (token :: tokens) =
      '\n' :: ['\n'].intercalate ((token :: tokens).map fun token => token.text.toList) := by
  induction tokens generalizing token with
  | nil => simp [linesOf]
  | cons next tokens ih =>
      rw [linesOf_cons, ih, List.map_cons, List.map_cons, List.map_cons,
        List.intercalate_cons_cons]
      simp

/-- Scans that give the same lexemes as others. What they report are the errors of the others about
character literals, each at the token with the same number. -/
structure Repeats (again scans : List Scan) : Prop where
  lexemes : again.map (fun scan => scan.token.lexeme) = scans.map fun scan => scan.token.lexeme
  marks : ∃ marks : List (LexicalError × Token × Token),
    (∀ mark ∈ marks, mark.2 ∈ (scans.map Scan.token).zip (again.map Scan.token)) ∧
    (scans.flatMap Scan.faults).filter (fun fault => fault.error.aboutCharacter) =
      marks.map (fun mark => ⟨mark.1, mark.2.1.position⟩) ∧
    again.flatMap Scan.faults = marks.map fun mark => ⟨mark.1, mark.2.2.position⟩

theorem Repeats.cons {scan again : Scan} {scans agains : List Scan} {errors : List LexicalError}
    (same : again.token.lexeme = scan.token.lexeme)
    (kept : scan.faults.filter (fun fault => fault.error.aboutCharacter) =
      errors.map (⟨·, scan.token.position⟩))
    (all : again.faults = errors.map (⟨·, again.token.position⟩)) (rest : Repeats agains scans) :
    Repeats (again :: agains) (scan :: scans) := by
  obtain ⟨marks, within, keptRest, allRest⟩ := rest.marks
  refine ⟨?_, errors.map (⟨·, scan.token, again.token⟩) ++ marks, ?_, ?_, ?_⟩
  · rw [List.map_cons, List.map_cons, same, rest.lexemes]
  · intro mark member
    rw [List.map_cons, List.map_cons, List.zip_cons_cons]
    rcases List.mem_append.mp member with here | later
    · obtain ⟨error, -, rfl⟩ := List.mem_map.mp here
      exact List.mem_cons_self
    · exact List.mem_cons_of_mem _ (within mark later)
  · rw [List.flatMap_cons, List.filter_append, kept, keptRest, List.map_append, List.map_map]
    rfl
  · rw [List.flatMap_cons, all, allRest, List.map_append, List.map_map]
    rfl

/-- Nothing is passed over before a visible character, and only the line end behind one. -/
theorem dropWhile_isBlank_visible {text cs : List Char}
    (visible : ∀ c ∈ text.head?, Text.isBlank c = false)
    (line : cs = text ∨ cs = '\n' :: text) : cs.dropWhile Text.isBlank = text := by
  have stays : text.dropWhile Text.isBlank = text := by
    cases text with
    | nil => rfl
    | cons c text => exact List.dropWhile_cons_of_neg (by simp [visible c rfl])
  rcases line with rfl | rfl
  · exact stays
  · rw [List.dropWhile_cons_of_pos (by decide)]
    exact stays

/-- **The texts of the words, one under the other, are scanned into the words again.** The induction
follows the first scanner; the second stands before the words that are left or before the line end
in front of them. -/
theorem scans_again (scanner : Scanner) (open_ : scanner.finished = false) {again : Scanner}
    (same : again.dialect = scanner.dialect) (openAgain : again.finished = false)
    (lines : again.cursor.rest = linesOf scanner.words ∨
      '\n' :: again.cursor.rest = linesOf scanner.words) :
    Repeats again.scans scanner.scans := by
  induction scanner using scans_induction generalizing again with
  | finished scanner h =>
      rw [words_of_end h] at lines
      have isOver : again.cursor.rest = [] := lines.resolve_right (by simp [linesOf])
      have ending : again.scan.token.lexeme = (.eot, "") ∧ again.scan.faults = [] := by
        rw [scan_of_open openAgain, scanFrom_of_finish]
        · exact ⟨rfl, rfl⟩
        · rw [SourceCursor.advanceWhile_rest, isOver]
          rfl
      obtain ⟨token, faults⟩ := scan_ends open_ h
      have finishedAgain : again.scan.token.kind = .eot := congrArg Prod.fst ending.1
      rw [scans_of_end h, scans_of_end finishedAgain]
      exact @Repeats.cons _ _ _ _ [] (ending.1.trans token.symm) faults ending.2
        ⟨rfl, [], by simp⟩
  | more scanner h ih =>
      rw [words_of_more h] at lines
      obtain ⟨text, kind, length, error, takes⟩ := scan_takes open_ h
      have word : scanner.scan.token.text = String.ofList (text.take length) :=
        congrArg Prod.snd takes.token
      rw [linesOf_cons, word, String.toList_ofList] at lines
      -- Behind the line end, if there is one, the second scanner has the word and the other words.
      have stands : (again.cursor.advanceWhile Text.isBlank).rest =
          text.take length ++ linesOf scanner.scan.next.words := by
        rw [SourceCursor.advanceWhile_rest]
        apply dropWhile_isBlank_visible
        · exact takes.head_visible _
        · exact lines.symm.imp (fun cut => (List.cons.inj cut).2) id
      -- Where words follow, text is left behind the word: one that ran into the end is the last.
      have later : linesOf scanner.scan.next.words ≠ [] → length < text.length := by
        intro more
        have positive : 0 < scanner.scan.next.words.length := by
          apply List.length_pos_iff.mpr
          intro none
          exact more (by rw [none]; rfl)
        have enough := scanner.scan.next.length_words_le
        rw [takes.rest_next, List.length_drop] at enough
        omega
      obtain ⟨lexeme, faults, dialectNext, openNext, rest⟩ :=
        scanFrom_again takes (linesOf_apart _) later stands
      rw [← same, ← scan_of_open openAgain] at lexeme faults dialectNext openNext rest
      have moreAgain : again.scan.token.kind ≠ .eot := by
        rw [show again.scan.token.kind = scanner.scan.token.kind from congrArg Prod.fst lexeme]
        exact h
      rw [scans_of_more h, scans_of_more moreAgain]
      exact Repeats.cons lexeme takes.faults faults
        (ih takes.open_next (dialectNext.trans (same.trans takes.dialect_next.symm)) openNext
          (.inl rest))

end Scanner

/-- The texts of the tokens of a scanned text before the end, one under the other. -/
def Lexed.joined (lexed : Lexed) : Source :=
  .ofString ("\n".intercalate (lexed.words.map Token.text))

/-- **Scanning the lexemes gives the lexemes.** The texts of the tokens, joined by line ends, have
the kinds and texts of the tokens they came from and then the end. What is reported are the errors
about character literals, in their order, each at the token with the same number. -/
theorem lex_relexed (dialect : Dialect) (source : Source) :
    let first := lex dialect source
    let second := lex dialect first.joined
    second.lexemes = first.words.map Token.lexeme ++ [(.eot, "")] ∧
      ∃ marks : List (LexicalError × Token × Token),
        (∀ mark ∈ marks, mark.2 ∈ first.tokens.zip second.tokens) ∧
        first.faults.filter (fun fault => fault.error.aboutCharacter) =
          marks.map (fun mark => ⟨mark.1, mark.2.1.position⟩) ∧
        second.faults = marks.map fun mark => ⟨mark.1, mark.2.2.position⟩ := by
  have lines : (lex dialect source).joined.chars = Scanner.linesOf (lex dialect source).words ∨
      '\n' :: (lex dialect source).joined.chars = Scanner.linesOf (lex dialect source).words := by
    rw [Lexed.joined, Source.ofString, String.toList_intercalate, List.map_map]
    cases (lex dialect source).words with
    | nil => exact .inl rfl
    | cons token tokens => exact .inr (Scanner.linesOf_eq_cons token tokens).symm
  obtain ⟨lexemes, marks⟩ := @Scanner.scans_again (.start dialect source) rfl
    (.start dialect (lex dialect source).joined) rfl rfl lines
  refine ⟨?_, marks⟩
  calc (lex dialect (lex dialect source).joined).lexemes
    _ = (lex dialect source).lexemes := by
        simp only [Lexed.lexemes, lex, List.map_map]
        exact lexemes
    _ = (lex dialect source).words.map Token.lexeme ++ [(.eot, "")] := by
        rw [Lexed.lexemes, tokens_lex, List.map_append, List.map_singleton, Scanner.lexeme_stop]

end MiniJ
