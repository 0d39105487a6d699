import MiniJ.Proofs.Language.Completeness
import MiniJ.Proofs.Language.Soundness
import MiniJ.Proofs.Recognition.Streaming
import MiniJ.Proofs.Scanning.Front

/-!
# Texts without diagnostics are the programs

A parse reports nothing exactly when scanning reports nothing and recognition accepts the tokens
(`parse_reports_nil_iff`). What is accepted is what the grammar derives: every accepted token list
is a program, because the scanner of a dialect gives no tokens of the other one
(`Scanner.legal_of_mem_words`), and every program is accepted. So a text passes without a diagnostic
exactly when its tokens are a program of the dialect, for the mini dialect by their kinds alone
(`parse_mini_exact`) and for the extended dialect by the tokens (`parse_extended_exact`).
-/

set_option autoImplicit false

namespace MiniJ

/-! ## The tokens of a dialect -/

namespace Scanner

/-- One scan gives a token that the dialect has, and keeps the dialect. -/
theorem legal_scanFrom (dialect : Dialect) (cursor : SourceCursor) :
    (scanFrom dialect cursor).token.Legal dialect ∧
      (scanFrom dialect cursor).next.dialect = dialect := by
  fun_induction scanFrom dialect cursor with
  | case1 => exact ⟨fun _ => rfl, rfl⟩
  | case2 cursor here length found ih => exact ih
  | case3 cursor here c found scan ih => exact ih
  | case4 cursor here kind length error found behind =>
      have describes := Front.of_describes dialect here.rest
      rw [found] at describes
      obtain ⟨_, _, _, common, _⟩ := describes
      exact ⟨common, rfl⟩
  | case5 => exact ⟨fun _ => rfl, rfl⟩

theorem legal_scan (scanner : Scanner) :
    scanner.scan.token.Legal scanner.dialect ∧ scanner.scan.next.dialect = scanner.dialect := by
  rw [scan]
  split
  · exact ⟨fun _ => rfl, rfl⟩
  · exact legal_scanFrom scanner.dialect scanner.cursor

/-- **A scanner gives only tokens of its dialect.** -/
theorem legal_of_mem_words {scanner : Scanner} {token : Token} (member : token ∈ scanner.words) :
    token.Legal scanner.dialect := by
  induction scanner using scans_induction with
  | finished scanner finished =>
      rw [words_of_end finished] at member
      exact absurd member List.not_mem_nil
  | more scanner more ih =>
      obtain ⟨legal, same⟩ := legal_scan scanner
      rw [words_of_more more] at member
      rcases List.mem_cons.mp member with rfl | later
      · exact legal
      · rw [← same]
        exact ih later

end Scanner

/-! ## Silent parses -/

/-- **Nothing is reported exactly when scanning reports nothing and the tokens are accepted.** -/
theorem parse_reports_nil_iff (dialect : Dialect) (source : Source) (file : Option String) :
    (parse dialect source file).reports = [] ↔
      (lex dialect source).faults = [] ∧
        Accepts dialect (Scanner.start dialect source).stop [.program]
          (lex dialect source).words := by
  obtain ⟨verdict, cursor, seen, here, ended, follows, settles⟩ :=
    parse_settles dialect source file
  have reported := settles.reports follows
  simp only [ended, Parse.reports]
  cases settles with
  | accepted accepts isOver =>
      rcases reported with ⟨_, _, lexical⟩ | ⟨error, other, _⟩
      · rw [lexical, (follows.all_of_words_nil isOver).2, List.map_eq_nil_iff]
        exact ⟨fun silent => ⟨silent, accepts⟩, fun both => both.1⟩
      · cases other
  | rejected refused _ =>
      rcases reported with ⟨other, _⟩ | ⟨error, _, _, last⟩
      · cases other
      · rw [last]
        constructor
        · intro silent
          exact absurd silent (by simp)
        · intro both
          exact absurd both.2 refused

namespace Language

/-- Acceptance of the tokens of a text is derivability. -/
theorem accepts_words_iff (dialect : Dialect) (source : Source) :
    Accepts dialect (Scanner.start dialect source).stop [.program] (lex dialect source).words ↔
      IsProgram dialect (lex dialect source).words := by
  have stops := Scanner.kind_stop (.start dialect source)
  constructor
  · exact isProgram_of_accepts stops fun token member => Scanner.legal_of_mem_words member
  · exact accepts_of_isProgram stops

end Language

/-- **The language of the mini dialect.** A text passes without any diagnostic exactly when scanning
it gives none and the kinds of its tokens are those of a program. -/
theorem parse_mini_exact (source : Source) (file : Option String) :
    (parse .mini source file).reports = [] ↔
      (lex .mini source).faults = [] ∧
        Language.IsProgramOfKinds .mini ((lex .mini source).words.map Token.kind) := by
  rw [parse_reports_nil_iff, Language.accepts_words_iff, Language.isProgram_mini_iff]

/-- **The language of the extended dialect.** A text passes without any diagnostic exactly when
scanning it gives none and its tokens are a program. -/
theorem parse_extended_exact (source : Source) (file : Option String) :
    (parse .extended source file).reports = [] ↔
      (lex .extended source).faults = [] ∧
        Language.IsProgram .extended (lex .extended source).words := by
  rw [parse_reports_nil_iff, Language.accepts_words_iff]

end MiniJ
