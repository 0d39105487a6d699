import Mathlib.Data.List.Chain
import MiniJ.Proofs.Scanning.Relexing

/-!
# One text scanned in both dialects

The dialects differ in three ways at the front of a text: only the extended one begins words with
an underscore or a dollar sign, reserves further words and looks at more than one dot. A text of
which the mini dialect makes tokens without any report avoids the first. Where it also has no name
that is reserved in the extended dialect and no two dots in a row, both dialects find the same
(`Front.of_extended`).

So the scanners of both dialects go through such a text in step and give the same lexemes, at other
positions if the texts in front differ (`Scanner.scans_extended`).
-/

set_option autoImplicit false

namespace MiniJ

/-- Whether a text is no word that only the extended dialect reserves. -/
def Unreserved (text : String) : Prop :=
  ∀ keyword : Keyword, keyword.isExtendedOnly = true → text ≠ keyword.spelling

/-! ## Words -/

/-- A word that only the extended dialect reserves is a name in the mini dialect. -/
theorem classifyWord_mini {keyword : Keyword} (only : keyword.isExtendedOnly = true) :
    classifyWord keyword.spelling .mini = .ident := by
  cases keyword with
  | class_ | if_ | else_ | for_ | while_ | this_ | void_ | new_ | return_ => cases only
  | _ => rfl

/-- The further reserved words of the extended dialect are its keywords. -/
theorem exists_keyword_of_mem {entry : String × TokenKind} (member : entry ∈ reservedWords)
    (only : entry.2.isExtendedOnly = true) :
    ∃ keyword : Keyword, keyword.isExtendedOnly = true ∧ entry.1 = keyword.spelling := by
  simp only [reservedWords, List.mem_append, List.mem_map] at member
  rcases member with (⟨keyword, -, rfl⟩ | truth) | ⟨keyword, -, rfl⟩
  · exact ⟨keyword, only, rfl⟩
  · simp only [List.mem_cons, List.not_mem_nil, or_false] at truth
    rcases truth with rfl | rfl
    all_goals cases only
  · exact ⟨keyword, only, rfl⟩

/-- A word has one kind in both dialects, unless it is a name that the extended one reserves. -/
theorem classifyWord_extended {text : String}
    (plain : classifyWord text .mini = .ident → Unreserved text) :
    classifyWord text .extended = classifyWord text .mini := by
  cases found : reservedWords.find? fun entry => entry.1 = text with
  | none => simp only [classifyWord, reservedKind?, found]
  | some entry =>
      cases only : entry.2.isExtendedOnly with
      | false => simp [classifyWord, reservedKind?, found, only]
      | true =>
          have same : entry.1 = text := by simpa using List.find?_some found
          obtain ⟨keyword, further, spelled⟩ :=
            exists_keyword_of_mem (List.mem_of_find?_eq_some found) only
          rw [← same, spelled] at plain
          exact absurd rfl (plain (classifyWord_mini further) keyword further)

/-- The kind that a word of a kind in the mini dialect has in the extended one: a name that is
spelled like a further reserved word is that keyword. -/
def TokenKind.widened (kind : TokenKind) (text : String) : TokenKind :=
  if kind = .ident then
    match Keyword.all.find? fun word => word.isExtendedOnly && word.spelling = text with
    | some word => .keyword word
    | none => .ident
  else kind

theorem TokenKind.widened_of_ne {kind : TokenKind} (text : String) (noName : kind ≠ .ident) :
    kind.widened text = kind :=
  if_neg noName

theorem TokenKind.widened_of_unreserved {kind : TokenKind} {text : String}
    (plain : kind = .ident → Unreserved text) : kind.widened text = kind := by
  by_cases name : kind = .ident
  · have none : Keyword.all.find? (fun word => word.isExtendedOnly && word.spelling = text) =
        none := by
      rw [List.find?_eq_none]
      intro word _ reserved
      rw [Bool.and_eq_true, decide_eq_true_iff] at reserved
      exact plain name word reserved.1 reserved.2.symm
    rw [TokenKind.widened, if_pos name, none, name]
  · exact widened_of_ne text name

/-- **What a word is in the extended dialect is told by what it is in the mini dialect.** -/
theorem classifyWord_widened (text : String) :
    classifyWord text .extended = (classifyWord text .mini).widened text := by
  by_cases plain : classifyWord text .mini = .ident → Unreserved text
  · rw [TokenKind.widened_of_unreserved plain, classifyWord_extended plain]
  · -- the text is a further reserved word
    have reserved : ¬ Unreserved text := fun free => plain fun _ => free
    rw [Unreserved] at reserved
    push Not at reserved
    obtain ⟨keyword, only, rfl⟩ := reserved
    cases keyword with
    | class_ | if_ | else_ | for_ | while_ | this_ | void_ | new_ | return_ => cases only
    | _ => rfl

namespace Front

/-- That what the mini dialect finds at the front of a text is there in the extended dialect, too:
no stray character, no name that is reserved there, and no dot before another. -/
def Portable (text : List Char) : Front → Prop
  | stray _ => False
  | lexeme kind length _ =>
    (kind = .ident → Unreserved (String.ofList (text.take length))) ∧
      (kind = .dot → (text.drop length).head? ≠ some '.')
  | _ => True

/-- No operator begins with a letter. -/
theorem isOperatorStart_of_isAlphabetic {c : Char} (letter : Text.isAlphabetic c = true) :
    isOperatorStart c = false := by
  have silent : ['+', '*', '-', '%', '|', '&', '~', '!', '=', '>', '<'].all
      (fun sign => !Text.isAlphabetic sign) = true := by
    decide +kernel
  rw [isOperatorStart, decide_eq_false_iff_not]
  intro member
  have noLetter := List.all_eq_true.mp silent c member
  rw [letter] at noLetter
  cases noLetter

/-- With a letter begins a word. -/
theorem start_of_isAlphabetic (dialect : Dialect) {c : Char} (cs : List Char)
    (letter : Text.isAlphabetic c = true) : start dialect c cs = word dialect c cs := by
  have apart : ∀ sign, Text.isAlphabetic sign = false → c ≠ sign := by
    rintro sign silent rfl
    rw [letter] at silent
    cases silent
  have starts : isWordStart dialect c = true := by
    rw [isWordStart, letter, Bool.true_or]
  rw [start, if_neg (apart '/' rfl), if_neg (apart '"' rfl), if_neg (apart '\'' rfl),
    if_neg (apart '.' rfl), isOperatorStart_of_isAlphabetic letter, starts]
  rfl

/-- What begins words in the extended dialect only begins nothing in the mini dialect. -/
theorem start_mini_stray {c : Char} (cs : List Char) (noLetter : Text.isAlphabetic c = false)
    (only : isWordStart .extended c = true) : start .mini c cs = .stray c := by
  rw [isWordStart, noLetter, Bool.false_or, Dialect.isExtended, Bool.true_and, Bool.or_eq_true,
    decide_eq_true_iff, decide_eq_true_iff] at only
  rcases only with rfl | rfl
  all_goals rfl

/-- What the front of a text is in the extended dialect, if it is this one in the mini dialect. -/
def widened (text : List Char) : Front → Front
  | lexeme kind length error =>
    lexeme (kind.widened (String.ofList (text.take length))) length error
  | front => front

/-- That a front is no name. -/
def IsNameless : Front → Prop
  | lexeme kind _ _ => kind ≠ .ident
  | _ => True

theorem widened_of_isNameless {front : Front} (nameless : front.IsNameless) (text : List Char) :
    front.widened text = front := by
  cases front with
  | lexeme kind length error => rw [widened, TokenKind.widened_of_ne _ nameless]
  | _ => rfl

theorem slash_isNameless (cs : List Char) : (slash cs).IsNameless := by
  unfold slash
  repeat' split
  all_goals simp [IsNameless]

theorem string_isNameless (cs : List Char) : (string cs).IsNameless := by
  unfold string
  dsimp only
  split
  all_goals simp [IsNameless]

theorem character_isNameless (cs : List Char) : (character cs).IsNameless := by
  unfold character
  dsimp only
  repeat' split
  all_goals simp [IsNameless]

theorem number_isNameless (cs : List Char) : (number cs).IsNameless := by
  unfold number
  dsimp only
  split
  all_goals simp [IsNameless]

theorem operator_ne_ident (c : Char) (next : Option Char) : (operator c next).1 ≠ .ident := by
  rw [operator]
  repeat' split
  all_goals simp

theorem punctuation?_ne_ident (c : Char) : punctuation? c ≠ some .ident := by
  rw [punctuation?.eq_def]
  split
  all_goals simp

/-- Only with a letter begins a name of the mini dialect. -/
theorem start_mini_isNameless {c : Char} (cs : List Char)
    (noLetter : Text.isAlphabetic c = false) : (start .mini c cs).IsNameless := by
  have noWord : isWordStart .mini c = false := by
    rw [isWordStart, noLetter]
    rfl
  rw [start, noWord]
  split
  · exact slash_isNameless cs
  split
  · exact string_isNameless cs
  split
  · exact character_isNameless cs
  split
  · simp [dots, Dialect.isMini, IsNameless]
  split
  · exact operator_ne_ident c cs.head?
  rw [if_neg Bool.false_ne_true]
  split
  · exact number_isNameless _
  · cases sign : punctuation? c with
    | none => exact trivial
    | some kind =>
        intro name
        rw [name] at sign
        exact punctuation?_ne_ident c sign

/-- **What the extended dialect finds at the front of a text is told by what the mini dialect finds
there**, unless that is a character with which words begin in the extended dialect only, or a dot
before another. -/
theorem of_widened {text : List Char}
    (starts : ∀ c, of .mini text = .stray c → c ≠ '_' ∧ c ≠ '$')
    (alone : of .mini text = .lexeme .dot 1 none → (text.drop 1).head? ≠ some '.') :
    of .extended text = (of .mini text).widened text := by
  cases text with
  | nil => rfl
  | cons c cs =>
      rw [of_cons] at starts alone ⊢
      rw [of_cons]
      by_cases isDot : c = '.'
      · obtain rfl := isDot
        have noDot : cs.head? ≠ some '.' := alone rfl
        change dots .extended cs = dots .mini cs
        cases cs with
        | nil => rfl
        | cons d cs =>
            have differs : d ≠ '.' := fun same => noDot (congrArg some same)
            simp [dots, Dialect.isMini, differs]
      · cases letter : Text.isAlphabetic c with
        | true =>
            -- a word is as long in both dialects
            rw [start_of_isAlphabetic _ cs letter, start_of_isAlphabetic _ cs letter, word, word,
              widened, List.take_succ_cons, take_run, classifyWord_widened]
        | false =>
            rw [widened_of_isNameless (start_mini_isNameless cs letter)]
            cases only : isWordStart .extended c with
            | true =>
                -- such a character is stray in the mini dialect
                obtain ⟨noScore, noDollar⟩ := starts c (start_mini_stray cs letter only)
                simp [isWordStart, letter, noScore, noDollar] at only
            | false =>
                have neither : isWordStart .mini c = false := by
                  rw [isWordStart, letter]
                  rfl
                rw [start, start, if_neg isDot, if_neg isDot, only, neither]
                rfl

theorem of_widened_eq {text : List Char} {front : Front} (found : of .mini text = front)
    (starts : ∀ c, front = .stray c → c ≠ '_' ∧ c ≠ '$')
    (alone : front = .lexeme .dot 1 none → (text.drop 1).head? ≠ some '.') :
    of .extended text = front.widened text := by
  rw [← found] at starts alone ⊢
  exact of_widened starts alone

/-- **Both dialects find the same at the front of a portable text.** -/
theorem of_extended {text : List Char} (portable : Portable text (of .mini text)) :
    of .extended text = of .mini text := by
  have wide : of .extended text = (of .mini text).widened text := by
    apply of_widened
    · intro c found
      rw [found] at portable
      exact portable.elim
    · intro found
      rw [found] at portable
      exact portable.2 rfl
  rw [wide]
  cases found : of .mini text with
  | lexeme kind length error =>
      rw [found] at portable
      rw [widened, TokenKind.widened_of_unreserved portable.1]
  | _ => rfl

theorem of_extended_eq {text : List Char} {front : Front} (found : of .mini text = front)
    (portable : Portable text front) : of .extended text = front := by
  rw [← found] at portable
  exact (of_extended portable).trans found

end Front

/-- A scan in the extended dialect that goes the way of another, silently. -/
structure Scan.Carries (scan again : Scan) : Prop where
  lexeme : again.token.lexeme = scan.token.lexeme
  faults : again.faults = []
  dialect_next : again.next.dialect = .extended
  finished_next : again.next.finished = scan.next.finished
  rest_next : again.next.cursor.rest = scan.next.cursor.rest

namespace Scanner

/-- What differs in blanks in front is the same behind them. -/
theorem rest_behind_blanks {cursor again : SourceCursor}
    (same : again.rest.dropWhile Text.isBlank = cursor.rest.dropWhile Text.isBlank) :
    (again.advanceWhile Text.isBlank).rest = (cursor.advanceWhile Text.isBlank).rest := by
  rw [SourceCursor.advanceWhile_rest, SourceCursor.advanceWhile_rest, same]

/-- **One scan gives the same lexeme in both dialects**, if it reports nothing and what it finds is
portable. -/
theorem scanFrom_extended {cursor again : SourceCursor}
    (same : again.rest.dropWhile Text.isBlank = cursor.rest.dropWhile Text.isBlank)
    (quiet : (scanFrom .mini cursor).faults = [])
    (plain : (scanFrom .mini cursor).token.kind = .ident →
      Unreserved (scanFrom .mini cursor).token.text)
    (apart : (scanFrom .mini cursor).token.kind = .dot →
      (scanFrom .mini cursor).next.cursor.rest.head? ≠ some '.') :
    (scanFrom .mini cursor).Carries (scanFrom .extended again) := by
  revert again
  fun_induction scanFrom .mini cursor with
  -- In the order of the scan: the end of the text, a comment, a stray character, a lexeme, a cut.
  | case1 cursor here found =>
      intro again same
      have there := rest_behind_blanks same
      rw [← there] at found
      rw [scanFrom_of_finish (Front.of_extended_eq found trivial)]
      exact ⟨rfl, rfl, rfl, rfl, there⟩
  | case2 cursor here length found ih =>
      intro again same
      have there := rest_behind_blanks same
      rw [← there] at found
      rw [scanFrom_of_comment (Front.of_extended_eq found trivial)]
      apply ih quiet plain apart
      rw [SourceCursor.advanceBy_rest, SourceCursor.advanceBy_rest, there]
  | case3 cursor here c found scan ih => cases quiet
  | case4 cursor here kind length error found behind =>
      intro again same
      have there := rest_behind_blanks same
      -- `plain` and `apart` speak of the scan of the mini dialect; they are needed for the text in
      -- front of the other cursor.
      have left : behind.rest = (again.advanceWhile Text.isBlank).rest.drop length := by
        rw [there]
        exact SourceCursor.advanceBy_rest length here
      have text : (again.advanceWhile Text.isBlank).rest.take length = here.rest.take length := by
        rw [there]
      dsimp only at plain apart
      rw [left] at apart
      rw [← text] at plain
      rw [← there] at found
      rw [scanFrom_of_lexeme (Front.of_extended_eq found ⟨plain, apart⟩)]
      cases error with
      | some error => cases quiet
      | none =>
          refine ⟨?_, rfl, rfl, rfl, ?_⟩
          · rw [Token.lexeme, Token.lexeme, text]
          · exact (SourceCursor.advanceBy_rest length _).trans left.symm
  | case5 cursor here length error found behind => cases quiet

/-- With a dot begins a dot in the mini dialect. -/
theorem kind_of_dot {cursor : SourceCursor} (dotted : cursor.rest.head? = some '.') :
    (scanFrom .mini cursor).token.kind = .dot := by
  obtain ⟨after, rest⟩ := List.head?_eq_some_iff.mp dotted
  have found : Front.of .mini (cursor.advanceWhile Text.isBlank).rest = .lexeme .dot 1 none := by
    rw [SourceCursor.advanceWhile_rest, rest, List.dropWhile_cons_of_neg (by decide)]
    rfl
  rw [scanFrom_of_lexeme found]

/-- A scanner of the extended dialect before the text that one of the mini dialect is before, but
for blanks. -/
structure Alongside (scanner again : Scanner) : Prop where
  mini : scanner.dialect = .mini
  extended : again.dialect = .extended
  open_mini : scanner.finished = false
  open_extended : again.finished = false
  rest : again.cursor.rest.dropWhile Text.isBlank = scanner.cursor.rest.dropWhile Text.isBlank

section Alongside

variable {scanner again : Scanner}

theorem Alongside.scan (along : Alongside scanner again) (quiet : scanner.scan.faults = [])
    (plain : scanner.scan.token.kind = .ident → Unreserved scanner.scan.token.text)
    (apart : scanner.scan.token.kind = .dot →
      scanner.scan.next.cursor.rest.head? ≠ some '.') :
    scanner.scan.Carries again.scan := by
  rw [scan_of_open along.open_mini, along.mini] at quiet plain apart ⊢
  rw [scan_of_open along.open_extended, along.extended]
  exact scanFrom_extended along.rest quiet plain apart

/-- The scanners stay alongside unless one gives the end. -/
theorem Alongside.next (along : Alongside scanner again) (more : scanner.scan.token.kind ≠ .eot)
    (carries : scanner.scan.Carries again.scan) :
    Alongside scanner.scan.next again.scan.next := by
  obtain ⟨text, kind, length, error, takes⟩ := scan_takes along.open_mini more
  refine ⟨takes.dialect_next.trans along.mini, carries.dialect_next, takes.open_next,
    carries.finished_next.trans takes.open_next, ?_⟩
  rw [carries.rest_next]

/-- Behind a dot that no other follows stands no dot. -/
theorem Alongside.apart (along : Alongside scanner again)
    (more : scanner.scan.token.kind ≠ .eot)
    (apart : scanner.words.IsChain fun token next => token.kind = .dot → next.kind ≠ .dot)
    (isDot : scanner.scan.token.kind = .dot) :
    scanner.scan.next.cursor.rest.head? ≠ some '.' := by
  intro dotted
  obtain ⟨text, kind, length, error, takes⟩ := scan_takes along.open_mini more
  have nextDot : scanner.scan.next.scan.token.kind = .dot := by
    rw [scan_of_open takes.open_next, takes.dialect_next, along.mini]
    exact kind_of_dot dotted
  have nextMore : scanner.scan.next.scan.token.kind ≠ .eot := by
    rw [nextDot]
    decide
  rw [words_of_more more, words_of_more nextMore, List.isChain_cons_cons] at apart
  exact apart.1 isDot nextDot

/-- **The scanners of both dialects go through a text in step**, if the mini dialect reports nothing
in it, none of its names is reserved in the extended dialect and no two dots follow each other. -/
theorem scans_extended (along : Alongside scanner again)
    (quiet : scanner.scans.flatMap Scan.faults = [])
    (plain : ∀ token ∈ scanner.words, token.kind = .ident → Unreserved token.text)
    (apart : scanner.words.IsChain fun token next => token.kind = .dot → next.kind ≠ .dot) :
    again.words.map Token.lexeme = scanner.words.map Token.lexeme ∧
      again.scans.flatMap Scan.faults = [] := by
  induction scanner using scans_induction generalizing again with
  | finished scanner h =>
      rw [scans_of_end h, List.flatMap_singleton] at quiet
      have carries : scanner.scan.Carries again.scan := by
        apply along.scan quiet
        all_goals
          intro other
          rw [h] at other
          cases other
      have endsAgain : again.scan.token.kind = .eot :=
        (congrArg Prod.fst carries.lexeme).trans h
      rw [words_of_end h, words_of_end endsAgain, scans_of_end endsAgain, List.flatMap_singleton]
      exact ⟨rfl, carries.faults⟩
  | more scanner h ih =>
      rw [scans_of_more h, List.flatMap_cons, List.append_eq_nil_iff] at quiet
      have first : scanner.scan.token ∈ scanner.words := by
        rw [words_of_more h]
        exact List.mem_cons_self
      have carries : scanner.scan.Carries again.scan :=
        along.scan quiet.1 (plain _ first) (along.apart h apart)
      have moreAgain : again.scan.token.kind ≠ .eot := by
        intro ends
        exact h ((congrArg Prod.fst carries.lexeme).symm.trans ends)
      rw [words_of_more h] at plain apart
      obtain ⟨lexemes, silent⟩ := ih (along.next h carries) quiet.2
        (fun token later => plain token (List.mem_cons_of_mem _ later)) apart.of_cons
      rw [words_of_more h, words_of_more moreAgain, scans_of_more moreAgain, List.flatMap_cons,
        carries.faults, List.map_cons, List.map_cons, carries.lexeme, lexemes]
      exact ⟨rfl, silent⟩

end Alongside

end Scanner

end MiniJ
