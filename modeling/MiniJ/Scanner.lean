import MiniJ.Lexeme.Front
import MiniJ.Source.Cursor
import MiniJ.Text.Blank
import MiniJ.Token.Basic

/-!
# Scanning

A scanner makes the characters of a source text into tokens, one at a time. `Scanner.scan` always
gives a token: it passes over blanks, comments and stray characters, says what was wrong on the way,
and gives the token for the end of the text once nothing is left or something ended the input early.
From then on the scanner is finished and gives that token for ever.

`lex` scans a whole text: the tokens up to and with the first that stands for the end, and all
faults in the order in which they were found.
-/

set_option autoImplicit false

namespace MiniJ

/-- A text being made into tokens. -/
structure Scanner where
  dialect : Dialect
  cursor : SourceCursor
  /-- Whether the token for the end was given. -/
  finished : Bool
  deriving DecidableEq

/-- The outcome of asking for a token. -/
structure Scan where
  token : Token
  /-- What was wrong between the token before and the end of this one, in order. -/
  faults : List LexicalFault
  next : Scanner
  deriving DecidableEq

namespace Scanner

/-- The scanner before the first character of a source text. -/
def start (dialect : Dialect) (source : Source) : Scanner :=
  ⟨dialect, .start source, false⟩

/-- The place of an error about a lexeme between two cursors: an integer is faulted for what stands
behind it, everything else where it begins. -/
def faultPosition (error : LexicalError) (before behind : SourceCursor) : Position :=
  match error with
  | .invalidNumber _ => behind.position
  | _ => before.position

/-- A cursor behind the front of a text has less before it than the cursor in front of the
blanks. -/
theorem rest_lt_of_front {dialect : Dialect} {cursor : SourceCursor} {front : Front} {n : Nat}
    (found : Front.of dialect (cursor.advanceWhile Text.isBlank).rest = front)
    (more : front ≠ .finish) (positive : 0 < n) :
    ((cursor.advanceWhile Text.isBlank).advanceBy n).rest.length < cursor.rest.length := by
  have nonempty : (cursor.advanceWhile Text.isBlank).rest ≠ [] := by
    intro h
    rw [h] at found
    exact more found.symm
  have present := List.length_pos_iff.mpr nonempty
  have shorter : (cursor.advanceWhile Text.isBlank).rest.length ≤ cursor.rest.length := by
    rw [SourceCursor.advanceWhile_rest]
    exact (List.dropWhile_suffix _).length_le
  rw [SourceCursor.advanceBy_rest, List.length_drop]
  omega

/-- The next token from a cursor on. -/
def scanFrom (dialect : Dialect) (cursor : SourceCursor) : Scan :=
  let here := cursor.advanceWhile Text.isBlank
  match _found : Front.of dialect here.rest with
  | .finish => ⟨.endAt here.position, [], ⟨dialect, here, true⟩⟩
  | .comment length => scanFrom dialect (here.advanceBy length)
  | .stray c =>
    -- It gives no token: its fault goes before those of the scan behind it.
    let scan := scanFrom dialect here.advance
    { scan with faults := ⟨.invalidCharacter c, here.position⟩ :: scan.faults }
  | .lexeme kind length error =>
    let behind := here.advanceBy length
    ⟨⟨kind, String.ofList (here.rest.take length), here.position⟩,
      error.toList.map fun error => ⟨error, faultPosition error here behind⟩,
      ⟨dialect, behind, false⟩⟩
  | .breakOff length error =>
    -- The fault stands where the lexeme begins, the end where the scan stops.
    let behind := here.advanceBy length
    ⟨.endAt behind.position, [⟨error, here.position⟩], ⟨dialect, behind, true⟩⟩
termination_by cursor.rest.length
decreasing_by
  · exact rest_lt_of_front _found (by simp) (Front.length_pos_of_eq _found (by simp))
  · exact rest_lt_of_front _found (by simp) Nat.one_pos

/-- Ask for the next token. -/
def scan (scanner : Scanner) : Scan :=
  if scanner.finished then ⟨.endAt scanner.cursor.position, [], scanner⟩
  else scanFrom scanner.dialect scanner.cursor

/-- The outcomes of asking a number of times. -/
def scanTimes : Nat → Scanner → List Scan
  | 0, _ => []
  | n + 1, scanner => scanner.scan :: scanTimes n scanner.scan.next

theorem rest_lt_of_scanFrom {dialect : Dialect} {cursor : SourceCursor}
    (more : (scanFrom dialect cursor).token.kind ≠ .eot) :
    (scanFrom dialect cursor).next.cursor.rest.length < cursor.rest.length := by
  fun_induction scanFrom dialect cursor with
  | case1 => exact absurd rfl more
  | case2 cursor here length found ih =>
    exact Nat.lt_trans (ih more)
      (rest_lt_of_front found (by simp) (Front.length_pos_of_eq found (by simp)))
  | case3 cursor here c found scan ih =>
    exact Nat.lt_trans (ih more) (rest_lt_of_front found (by simp) Nat.one_pos)
  | case4 cursor here kind length error found behind =>
    exact rest_lt_of_front found (by simp) (Front.length_pos_of_eq found (by simp))
  | case5 => exact absurd rfl more

/-- **A token other than the end takes up characters.** -/
theorem rest_lt_of_scan {scanner : Scanner} (more : scanner.scan.token.kind ≠ .eot) :
    scanner.scan.next.cursor.rest.length < scanner.cursor.rest.length := by
  unfold scan at more ⊢
  split
  · rename_i finished
    rw [if_pos finished] at more
    exact absurd rfl more
  · rename_i finished
    rw [if_neg finished] at more
    exact rest_lt_of_scanFrom more

/-- The outcomes of asking for tokens up to and with the first that stands for the end. -/
def scans (scanner : Scanner) : List Scan :=
  let scan := scanner.scan
  if _more : scan.token.kind = .eot then [scan] else scan :: scans scan.next
termination_by scanner.cursor.rest.length
decreasing_by exact rest_lt_of_scan _more

end Scanner

/-- What scanning a whole text gives. -/
structure Lexed where
  /-- The tokens, the last of them the end. -/
  tokens : List Token
  /-- The faults, in the order in which they were found. -/
  faults : List LexicalFault
  deriving DecidableEq

/-- Scan a whole text. -/
def lex (dialect : Dialect) (source : Source) : Lexed :=
  let scans := (Scanner.start dialect source).scans
  ⟨scans.map Scan.token, scans.flatMap Scan.faults⟩

end MiniJ
