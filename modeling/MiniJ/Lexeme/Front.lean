import MiniJ.Lexeme.Fault
import MiniJ.Text.Numeric
import MiniJ.Token.Spelling

/-!
# The front of a text

`Front.of` says what a text begins with: a lexeme of some kind and length, a comment, a character
that begins nothing, something that ends the input early, or the end itself. Blanks are no business
of this module: a blank is not part of any lexeme outside a literal, and whoever asks has passed
over those in front.

A lexeme is given by its length, so its text is a prefix of the text by construction. Lengths of
comments and lexemes are positive (`Front.length_pos`).
-/

set_option autoImplicit false

namespace MiniJ

/-- What a text begins with. -/
inductive Front where
  /-- Nothing: the text is over. -/
  | finish
  /-- A comment of the given length. -/
  | comment (length : Nat)
  /-- A character that begins neither a lexeme nor a comment. -/
  | stray (c : Char)
  /-- A lexeme of the given length, and what is wrong with it, if anything. -/
  | lexeme (kind : TokenKind) (length : Nat) (error : Option LexicalError)
  /-- Something of the given length with which the input ends early. -/
  | breakOff (length : Nat) (error : LexicalError)
  deriving DecidableEq

namespace Front

/-! ## Words and numbers -/

/-- Whether a word may begin with a character. -/
def isWordStart (dialect : Dialect) (c : Char) : Bool :=
  Text.isAlphabetic c || (dialect.isExtended && (c = '_' || c = '$'))

/-- Whether a word may go on with a character. -/
def isWordContinue (c : Char) : Bool :=
  Text.isAlphanumeric c || c = '_' || c = '$'

/-- The word that begins with `c` and goes on in `cs` as far as it can. -/
def word (dialect : Dialect) (c : Char) (cs : List Char) : Front :=
  let more := cs.takeWhile isWordContinue
  .lexeme (classifyWord (String.ofList (c :: more)) dialect) (more.length + 1) none

/-- What is wrong with an integer before the text `cs`. -/
def integerError? : List Char → Option LexicalError
  | [] => none
  | c :: _ => if Text.isAlphabetic c || c = '_' then some (.invalidNumber c) else none

/-- The number at the front of `cs`, which begins with a digit. A dot behind the digits belongs to
the number, with or without digits behind it. -/
def number (cs : List Char) : Front :=
  let whole := (cs.takeWhile Char.isDigit).length
  match cs.dropWhile Char.isDigit with
  -- Only one dot belongs to a number: a second one begins the next lexeme.
  | '.' :: after =>
    .lexeme (.literal .float) (whole + 1 + (after.takeWhile Char.isDigit).length) none
  | after => .lexeme (.literal .int) whole (integerError? after)

/-! ## Quoted literals -/

/-- The string literal whose opening quote stands before `cs`. Nothing but the closing quote ends
it. -/
def string (cs : List Char) : Front :=
  let inside := (cs.takeWhile (· ≠ '"')).length
  match cs.dropWhile (· ≠ '"') with
  | [] => .breakOff (inside + 1) .unterminatedString
  | _ :: _ => .lexeme (.literal .string) (inside + 2) none

/-- The character literal whose opening quote stands before the text. The first character may be
any, a line end too; what follows it ends with the line at the latest. -/
def character : List Char → Front
  | [] => .lexeme (.literal .char) 1 (some .unterminatedCharacter)
  | '\'' :: _ => .lexeme (.literal .char) 2 (some .emptyCharacter)
  | _ :: cs =>
    let extra := (cs.takeWhile fun c => c ≠ '\'' && c ≠ '\n').length
    match cs.dropWhile fun c => c ≠ '\'' && c ≠ '\n' with
    | '\'' :: _ =>
      if extra = 0 then .lexeme (.literal .char) 3 none
      else .lexeme (.literal .char) (extra + 3) (some .longCharacter)
    -- A line end that cuts the literal short is left in place.
    | _ => .lexeme (.literal .char) (extra + 2) (some .unterminatedCharacter)

/-! ## Comments, operators and dots -/

/-- The number of characters up to and with the first `*/`, when `before` came earlier. -/
def commentEnd? (before : Nat) : List Char → Option Nat
  | [] => none
  | '*' :: '/' :: _ => some (before + 2)
  | _ :: cs => commentEnd? (before + 1) cs

/-- What begins with a slash that stands before the text: a compound assignment, a comment, or a
division. The sign that opens a comment has no part in closing it, and a line comment takes its line
end with it. -/
def slash : List Char → Front
  | '=' :: _ => .lexeme .compoundAssign 2 none
  | '/' :: cs =>
    let line := (cs.takeWhile (· ≠ '\n')).length
    match cs.dropWhile (· ≠ '\n') with
    | [] => .comment (line + 2)
    | _ :: _ => .comment (line + 3)
  | '*' :: cs =>
    match commentEnd? 2 cs with
    | some length => .comment length
    | none => .breakOff (cs.length + 2) .unterminatedComment
  | _ => .lexeme .binaryOp 1 none

/-- The kind and the length of the operator that begins with `c`, when `next` follows. -/
def operator (c : Char) (next : Option Char) : TokenKind × Nat :=
  if c = '=' then
    if next = some '=' then (.compareOp, 2) else (.assign, 1)
  else if isCompoundAssignable c && next = some '=' then (.compoundAssign, 2)
  else if isDualUse c then
    if next = some c then (.incDec, 2) else (.genericOp, 1)
  else if c = '!' then
    if next = some '=' then (.compareOp, 2) else (.unaryOp, 1)
  else if c = '<' then
    if next = some '=' then (.compareOp, 2) else (.leftChevron, 1)
  else if c = '>' then
    if next = some '=' then (.compareOp, 2) else (.rightChevron, 1)
  else if (c = '|' || c = '&') && next = some c then (.binaryOp, 2)
  else (.binaryOp, 1)

/-- What begins with a dot that stands before the text. -/
def dots (dialect : Dialect) (cs : List Char) : Front :=
  if dialect.isMini then .lexeme .dot 1 none
  else
    match cs with
    | '.' :: '.' :: _ => .lexeme .ellipsis 3 none
    | '.' :: _ => .breakOff 2 .doubleDot
    | _ => .lexeme .dot 1 none

/-! ## All together -/

/-- What a text begins with. -/
def of (dialect : Dialect) : List Char → Front
  | [] => .finish
  | '/' :: cs => slash cs
  | '"' :: cs => string cs
  | '\'' :: cs => character cs
  | '.' :: cs => dots dialect cs
  | c :: cs =>
    if isOperatorStart c then
      .lexeme (operator c cs.head?).1 (operator c cs.head?).2 none
    else if isWordStart dialect c then word dialect c cs
    else if c.isDigit then number (c :: cs)
    else
      match punctuation? c with
      | some kind => .lexeme kind 1 none
      | none => .stray c

/-- The number of characters that a front takes up. -/
def length : Front → Nat
  | finish => 0
  | comment length => length
  | stray _ => 1
  | lexeme _ length _ => length
  | breakOff length _ => length

theorem operator_length_pos (c : Char) (next : Option Char) : 0 < (operator c next).2 := by
  unfold operator
  repeat' split
  all_goals simp

theorem lt_of_commentEnd? {before length : Nat} {cs : List Char}
    (h : commentEnd? before cs = some length) : before < length := by
  fun_induction commentEnd? before cs with
  | case1 => simp at h
  | case2 before tail =>
    simp only [Option.some.injEq] at h
    omega
  | case3 before c cs hc ih => exact Nat.lt_of_succ_lt (ih h)

theorem slash_length_pos (cs : List Char) : 0 < (slash cs).length := by
  unfold slash
  repeat' split
  all_goals try simp [length]
  rename_i h
  exact Nat.lt_trans (by decide) (lt_of_commentEnd? h)

theorem string_length_pos (cs : List Char) : 0 < (string cs).length := by
  unfold string
  dsimp only
  split <;> simp [length]

theorem character_length_pos (cs : List Char) : 0 < (character cs).length := by
  unfold character
  dsimp only
  repeat' split
  all_goals simp [length]

theorem dots_length_pos (dialect : Dialect) (cs : List Char) : 0 < (dots dialect cs).length := by
  unfold dots
  repeat' split
  all_goals simp [length]

theorem number_length_pos {c : Char} (cs : List Char) (h : c.isDigit = true) :
    0 < (number (c :: cs)).length := by
  unfold number
  dsimp only
  split
  · simp only [length]
    omega
  · simp [length, h]

/-- **Only the end of a text takes up no character.** -/
theorem length_pos (dialect : Dialect) {cs : List Char} (h : cs ≠ []) :
    0 < (of dialect cs).length := by
  unfold of
  split
  · exact absurd rfl h
  · exact slash_length_pos _
  · exact string_length_pos _
  · exact character_length_pos _
  · exact dots_length_pos _ _
  · split
    · exact operator_length_pos _ _
    · split
      · simp [word, length]
      · split
        · rename_i hd
          exact number_length_pos _ hd
        · split <;> simp [length]

theorem length_pos_of_eq {dialect : Dialect} {cs : List Char} {front : Front}
    (found : of dialect cs = front) (more : front ≠ finish) : 0 < front.length := by
  rw [← found]
  apply length_pos
  rintro rfl
  exact more found.symm

end Front

end MiniJ
