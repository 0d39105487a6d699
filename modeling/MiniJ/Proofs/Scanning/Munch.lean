import MiniJ.Proofs.Scanning.Dialects
import MiniJ.Proofs.Scanning.Reports

/-!
# The longest lexeme

`IsLexeme` says which texts are lexemes of a dialect, and of which kind, without saying how they are
found. The scanner takes the longest of them: what it finds at the front of a text is a lexeme, apart
from a character literal that is wrong (`Front.isLexeme`), and no lexeme in front of the text is
longer or as long and of another kind (`IsLexeme.reaches`). Where a stray character is reported there
is no lexeme at all.

The main statement is `lex_longest`.
-/

set_option autoImplicit false

namespace MiniJ

/-! ## Lexemes -/

/-- Every operator with its kind. -/
def operators : List (List Char × TokenKind) :=
  [(['='], .assign), (['=', '='], .compareOp), (['!', '='], .compareOp), (['<', '='], .compareOp),
    (['>', '='], .compareOp), (['+'], .genericOp), (['-'], .genericOp), (['*'], .binaryOp),
    (['/'], .binaryOp), (['%'], .binaryOp), (['|'], .binaryOp), (['&'], .binaryOp),
    (['~'], .binaryOp), (['|', '|'], .binaryOp), (['&', '&'], .binaryOp), (['!'], .unaryOp),
    (['<'], .leftChevron), (['>'], .rightChevron), (['+', '='], .compoundAssign),
    (['-', '='], .compoundAssign), (['*', '='], .compoundAssign), (['/', '='], .compoundAssign),
    (['%', '='], .compoundAssign), (['|', '='], .compoundAssign), (['&', '='], .compoundAssign),
    (['+', '+'], .incDec), (['-', '-'], .incDec)]

/-- That a text is a lexeme of a kind, with which nothing is wrong. -/
inductive IsLexeme (dialect : Dialect) : List Char → TokenKind → Prop where
  /-- A letter, in the extended dialect an underscore or a dollar sign, too, and then letters,
  digits, underscores and dollar signs. -/
  | word {c : Char} {cs : List Char}
      (starts : Text.isAlphabetic c = true ∨ (dialect = .extended ∧ (c = '_' ∨ c = '$')))
      (continues : ∀ d ∈ cs, Text.isAlphanumeric d = true ∨ d = '_' ∨ d = '$') :
      IsLexeme dialect (c :: cs) (classifyWord (String.ofList (c :: cs)) dialect)
  | integer {c : Char} {cs : List Char} (digits : ∀ d ∈ c :: cs, d.isDigit = true) :
      IsLexeme dialect (c :: cs) (.literal .int)
  /-- Digits, one dot, and perhaps more digits. -/
  | float {c : Char} {cs fraction : List Char} (digits : ∀ d ∈ c :: cs, d.isDigit = true)
      (more : ∀ d ∈ fraction, d.isDigit = true) :
      IsLexeme dialect (c :: cs ++ '.' :: fraction) (.literal .float)
  | string {inside : List Char} (unquoted : '"' ∉ inside) :
      IsLexeme dialect ('"' :: (inside ++ ['"'])) (.literal .string)
  | character {c : Char} (unquoted : c ≠ '\'') :
      IsLexeme dialect ['\'', c, '\''] (.literal .char)
  | operator {text : List Char} {kind : TokenKind} (listed : (text, kind) ∈ operators) :
      IsLexeme dialect text kind
  | punctuation {c : Char} {kind : TokenKind} (sign : punctuation? c = some kind) :
      IsLexeme dialect [c] kind
  | ellipsis (extended : dialect = .extended) : IsLexeme dialect ['.', '.', '.'] .ellipsis

/-- No lexeme is empty. -/
theorem IsLexeme.ne_nil {dialect : Dialect} {text : List Char} {kind : TokenKind}
    (lexeme : IsLexeme dialect text kind) : text ≠ [] := by
  cases lexeme with
  | operator listed =>
      have nonempty : ∀ entry ∈ operators, entry.1 ≠ [] := by decide
      exact nonempty _ listed
  | _ => simp

/-- That a text is the longest lexeme with which another text begins, and of which kind alone. -/
structure IsLongestLexeme (dialect : Dialect) (ahead text : List Char) (kind : TokenKind) : Prop where
  isLexeme : IsLexeme dialect text kind
  front : text <+: ahead
  longest : ∀ other otherKind, IsLexeme dialect other otherKind → other <+: ahead →
    other.length ≤ text.length
  kind_eq : ∀ otherKind, IsLexeme dialect text otherKind → otherKind = kind

namespace Front

variable {dialect : Dialect} {c : Char} {cs text : List Char} {kind : TokenKind} {n : Nat}
  {error : Option LexicalError}

/-! ## What begins a lexeme -/

theorem isWordStart_iff :
    isWordStart dialect c = true ↔
      Text.isAlphabetic c = true ∨ (dialect = .extended ∧ (c = '_' ∨ c = '$')) := by
  cases dialect with
  | mini => simp [isWordStart, Dialect.isExtended]
  | extended => simp [isWordStart, Dialect.isExtended]

theorem isWordContinue_iff :
    isWordContinue c = true ↔ Text.isAlphanumeric c = true ∨ c = '_' ∨ c = '$' := by
  simp [isWordContinue, or_assoc]

theorem start_of_isWordStart (cs : List Char) (starts : isWordStart dialect c = true) :
    start dialect c cs = word dialect c cs := by
  rcases isWordStart_iff.mp starts with letter | ⟨rfl, rfl | rfl⟩
  · exact start_of_isAlphabetic dialect cs letter
  · rfl
  · rfl

theorem isAlphabetic_of_isDigit (digit : c.isDigit = true) : Text.isAlphabetic c = false := by
  -- the first letter stands behind the digits
  have low : c.toNat < 0x41 := by
    rw [Char.isDigit, Bool.and_eq_true, decide_eq_true_eq, decide_eq_true_eq] at digit
    exact Nat.lt_of_le_of_lt (UInt32.le_iff_toNat_le.mp digit.2) (by decide)
  rw [Text.isAlphabetic, Text.alphabeticRanges, Text.inRanges, if_pos low]

/-- No digit begins anything but a number. -/
theorem start_of_isDigit (cs : List Char) (digit : c.isDigit = true) :
    start dialect c cs = number (c :: cs) := by
  have apart : ∀ sign, sign.isDigit = false → c ≠ sign := by
    rintro sign silent rfl
    rw [digit] at silent
    cases silent
  have noOperator : isOperatorStart c = false := by
    have silent : (['+', '*', '-', '%', '|', '&', '~', '!', '=', '>', '<'].all fun sign =>
        !sign.isDigit) = true := rfl
    rw [isOperatorStart, decide_eq_false_iff_not]
    intro member
    exact apart c (Bool.not_eq_true' _ ▸ List.all_eq_true.mp silent c member) rfl
  have noWord : isWordStart dialect c = false := by
    rw [Bool.eq_false_iff, Ne, isWordStart_iff, isAlphabetic_of_isDigit digit]
    rintro (letter | ⟨-, score | dollar⟩)
    · cases letter
    · exact apart '_' rfl score
    · exact apart '$' rfl dollar
  rw [start, if_neg (apart '/' rfl), if_neg (apart '"' rfl), if_neg (apart '\'' rfl),
    if_neg (apart '.' rfl), noOperator, noWord, digit]
  rfl

theorem start_of_isOperatorStart (dialect : Dialect) (cs : List Char)
    (sign : isOperatorStart c = true) :
    start dialect c cs = .lexeme (operator c cs.head?).1 (operator c cs.head?).2 none := by
  have apart : ∀ other, isOperatorStart other = false → c ≠ other := by
    rintro other silent rfl
    rw [sign] at silent
    cases silent
  rw [start, if_neg (apart '/' rfl), if_neg (apart '"' rfl), if_neg (apart '\'' rfl),
    if_neg (apart '.' rfl), if_pos sign]

/-! ## Operators -/

/-- An operator is alone before what neither doubles it nor compounds it. -/
theorem operator_alone {next : Option Char} (noEquals : next ≠ some '=')
    (single : next ≠ some c) : operator c next = operator c none := by
  simp [operator, noEquals, single]

/-- What is found where an operator begins is in the table. -/
theorem operator_listed (sign : isOperatorStart c = true) (next : Option Char) :
    ((c :: next.toList).take (operator c next).2, (operator c next).1) ∈ operators := by
  have checked : (['+', '*', '-', '%', '|', '&', '~', '!', '=', '>', '<'].all fun c =>
      (operator c none).2 = 1 &&
        [none, some '=', some c].all fun next =>
          ((c :: next.toList).take (operator c next).2, (operator c next).1) ∈ operators) =
      true := rfl
  rw [isOperatorStart, decide_eq_true_eq] at sign
  have found := List.all_eq_true.mp checked c sign
  simp only [Bool.and_eq_true, decide_eq_true_eq, List.all_eq_true] at found
  obtain ⟨one, listed⟩ := found
  -- an operator looks at two next characters only, and takes all others for none
  by_cases equals : next = some '='
  · rw [equals]
    exact listed _ (by simp)
  by_cases doubled : next = some c
  · rw [doubled]
    exact listed _ (by simp)
  · have alone := listed none (by simp)
    rw [operator_alone equals doubled]
    rw [one] at alone ⊢
    exact alone

/-- An operator of the table is found where it begins, unless that is a slash. -/
theorem operator_of_listed (listed : (c :: cs, kind) ∈ operators) :
    (c = '/' ∧ ((cs = [] ∧ kind = .binaryOp) ∨ (cs = ['='] ∧ kind = .compoundAssign))) ∨
      (isOperatorStart c = true ∧ cs.length ≤ 1 ∧ operator c cs.head? = (kind, cs.length + 1)) := by
  have all : ∀ entry ∈ operators,
      entry = (['/'], .binaryOp) ∨ entry = (['/', '='], .compoundAssign) ∨
        (isOperatorStart (entry.1.headD '/') = true ∧ entry.1.tail.length ≤ 1 ∧
          operator (entry.1.headD '/') entry.1.tail.head? = (entry.2, entry.1.tail.length + 1)) := by
    decide
  rcases all _ listed with slash | compound | other
  · cases slash
    exact .inl ⟨rfl, .inl ⟨rfl, rfl⟩⟩
  · cases compound
    exact .inl ⟨rfl, .inr ⟨rfl, rfl⟩⟩
  · exact .inr other

end Front

/-! ## Nothing longer is missed -/

/-- That a front is a lexeme of a kind and a length, or something longer. -/
def Front.Reaches (kind : TokenKind) (length : Nat) (front : Front) : Prop :=
  (∃ error, front = .lexeme kind length error) ∨ length < front.length

namespace Front

variable {dialect : Dialect} {c : Char} {cs text : List Char} {kind : TokenKind}

/-- A run goes on as far as it can. -/
theorem run_reaches {p : Char → Bool} (run : ∀ d ∈ cs, p d = true) (rest : List Char) :
    ((cs ++ rest).takeWhile p = cs ∧ (cs ++ rest).dropWhile p = rest) ∨
      cs.length < ((cs ++ rest).takeWhile p).length := by
  rw [List.takeWhile_append_of_pos run, List.dropWhile_append_of_pos run]
  cases more : rest.takeWhile p with
  | nil =>
      refine .inl ⟨List.append_nil cs, ?_⟩
      have left := drop_run (p := p) rest
      rw [more] at left
      exact left.symm
  | cons d run =>
      right
      rw [List.length_append, List.length_cons]
      omega

theorem word_reaches (continues : ∀ d ∈ cs, isWordContinue d = true) (rest : List Char) :
    (word dialect c (cs ++ rest)).Reaches (classifyWord (String.ofList (c :: cs)) dialect)
      (c :: cs).length := by
  rcases run_reaches continues rest with ⟨same, -⟩ | longer
  · left
    refine ⟨none, ?_⟩
    rw [word, same]
    rfl
  · right
    exact Nat.succ_lt_succ longer

/-- A number is at least as long as the digits with which it begins. -/
theorem length_le_number (cs : List Char) :
    (cs.takeWhile Char.isDigit).length ≤ (number cs).length := by
  simp only [number]
  split
  · simp only [length]
    omega
  · exact Nat.le_refl _

theorem integer_reaches (digits : ∀ d ∈ cs, d.isDigit = true) (rest : List Char) :
    (number (cs ++ rest)).Reaches (.literal .int) cs.length := by
  rcases run_reaches digits rest with ⟨same, behind⟩ | longer
  · rw [number, same, behind]
    split
    · right
      simp only [length]
      omega
    · exact .inl ⟨_, rfl⟩
  · exact .inr (Nat.lt_of_lt_of_le longer (length_le_number _))

theorem float_reaches {fraction : List Char} (digits : ∀ d ∈ cs, d.isDigit = true)
    (more : ∀ d ∈ fraction, d.isDigit = true) (rest : List Char) :
    (number (cs ++ '.' :: (fraction ++ rest))).Reaches (.literal .float)
      (cs ++ '.' :: fraction).length := by
  -- the first run ends at the dot, and only the second one can go on
  have whole : (cs ++ '.' :: (fraction ++ rest)).takeWhile Char.isDigit = cs := by
    rw [List.takeWhile_append_of_pos digits, List.takeWhile_cons_of_neg (by decide),
      List.append_nil]
  have behind : (cs ++ '.' :: (fraction ++ rest)).dropWhile Char.isDigit =
      '.' :: (fraction ++ rest) := by
    rw [List.dropWhile_append_of_pos digits, List.dropWhile_cons_of_neg (by decide)]
  have count : (cs ++ '.' :: fraction).length = cs.length + 1 + fraction.length := by
    rw [List.length_append, List.length_cons]
    omega
  rw [number, whole, behind, count]
  rcases run_reaches more rest with ⟨same, -⟩ | longer
  · left
    refine ⟨none, ?_⟩
    change lexeme _ (cs.length + 1 + ((fraction ++ rest).takeWhile Char.isDigit).length) none = _
    rw [same]
  · right
    exact Nat.add_lt_add_left longer _

theorem string_reaches {inside : List Char} (unquoted : '"' ∉ inside) (rest : List Char) :
    (string (inside ++ '"' :: rest)).Reaches (.literal .string)
      ('"' :: (inside ++ ['"'])).length := by
  have run : ∀ d ∈ inside, decide (d ≠ '"') = true := by
    intro d member
    rw [decide_eq_true_eq]
    rintro rfl
    exact unquoted member
  have within : (inside ++ '"' :: rest).takeWhile (· ≠ '"') = inside := by
    rw [List.takeWhile_append_of_pos run, List.takeWhile_cons_of_neg (by decide),
      List.append_nil]
  have behind : (inside ++ '"' :: rest).dropWhile (· ≠ '"') = '"' :: rest := by
    rw [List.dropWhile_append_of_pos run, List.dropWhile_cons_of_neg (by decide)]
  left
  refine ⟨none, ?_⟩
  rw [string, within, behind]
  simp

theorem character_reaches (unquoted : c ≠ '\'') (rest : List Char) :
    (character (c :: '\'' :: rest)).Reaches (.literal .char) 3 := by
  left
  refine ⟨none, ?_⟩
  rw [character_cons unquoted]
  rfl

/-- Behind a slash may stand what goes on with it. -/
theorem slash_reaches (rest : List Char) : (slash rest).Reaches .binaryOp 1 := by
  unfold slash
  split
  · exact .inr (by decide)
  · right
    dsimp only
    split
    · simp [length]
    · simp [length]
  · split
    · rename_i closes
      exact .inr (Nat.lt_trans (by decide) (lt_of_commentEnd? closes))
    · right
      simp [length]
  · exact .inl ⟨none, rfl⟩

theorem operator_reaches (listed : (c :: cs, kind) ∈ operators) (rest : List Char) :
    (of dialect (c :: (cs ++ rest))).Reaches kind (cs.length + 1) := by
  rw [of_cons]
  rcases operator_of_listed listed with ⟨rfl, ⟨rfl, rfl⟩ | ⟨rfl, rfl⟩⟩ | ⟨sign, short, same⟩
  · exact slash_reaches rest
  · exact .inl ⟨none, rfl⟩
  · rw [start_of_isOperatorStart dialect _ sign]
    cases cs with
    | nil =>
        rw [List.nil_append]
        rcases operator_cases c rest.head? with ⟨alone, -⟩ | ⟨two, -⟩
        · rw [alone]
          rw [List.head?_nil] at same
          rw [same]
          exact .inl ⟨none, rfl⟩
        · right
          rw [length, two]
          decide
    | cons d ds =>
        obtain rfl : ds = [] := List.eq_nil_of_length_eq_zero (by
          rw [List.length_cons] at short
          omega)
        rw [List.head?_cons] at same
        rw [List.cons_append, List.head?_cons, same]
        exact .inl ⟨none, rfl⟩

theorem dots_reaches (dialect : Dialect) (rest : List Char) : (dots dialect rest).Reaches .dot 1 := by
  unfold dots
  repeat' split
  · exact .inl ⟨none, rfl⟩
  · exact .inr (by decide)
  · exact .inr (by decide)
  · exact .inl ⟨none, rfl⟩

theorem punctuation_reaches (sign : punctuation? c = some kind) (rest : List Char) :
    (of dialect (c :: rest)).Reaches kind 1 := by
  by_cases dot : c = '.'
  · obtain rfl := dot
    cases sign
    exact dots_reaches dialect rest
  · left
    refine ⟨none, ?_⟩
    simp only [punctuation?] at sign
    split at sign
    · exact absurd rfl dot
    all_goals cases sign
    all_goals cases dialect
    all_goals rfl

end Front

/-- **Where a lexeme stands, no shorter front is found**, and none that is as long and of another
kind. -/
theorem IsLexeme.reaches {dialect : Dialect} {text : List Char} {kind : TokenKind}
    (lexeme : IsLexeme dialect text kind) (rest : List Char) :
    (Front.of dialect (text ++ rest)).Reaches kind text.length := by
  cases lexeme with
  | word starts continues =>
      have begins := Front.isWordStart_iff.mpr starts
      rw [List.cons_append, Front.of_cons, Front.start_of_isWordStart _ begins]
      apply Front.word_reaches
      intro d member
      exact Front.isWordContinue_iff.mpr (continues d member)
  | integer digits =>
      have digit := digits _ List.mem_cons_self
      rw [List.cons_append, Front.of_cons, Front.start_of_isDigit _ digit, ← List.cons_append]
      exact Front.integer_reaches digits rest
  | @float c cs fraction digits more =>
      have digit := digits _ List.mem_cons_self
      have split : c :: cs ++ '.' :: fraction ++ rest = c :: (cs ++ '.' :: (fraction ++ rest)) := by
        simp
      rw [split, Front.of_cons, Front.start_of_isDigit _ digit]
      exact Front.float_reaches digits more rest
  | string unquoted =>
      rw [List.cons_append, List.append_assoc]
      exact Front.string_reaches unquoted rest
  | character unquoted => exact Front.character_reaches unquoted rest
  | operator listed =>
      have lexeme : IsLexeme dialect text kind := .operator listed
      cases text with
      | nil => exact absurd rfl lexeme.ne_nil
      | cons c cs => exact Front.operator_reaches listed rest
  | punctuation sign => exact Front.punctuation_reaches sign rest
  | ellipsis extended =>
      obtain rfl := extended
      exact .inl ⟨none, rfl⟩

/-! ## What is found is a lexeme -/

namespace Front

variable {dialect : Dialect} {c : Char} {cs text : List Char} {kind : TokenKind} {n : Nat}
  {error : Option LexicalError}

theorem word_isLexeme (starts : isWordStart dialect c = true)
    (found : word dialect c cs = .lexeme kind (n + 1) error) :
    IsLexeme dialect (c :: cs.take n) kind := by
  obtain ⟨rfl, count, -⟩ := lexeme.inj found
  obtain rfl : (cs.takeWhile isWordContinue).length = n := Nat.succ.inj count
  rw [take_run]
  apply IsLexeme.word (isWordStart_iff.mp starts)
  intro d member
  exact isWordContinue_iff.mp (List.all_eq_true.mp List.all_takeWhile d member)

theorem number_isLexeme (digit : c.isDigit = true)
    (found : number (c :: cs) = .lexeme kind n error) :
    IsLexeme dialect ((c :: cs).take n) kind := by
  have digits (cs : List Char) : ∀ d ∈ cs.takeWhile Char.isDigit, d.isDigit = true :=
    fun d member => List.all_eq_true.mp List.all_takeWhile d member
  have whole := digits (c :: cs)
  have first : (c :: cs).takeWhile Char.isDigit = c :: cs.takeWhile Char.isDigit :=
    List.takeWhile_cons_of_pos digit
  simp only [number] at found
  split at found
  · rename_i after behind
    obtain ⟨rfl, rfl, -⟩ := lexeme.inj found
    rw [Nat.add_assoc, Nat.add_comm 1, take_past_run behind, take_run]
    rw [first] at whole ⊢
    exact .float whole (digits after)
  · obtain ⟨rfl, rfl, -⟩ := lexeme.inj found
    rw [take_run]
    rw [first] at whole ⊢
    exact .integer whole

theorem string_isLexeme (found : string cs = .lexeme kind (n + 1) error) :
    IsLexeme dialect ('"' :: cs.take n) kind := by
  simp only [string] at found
  split at found
  · cases found
  · rename_i quote after behind
    obtain ⟨rfl, count, -⟩ := lexeme.inj found
    obtain rfl := eq_of_dropWhile_ne behind
    obtain rfl : (cs.takeWhile (· ≠ '"')).length + (0 + 1) = n := Nat.succ.inj count
    rw [take_past_run behind]
    exact .string (notMem_takeWhile_ne '"' cs)

theorem slash_isLexeme (found : slash cs = .lexeme kind (n + 1) error) :
    IsLexeme dialect ('/' :: cs.take n) kind := by
  unfold slash at found
  repeat' split at found
  all_goals cases found
  · change IsLexeme dialect ['/', '='] .compoundAssign
    exact .operator (by decide)
  · change IsLexeme dialect ['/'] .binaryOp
    exact .operator (by decide)

theorem dots_isLexeme (found : dots dialect cs = .lexeme kind (n + 1) error) :
    IsLexeme dialect ('.' :: cs.take n) kind := by
  unfold dots at found
  split at found
  · cases found
    exact .punctuation rfl
  · rename_i extended
    split at found
    all_goals cases found
    · apply IsLexeme.ellipsis
      cases dialect with
      | mini => exact absurd rfl extended
      | extended => rfl
    · exact .punctuation rfl

theorem operator_isLexeme (sign : isOperatorStart c = true)
    (count : (operator c cs.head?).2 = n + 1) :
    IsLexeme dialect (c :: cs.take n) (operator c cs.head?).1 := by
  have listed := operator_listed sign cs.head?
  rw [count, List.take_succ_cons] at listed
  -- at most one more character belongs to it, and that is the one it looked at
  have short : n = 0 ∨ n = 1 := by
    rcases operator_cases c cs.head? with ⟨-, one⟩ | ⟨two, -⟩
    · omega
    · omega
  have taken : cs.take n = cs.head?.toList.take n := by
    rcases short with rfl | rfl
    · rfl
    · cases cs with
      | nil => rfl
      | cons d ds => rfl
  rw [taken]
  exact .operator listed

/-- **What is found at the front of a text is a lexeme**, unless it is a character literal that is
wrong. -/
theorem isLexeme (found : of dialect text = .lexeme kind n error)
    (fine : ∀ e ∈ error, e.aboutCharacter = false) : IsLexeme dialect (text.take n) kind := by
  have positive : 0 < n := length_pos_of_eq found (by simp)
  obtain ⟨n, rfl⟩ := Nat.exists_eq_succ_of_ne_zero (Nat.ne_of_gt positive)
  cases text with
  | nil => cases found
  | cons c cs =>
      rw [List.take_succ_cons]
      cases begins_of_lexeme found with
      | slash found => exact slash_isLexeme found
      | string found => exact string_isLexeme found
      | character found =>
          cases error with
          | none =>
              obtain ⟨rfl, -, closed⟩ := character_errors found
              obtain ⟨d, unquoted, spelled⟩ := closed rfl
              rw [spelled]
              exact .character unquoted
          | some e =>
              have about := character_error found
              rw [fine e rfl] at about
              cases about
      | dots found => exact dots_isLexeme found
      | operator sign isKind count _ =>
          rw [← isKind]
          exact operator_isLexeme sign count
      | word starts found => exact word_isLexeme starts found
      | number digit found => exact number_isLexeme digit found
      | punctuation sign count _ =>
          obtain rfl : 0 = n := Nat.succ.inj count
          exact .punctuation sign

end Front

/-! ## The whole text -/

/-- The lexeme in front of a text, if it is no character literal that is wrong, is the longest. -/
theorem Front.isLongestLexeme {dialect : Dialect} {ahead : List Char} {kind : TokenKind} {n : Nat}
    {error : Option LexicalError} (found : Front.of dialect ahead = .lexeme kind n error)
    (fine : ∀ e ∈ error, e.aboutCharacter = false) :
    IsLongestLexeme dialect ahead (ahead.take n) kind := by
  obtain ⟨-, fits, -⟩ := found ▸ Front.of_describes dialect _
  have count : (ahead.take n).length = n := List.length_take_of_le fits
  -- what any lexeme in front of the text reaches is the lexeme that was found
  have reached {other : List Char} {otherKind : TokenKind}
      (lexeme : IsLexeme dialect other otherKind) (front : other <+: ahead) :
      (∃ e, Front.lexeme kind n error = .lexeme otherKind other.length e) ∨ other.length < n := by
    obtain ⟨rest, rfl⟩ := front
    have reaches := lexeme.reaches rest
    rw [found] at reaches
    exact reaches
  constructor
  · exact Front.isLexeme found fine
  · exact List.take_prefix n ahead
  · intro other otherKind lexeme front
    rw [count]
    rcases reached lexeme front with ⟨e, same⟩ | shorter
    · exact Nat.le_of_eq (Front.lexeme.inj same).2.1.symm
    · exact Nat.le_of_lt shorter
  · intro otherKind lexeme
    rcases reached lexeme (List.take_prefix n ahead) with ⟨e, same⟩ | shorter
    · exact (Front.lexeme.inj same).1.symm
    · rw [count] at shorter
      exact absurd shorter (Nat.lt_irrefl n)

/-- No lexeme is in front of a text that begins with a stray character. -/
theorem Front.not_isLexeme_of_stray {dialect : Dialect} {ahead text : List Char} {c : Char}
    {kind : TokenKind} (found : Front.of dialect ahead = .stray c)
    (lexeme : IsLexeme dialect text kind) : ¬ text <+: ahead := by
  rintro ⟨rest, rfl⟩
  have reaches := lexeme.reaches rest
  rw [found] at reaches
  rcases reaches with ⟨e, same⟩ | longer
  · cases same
  · -- a stray character is one, and no lexeme is empty
    have empty := List.eq_nil_of_length_eq_zero (Nat.lt_one_iff.mp longer)
    exact lexeme.ne_nil empty

/-- The code of a stray character is told by its text. -/
theorem LexicalError.code_eq_invalidCharacter {error : LexicalError}
    (text : error.code.text = "E0001") : error.code = .invalidCharacter := by
  cases error with
  | invalidCharacter c => rfl
  | invalidNumber c => exact absurd text (by simp [code, ErrorCode.text])
  | _ => exact absurd text (by decide)

/-- No comment begins with a stray character. -/
theorem Front.not_comment_of_stray {dialect : Dialect} {ahead : List Char} {c : Char}
    (found : Front.of dialect ahead = .stray c) :
    ¬ ['/', '/'] <+: ahead ∧ ¬ ['/', '*'] <+: ahead := by
  constructor
  · rintro ⟨rest, rfl⟩
    have front : slash ('/' :: rest) = .stray c := found
    rw [slash] at front
    split at front
    all_goals cases front
  · rintro ⟨rest, rfl⟩
    have front : slash ('*' :: rest) = .stray c := found
    rw [slash] at front
    split at front
    all_goals cases front

/-- **The longest lexeme is taken.** Every token but the end, unless an error about a character
literal is reported where it stands, is the longest lexeme with which the text goes on from there,
and its kind is the one kind of that lexeme. Where a stray character is reported, no lexeme and no
comment begins. -/
theorem lex_longest (dialect : Dialect) (source : Source) :
    (∀ token ∈ (lex dialect source).tokens, token.kind ≠ .eot →
      (∀ fault ∈ (lex dialect source).faults, fault.position = token.position →
        fault.error.code.text ∉ ["E0004", "E0005", "E0006"]) →
      ∃ offset < source.size, token.position = source.positionAt offset ∧
        IsLongestLexeme dialect (source.chars.drop offset) token.text.toList token.kind) ∧
      ∀ fault ∈ (lex dialect source).faults, fault.error.code.text = "E0001" →
        ∃ offset < source.size, fault.position = source.positionAt offset ∧
          (∀ text kind, IsLexeme dialect text kind → ¬ text <+: source.chars.drop offset) ∧
          ¬ ['/', '/'] <+: source.chars.drop offset ∧
          ¬ ['/', '*'] <+: source.chars.drop offset := by
  have stands := SourceCursor.at_start source
  constructor
  · intro token member present fine
    obtain ⟨offset, length, error, -, found⟩ :=
      Scanner.exists_standsAt (.start source) stands token member present
    refine ⟨offset, found.inside, found.position, ?_⟩
    rw [found.text]
    apply Front.isLongestLexeme found.front
    intro e wrong
    rw [Bool.eq_false_iff]
    intro about
    have unreported := fine _ (found.reported e wrong about) rfl
    rw [LexicalError.aboutCharacter, decide_eq_true_eq] at about
    exact unreported about
  · intro fault member stray
    have code := LexicalError.code_eq_invalidCharacter stray
    obtain ⟨offset, inside, position, -, c, found⟩ :=
      Scanner.exists_stray (.start source) stands fault member code
    refine ⟨offset, inside, position, ?_, Front.not_comment_of_stray found⟩
    intro text kind lexeme
    exact Front.not_isLexeme_of_stray found lexeme

/-- Three dots before a fourth, and a stray character behind an integer. -/
theorem lex_longest_dots :
    let source := Source.ofString "....5#a<=b"
    let dots : Token := ⟨.ellipsis, "...", ⟨1, 1⟩⟩
    dots ∈ (lex .extended source).tokens ∧ dots.kind ≠ .eot ∧
      (∀ fault ∈ (lex .extended source).faults, fault.position = dots.position →
        fault.error.code.text ∉ ["E0004", "E0005", "E0006"]) ∧
      (∃ offset < source.size, dots.position = source.positionAt offset ∧
        IsLongestLexeme .extended (source.chars.drop offset) dots.text.toList dots.kind) ∧
      ∃ fault ∈ (lex .extended source).faults, fault.error.code.text = "E0001" ∧
        ∃ offset < source.size, fault.position = source.positionAt offset ∧
          (∀ text kind, IsLexeme .extended text kind → ¬ text <+: source.chars.drop offset) ∧
          ¬ ['/', '/'] <+: source.chars.drop offset ∧
          ¬ ['/', '*'] <+: source.chars.drop offset := by
  intro source dots
  obtain ⟨longest, strays⟩ := lex_longest .extended source
  have member : dots ∈ (lex .extended source).tokens := by decide +kernel
  have fine : ∀ fault ∈ (lex .extended source).faults, fault.position = dots.position →
      fault.error.code.text ∉ ["E0004", "E0005", "E0006"] := by decide +kernel
  have stray : ⟨.invalidCharacter '#', ⟨1, 6⟩⟩ ∈ (lex .extended source).faults := by decide +kernel
  exact ⟨member, by decide, fine, longest dots member (by decide) fine, _, stray, rfl,
    strays _ stray rfl⟩

end MiniJ
