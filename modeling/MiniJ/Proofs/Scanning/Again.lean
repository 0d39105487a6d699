import MiniJ.Proofs.Scanning.Front

/-!
# Lexemes found again

The text of a lexeme is all that is needed to find the lexeme again, so long as nothing behind it
goes on with it. `Front.Replaces` lists what may stand behind it instead of what stood there: a text
that begins alike, the end of the text or a line end, or a space where the line went on. There is one
lemma for each form of lexeme, and `Front.start` tells the forms by the first character. What was
wrong with a lexeme is wrong with it again if it is a character literal; what was wrong with an
integer stood behind it and is wrong again if both texts begin alike.

The main statements are `Front.of_replaced` and, for lexemes on lines of their own, `Front.of_again`.
-/

set_option autoImplicit false

namespace MiniJ

/-- Whether an error is about a character literal. -/
def LexicalError.aboutCharacter (error : LexicalError) : Bool :=
  error.code.text ∈ ["E0004", "E0005", "E0006"]

/-- No error about a character literal ends the input. -/
theorem LexicalError.not_aboutCharacter {error : LexicalError} (ends : error.endsInput = true) :
    error.aboutCharacter = false := by
  cases error with
  | unterminatedComment | doubleDot | unterminatedString => rfl
  | _ => cases ends

namespace Front

/-! ## Texts behind a lexeme -/

/-- No lexeme goes on in the text: it is over, or it begins with a line end. -/
def Apart (tail : List Char) : Prop :=
  ∀ c ∈ tail.head?, c = '\n'

/-- That behind a lexeme `other` may stand instead of `tail`: the lexeme does not go on. The flag
says whether both texts begin alike. -/
inductive Replaces (tail other : List Char) : Bool → Prop where
  | alike (heads : other.head? = tail.head?) : Replaces tail other true
  /-- At the end of a text a lexeme may be cut short, and then no line end may follow it. -/
  | line (apart : Apart other) (later : other ≠ [] → tail ≠ []) : Replaces tail other false
  /-- At a line end a lexeme may be cut short, and then no space may follow it. -/
  | space {c : Char} (goesOn : tail.head? = some c) (inLine : c ≠ '\n')
      (blank : other.head? = some ' ') : Replaces tail other false

section Runs

variable {p : Char → Bool} {tail : List Char}

theorem takeWhile_eq_nil {cs : List Char} :
    cs.takeWhile p = [] ↔ ∀ c ∈ cs.head?, p c = false := by
  cases cs with
  | nil => simp
  | cons c cs => cases h : p c <;> simp [h]

theorem drop_run (cs : List Char) : cs.drop (cs.takeWhile p).length = cs.dropWhile p := by
  have run := List.takeWhile_append_dropWhile (p := p) (l := cs)
  calc cs.drop (cs.takeWhile p).length
    _ = (cs.takeWhile p ++ cs.dropWhile p).drop (cs.takeWhile p).length := by rw [run]
    _ = cs.dropWhile p := List.drop_left

theorem takeWhile_dropWhile (cs : List Char) : (cs.dropWhile p).takeWhile p = [] :=
  takeWhile_eq_nil.mpr refused_dropWhile

/-- A property that the head of a text has, and that line ends and spaces have, too. -/
theorem Replaces.head {other : List Char} {alike : Bool} (q : Char → Prop)
    (replaces : Replaces tail other alike) (atLine : q '\n') (atSpace : q ' ')
    (atHead : ∀ c ∈ tail.head?, q c) : ∀ c ∈ other.head?, q c := by
  intro c head
  cases replaces with
  | alike heads =>
      rw [heads] at head
      exact atHead c head
  | line apart later =>
      rw [apart c head]
      exact atLine
  | space goesOn inLine blank =>
      rw [blank] at head
      cases head
      exact atSpace

/-- A run that ends before a text ends before one that replaces it. -/
theorem Replaces.takeWhile {other : List Char} {alike : Bool}
    (replaces : Replaces tail other alike) (atLine : p '\n' = false) (atSpace : p ' ' = false)
    (stops : tail.takeWhile p = []) : other.takeWhile p = [] := by
  rw [takeWhile_eq_nil] at stops ⊢
  exact replaces.head (p · = false) atLine atSpace stops

theorem Apart.cases (apart : Apart tail) : tail = [] ∨ ∃ after, tail = '\n' :: after := by
  cases tail with
  | nil => exact .inl rfl
  | cons c after =>
      obtain rfl := apart c rfl
      exact .inr ⟨after, rfl⟩

theorem takeWhile_apart (stops : p '\n' = false) (apart : Apart tail) : tail.takeWhile p = [] := by
  rcases apart.cases with rfl | ⟨after, rfl⟩
  · rfl
  · exact List.takeWhile_cons_of_neg (by simp [stops])

theorem dropWhile_apart (stops : p '\n' = false) (apart : Apart tail) :
    tail.dropWhile p = tail := by
  rcases apart.cases with rfl | ⟨after, rfl⟩
  · rfl
  · exact List.dropWhile_cons_of_neg (by simp [stops])

/-- A run of characters before a text with which it does not go on. -/
theorem takeWhile_again (cs : List Char) (stops : tail.takeWhile p = []) :
    (cs.takeWhile p ++ tail).takeWhile p = cs.takeWhile p := by
  rw [List.takeWhile_append_of_pos fun c => List.all_eq_true.mp List.all_takeWhile c, stops,
    List.append_nil]

theorem dropWhile_again (cs : List Char) :
    (cs.takeWhile p ++ tail).dropWhile p = tail.dropWhile p :=
  List.dropWhile_append_of_pos fun c => List.all_eq_true.mp List.all_takeWhile c

theorem take_run (cs : List Char) : cs.take (cs.takeWhile p).length = cs.takeWhile p :=
  (List.prefix_iff_eq_take.mp (List.takeWhile_prefix p)).symm

/-- A run and what follows it. -/
theorem take_past_run {cs after : List Char} {c : Char} (behind : cs.dropWhile p = c :: after)
    (n : Nat) :
    cs.take ((cs.takeWhile p).length + (n + 1)) = cs.takeWhile p ++ c :: after.take n := by
  have run : cs.takeWhile p ++ c :: after = cs := by
    rw [← behind]
    exact List.takeWhile_append_dropWhile
  calc cs.take ((cs.takeWhile p).length + (n + 1))
    _ = (cs.takeWhile p ++ c :: after).take ((cs.takeWhile p).length + (n + 1)) := by rw [run]
    _ = cs.takeWhile p ++ (c :: after).take (n + 1) := List.take_length_add_append _
    _ = cs.takeWhile p ++ c :: after.take n := by rw [List.take_succ_cons]

end Runs

/-! ## The forms of lexemes -/

section Forms

variable {dialect : Dialect} {c : Char} {cs other : List Char} {kind : TokenKind} {n : Nat}
  {error : Option LexicalError} {alike : Bool}

/-- Whether an error of a lexeme is found again, when the texts behind it begin alike or not. -/
def isKept (alike : Bool) (error : LexicalError) : Bool :=
  alike || error.aboutCharacter

theorem word_replaced (replaces : Replaces (cs.drop n) other alike)
    (found : word dialect c cs = .lexeme kind (n + 1) error) :
    word dialect c (cs.take n ++ other) = .lexeme kind (n + 1) (error.filter (isKept alike)) := by
  simp only [word, lexeme.injEq, Nat.add_right_cancel_iff] at found
  obtain ⟨rfl, rfl, rfl⟩ := found
  rw [drop_run] at replaces
  have stops : other.takeWhile isWordContinue = [] :=
    replaces.takeWhile (by decide) (by decide) (takeWhile_dropWhile cs)
  rw [word, take_run, takeWhile_again cs stops, Option.filter_none]

theorem integerError?_congr {tail : List Char} (heads : other.head? = tail.head?) :
    integerError? other = integerError? tail := by
  cases tail with
  | nil =>
      rw [List.head?_nil, List.head?_eq_none_iff] at heads
      rw [heads]
  | cons c tail =>
      obtain ⟨after, rfl⟩ := List.head?_eq_some_iff.mp heads
      rfl

theorem integerError?_apart (apart : Apart other) : integerError? other = none := by
  rcases apart.cases with rfl | ⟨after, rfl⟩
  · rfl
  · rfl

/-- What is wrong with an integer is wrong with what stands behind it. -/
theorem kept_integerError? (cs : List Char) :
    (integerError? cs).filter (isKept false) = none := by
  simp only [integerError?]
  split
  · rfl
  · split
    all_goals rfl

theorem integerError?_replaced {tail : List Char} (replaces : Replaces tail other alike) :
    integerError? other = (integerError? tail).filter (isKept alike) := by
  cases replaces with
  | alike heads =>
      rw [integerError?_congr heads]
      cases integerError? tail <;> rfl
  | line apart later => rw [integerError?_apart apart, kept_integerError?]
  | space goesOn inLine blank =>
      obtain ⟨after, rfl⟩ := List.head?_eq_some_iff.mp blank
      rw [kept_integerError?]
      rfl

theorem number_replaced (replaces : Replaces (cs.drop n) other alike)
    (found : number cs = .lexeme kind n error) :
    number (cs.take n ++ other) = .lexeme kind n (error.filter (isKept alike)) := by
  simp only [number] at found
  split at found
  · -- digits, a dot and perhaps more digits
    rename_i after behind
    obtain ⟨rfl, rfl, rfl⟩ := lexeme.inj found
    have left : cs.drop ((cs.takeWhile Char.isDigit).length + 1 +
        (after.takeWhile Char.isDigit).length) = after.dropWhile Char.isDigit := by
      rw [← List.drop_drop, ← List.drop_drop, drop_run, behind, List.drop_one, List.tail_cons,
        drop_run]
    rw [left] at replaces
    have stops : other.takeWhile Char.isDigit = [] :=
      replaces.takeWhile (by decide) (by decide) (takeWhile_dropWhile after)
    have split : cs.take ((cs.takeWhile Char.isDigit).length + 1 +
        (after.takeWhile Char.isDigit).length) ++ other =
          cs.takeWhile Char.isDigit ++ '.' :: (after.takeWhile Char.isDigit ++ other) := by
      rw [Nat.add_assoc, Nat.add_comm 1, take_past_run behind, take_run]
      simp
    have halt : ('.' :: (after.takeWhile Char.isDigit ++ other)).takeWhile Char.isDigit = [] := rfl
    rw [number, split, takeWhile_again cs halt, dropWhile_again]
    change Front.lexeme _ _ _ = _
    rw [takeWhile_again after stops, Option.filter_none]
  · rename_i after notDot
    obtain ⟨rfl, rfl, rfl⟩ := lexeme.inj found
    rw [drop_run] at replaces
    have stops : other.takeWhile Char.isDigit = [] :=
      replaces.takeWhile (by decide) (by decide) (takeWhile_dropWhile cs)
    have behind : other.dropWhile Char.isDigit = other := by
      rw [← drop_run, stops]
      rfl
    have noDot : ∀ d ∈ other.head?, d ≠ '.' := by
      apply replaces.head (· ≠ '.') (by decide) (by decide)
      rintro d head rfl
      obtain ⟨after, dotted⟩ := List.head?_eq_some_iff.mp head
      exact notDot after dotted
    rw [number, take_run, takeWhile_again cs stops, dropWhile_again, behind]
    split
    · exact absurd rfl (noDot '.' rfl)
    · rw [integerError?_replaced replaces]

theorem string_replaced (found : string cs = .lexeme kind (n + 1) error) :
    string (cs.take n ++ other) = .lexeme kind (n + 1) (error.filter (isKept alike)) := by
  simp only [string] at found
  split at found
  · cases found
  · rename_i quote after behind
    simp only [lexeme.injEq] at found
    obtain ⟨rfl, count, rfl⟩ := found
    obtain rfl := eq_of_dropWhile_ne behind
    have inside : n = (cs.takeWhile (· ≠ '"')).length + (0 + 1) := by omega
    have split : cs.take n ++ other = cs.takeWhile (· ≠ '"') ++ '"' :: other := by
      rw [inside, take_past_run behind]
      simp
    have halt : ('"' :: other).takeWhile (· ≠ '"') = [] := rfl
    have open_ : ('"' :: other).dropWhile (· ≠ '"') = '"' :: other := rfl
    rw [string, split, takeWhile_again cs halt, dropWhile_again, open_, ← count]
    rfl

/-- Whether a character literal goes on with a character behind its first. -/
def goesOn (c : Char) : Bool :=
  c ≠ '\'' && c ≠ '\n'

/-- The character literal whose first character is no quote. -/
theorem character_cons {first : Char} (unquoted : first ≠ '\'') (cs : List Char) :
    character (first :: cs) =
      if (cs.dropWhile goesOn).head? = some '\'' then
        .lexeme (.literal .char) ((cs.takeWhile goesOn).length + 3)
          (if (cs.takeWhile goesOn).length = 0 then none else some .longCharacter)
      else
        .lexeme (.literal .char) ((cs.takeWhile goesOn).length + 2)
          (some .unterminatedCharacter) := by
  rw [character]
  · split
    · rename_i after behind
      have closes : (cs.dropWhile goesOn).head? = some '\'' := congrArg List.head? behind
      rw [if_pos closes]
      change (if (cs.takeWhile goesOn).length = 0 then Front.lexeme (.literal .char) 3 none
        else .lexeme _ ((cs.takeWhile goesOn).length + 3) (some .longCharacter)) = _
      split
      · rename_i none
        rw [none]
      · rfl
    · rename_i open_
      rw [if_neg]
      · rfl
      · intro closes
        obtain ⟨after, behind⟩ := List.head?_eq_some_iff.mp closes
        exact open_ after behind
  · exact unquoted

/-- What is wrong with a character literal is wrong with it again. -/
theorem kept_of_aboutCharacter {e : LexicalError} (about : e.aboutCharacter = true) :
    (some e).filter (isKept alike) = some e := by
  rw [Option.filter_some, if_pos]
  rw [isKept, about, Bool.or_true]

/-- Where a literal is cut short, the text is over or the line ends, and so it does again. -/
theorem Replaces.apart_of_cut {cs : List Char}
    (replaces : Replaces (cs.dropWhile goesOn) other alike)
    (open_ : (cs.dropWhile goesOn).head? ≠ some '\'') : Apart other := by
  have cut : Apart (cs.dropWhile goesOn) := by
    intro c head
    have refused := refused_dropWhile c head
    have noQuote : c ≠ '\'' := by
      rintro rfl
      exact open_ head
    simpa [goesOn, noQuote] using refused
  cases replaces with
  | alike heads =>
      intro c head
      rw [heads] at head
      exact cut c head
  | line apart later => exact apart
  | space more inLine blank => exact absurd (cut _ more) inLine

/-- A literal that is closed is so whatever stands behind it. -/
theorem character_again_closed {first : Char} (unquoted : first ≠ '\'') (cs other : List Char) :
    character (first :: (cs.takeWhile goesOn ++ '\'' :: other)) =
      .lexeme (.literal .char) ((cs.takeWhile goesOn).length + 3)
        (if (cs.takeWhile goesOn).length = 0 then none else some .longCharacter) := by
  have halt : ('\'' :: other).takeWhile goesOn = [] := rfl
  have closes : ('\'' :: other).dropWhile goesOn = '\'' :: other := rfl
  rw [character_cons unquoted, takeWhile_again cs halt, dropWhile_again, closes, List.head?_cons,
    if_pos rfl]

/-- A literal that is cut short is so at each end of a text or line. -/
theorem character_again_cut {first : Char} (unquoted : first ≠ '\'') (cs : List Char)
    (apart : Apart other) :
    character (first :: (cs.takeWhile goesOn ++ other)) =
      .lexeme (.literal .char) ((cs.takeWhile goesOn).length + 2)
        (some .unterminatedCharacter) := by
  have halt : other.takeWhile goesOn = [] := takeWhile_apart (by decide) apart
  have behind : other.dropWhile goesOn = other := dropWhile_apart (by decide) apart
  have open_ : other.head? ≠ some '\'' := by
    intro quote
    exact absurd (apart _ quote) (by decide)
  rw [character_cons unquoted, takeWhile_again cs halt, dropWhile_again, behind, if_neg open_]

/-- A quote alone stands at the end of a text, so only there is it found again. -/
theorem character_replaced (replaces : Replaces (cs.drop n) other alike)
    (found : character cs = .lexeme kind (n + 1) error) :
    character (cs.take n ++ other) =
      .lexeme kind (n + 1) (error.filter (isKept alike)) := by
  cases cs with
  | nil =>
      have isOver : other = [] := by
        rw [List.drop_nil] at replaces
        cases replaces with
        | alike heads => exact List.head?_eq_none_iff.mp heads
        | line apart later => exact Decidable.byContradiction fun more => later more rfl
        | space goesOn inLine blank => cases goesOn
      rw [isOver, List.take_nil]
      obtain ⟨rfl, count, rfl⟩ := lexeme.inj found
      rw [← count, kept_of_aboutCharacter rfl]
      rfl
  | cons first cs =>
      by_cases empty : first = '\''
      · obtain rfl := empty
        simp only [character, lexeme.injEq] at found
        obtain ⟨rfl, count, rfl⟩ := found
        obtain rfl : n = 1 := by omega
        rw [kept_of_aboutCharacter rfl]
        rfl
      · rw [character_cons empty] at found
        split at found
        · -- closed: the closing quote is part of the text
          rename_i closes
          obtain ⟨after, behind⟩ := List.head?_eq_some_iff.mp closes
          obtain ⟨rfl, count, rfl⟩ := lexeme.inj found
          have inside : n = (cs.takeWhile goesOn).length + (0 + 1) + 1 := by omega
          have text : (first :: cs).take n ++ other =
              first :: (cs.takeWhile goesOn ++ '\'' :: other) := by
            rw [inside, List.take_succ_cons, take_past_run behind]
            simp
          rw [text, character_again_closed empty, count]
          congr 1
          split
          · rfl
          · exact (kept_of_aboutCharacter rfl).symm
        · -- cut short, and what replaces the text behind it cuts it short again
          rename_i open_
          obtain ⟨rfl, count, rfl⟩ := lexeme.inj found
          have inside : n = (cs.takeWhile goesOn).length + 1 := by omega
          rw [inside, List.drop_succ_cons, drop_run] at replaces
          rw [inside, List.take_succ_cons, take_run, List.cons_append,
            character_again_cut empty cs (replaces.apart_of_cut open_), kept_of_aboutCharacter rfl]

theorem slash_replaced (replaces : Replaces (cs.drop n) other alike)
    (found : slash cs = .lexeme kind (n + 1) error) :
    slash (cs.take n ++ other) =
      .lexeme kind (n + 1) (error.filter (isKept alike)) := by
  revert found
  simp only [slash]
  split
  · intro found
    obtain ⟨rfl, count, rfl⟩ := lexeme.inj found
    obtain rfl : n = 1 := by omega
    rfl
  · intro found
    split at found
    all_goals cases found
  · intro found
    split at found
    all_goals cases found
  · rename_i noAssign noLine noBlock
    intro found
    obtain ⟨rfl, count, rfl⟩ := lexeme.inj found
    obtain rfl : n = 0 := by omega
    -- no character that goes on with a slash stands behind it, and none does again
    have alone : ∀ d ∈ other.head?, d ≠ '=' ∧ d ≠ '/' ∧ d ≠ '*' := by
      apply replaces.head (fun d => d ≠ '=' ∧ d ≠ '/' ∧ d ≠ '*') (by decide) (by decide)
      intro d head
      obtain ⟨after, dashed⟩ := List.head?_eq_some_iff.mp head
      refine ⟨?_, ?_, ?_⟩
      · rintro rfl
        exact noAssign after dashed
      · rintro rfl
        exact noLine after dashed
      · rintro rfl
        exact noBlock after dashed
    rw [List.take_zero, List.nil_append]
    cases other with
    | nil => rfl
    | cons d after =>
        obtain ⟨noAssign, noLine, noBlock⟩ := alone d rfl
        simp [noAssign, noLine, noBlock]

theorem dots_replaced (replaces : Replaces (cs.drop n) other alike)
    (found : dots dialect cs = .lexeme kind (n + 1) error) :
    dots dialect (cs.take n ++ other) =
      .lexeme kind (n + 1) (error.filter (isKept alike)) := by
  cases dialect with
  | mini =>
      obtain ⟨rfl, count, rfl⟩ := lexeme.inj found
      obtain rfl : n = 0 := by omega
      rfl
  | extended =>
      simp only [dots, Dialect.isMini, Bool.false_eq_true, ↓reduceIte] at found ⊢
      split at found
      · obtain ⟨rfl, count, rfl⟩ := lexeme.inj found
        obtain rfl : n = 2 := by omega
        rfl
      · cases found
      · rename_i noTwo noOne
        obtain ⟨rfl, count, rfl⟩ := lexeme.inj found
        obtain rfl : n = 0 := by omega
        have alone : ∀ d ∈ other.head?, d ≠ '.' := by
          apply replaces.head (· ≠ '.') (by decide) (by decide)
          rintro d head rfl
          obtain ⟨after, dotted⟩ := List.head?_eq_some_iff.mp head
          exact noOne after dotted
        rw [List.take_zero, List.nil_append]
        cases other with
        | nil => rfl
        | cons d after => simp [alone d rfl]

/-- An operator either takes in what follows or is as at the end of the text. -/
theorem operator_cases (c : Char) (next : Option Char) :
    (operator c next = operator c none ∧ (operator c next).2 = 1) ∨
      ((operator c next).2 = 2 ∧ next ≠ none) := by
  simp only [operator]
  repeat' split
  all_goals simp_all

/-- Neither a line end nor a space is part of an operator. -/
theorem operator_replaced_alone (starts : isOperatorStart c = true) {tail : List Char}
    (replaces : Replaces tail other alike) (alone : (operator c tail.head?).2 = 1) :
    operator c other.head? = operator c tail.head? := by
  have apart : ∀ sign, isOperatorStart sign = false → c ≠ sign := by
    rintro sign silent rfl
    rw [starts] at silent
    cases silent
  have same : operator c tail.head? = operator c none := by
    rcases operator_cases c tail.head? with ⟨same, -⟩ | ⟨two, -⟩
    · exact same
    · rw [alone] at two
      cases two
  rw [same]
  cases replaces with
  | alike heads => rw [heads, same]
  | line atEnd later =>
      rcases atEnd.cases with rfl | ⟨after, rfl⟩
      · rfl
      · simp [operator, (apart '\n' rfl).symm]
  | space goesOn inLine blank =>
      rw [blank]
      simp [operator, (apart ' ' rfl).symm]

theorem operator_replaced (starts : isOperatorStart c = true)
    (replaces : Replaces (cs.drop n) other alike)
    (found : lexeme (operator c cs.head?).1 (operator c cs.head?).2 none =
      .lexeme kind (n + 1) error) :
    lexeme (operator c (cs.take n ++ other).head?).1 (operator c (cs.take n ++ other).head?).2
        none =
      .lexeme kind (n + 1) (error.filter (isKept alike)) := by
  obtain ⟨rfl, count, rfl⟩ := lexeme.inj found
  rcases operator_cases c cs.head? with ⟨-, one⟩ | ⟨two, more⟩
  · obtain rfl : n = 0 := by omega
    rw [List.drop_zero] at replaces
    rw [List.take_zero, List.nil_append, operator_replaced_alone starts replaces count, count,
      Option.filter_none]
  · obtain rfl : n = 1 := by omega
    cases cs with
    | nil => exact absurd rfl more
    | cons d cs =>
        rw [← count]
        rfl

end Forms

/-! ## All together -/

/-- What a text begins with, told by its first character. -/
def start (dialect : Dialect) (c : Char) (cs : List Char) : Front :=
  if c = '/' then slash cs
  else if c = '"' then string cs
  else if c = '\'' then character cs
  else if c = '.' then dots dialect cs
  else if isOperatorStart c then .lexeme (operator c cs.head?).1 (operator c cs.head?).2 none
  else if isWordStart dialect c then word dialect c cs
  else if c.isDigit then number (c :: cs)
  else ((punctuation? c).map (.lexeme · 1 none)).getD (.stray c)

theorem of_cons (dialect : Dialect) (c : Char) (cs : List Char) :
    of dialect (c :: cs) = start dialect c cs := by
  unfold of
  split
  all_goals
    rename_i same
    cases same
  · rfl
  · rfl
  · rfl
  · rfl
  · rename_i notSlash notQuote notSingle notDot
    rw [start, if_neg notSlash, if_neg notQuote, if_neg notSingle, if_neg notDot]
    cases punctuation? c <;> rfl

/-- What the lexeme in front of a text is, by the character with which it begins. -/
inductive Begins (dialect : Dialect) (kind : TokenKind) (length : Nat)
    (error : Option LexicalError) : Char → List Char → Prop
  | slash {cs : List Char} (found : slash cs = .lexeme kind length error) :
      Begins dialect kind length error '/' cs
  | string {cs : List Char} (found : string cs = .lexeme kind length error) :
      Begins dialect kind length error '"' cs
  | character {cs : List Char} (found : character cs = .lexeme kind length error) :
      Begins dialect kind length error '\'' cs
  | dots {cs : List Char} (found : dots dialect cs = .lexeme kind length error) :
      Begins dialect kind length error '.' cs
  | operator {c : Char} {cs : List Char} (sign : isOperatorStart c = true)
      (isKind : (operator c cs.head?).1 = kind) (count : (operator c cs.head?).2 = length)
      (fine : error = none) : Begins dialect kind length error c cs
  | word {c : Char} {cs : List Char} (starts : isWordStart dialect c = true)
      (found : word dialect c cs = .lexeme kind length error) :
      Begins dialect kind length error c cs
  | number {c : Char} {cs : List Char} (digit : c.isDigit = true)
      (found : number (c :: cs) = .lexeme kind length error) :
      Begins dialect kind length error c cs
  | punctuation {c : Char} {cs : List Char} (sign : punctuation? c = some kind)
      (count : 1 = length) (fine : error = none) : Begins dialect kind length error c cs

/-- The first character decides what is looked for. -/
theorem begins_of_lexeme {dialect : Dialect} {c : Char} {cs : List Char} {kind : TokenKind}
    {length : Nat} {error : Option LexicalError}
    (found : of dialect (c :: cs) = .lexeme kind length error) :
    Begins dialect kind length error c cs := by
  rw [of_cons, start] at found
  split at found
  · rename_i isSlash
    exact isSlash ▸ .slash found
  split at found
  · rename_i isQuote
    exact isQuote ▸ .string found
  split at found
  · rename_i isSingle
    exact isSingle ▸ .character found
  split at found
  · rename_i isDot
    exact isDot ▸ .dots found
  split at found
  · rename_i sign
    obtain ⟨isKind, count, fine⟩ := lexeme.inj found
    exact .operator sign isKind count fine.symm
  split at found
  · rename_i starts
    exact .word starts found
  split at found
  · rename_i digit
    exact .number digit found
  · cases sign : punctuation? c with
    | none =>
        rw [sign] at found
        cases found
    | some other =>
        rw [sign] at found
        obtain ⟨rfl, count, fine⟩ := lexeme.inj found
        exact .punctuation sign count fine.symm

theorem slash_error {cs : List Char} {kind : TokenKind} {length : Nat} {e : LexicalError} :
    slash cs ≠ .lexeme kind length (some e) := by
  unfold slash
  repeat' split
  all_goals simp

theorem string_error {cs : List Char} {kind : TokenKind} {length : Nat} {e : LexicalError} :
    string cs ≠ .lexeme kind length (some e) := by
  unfold string
  dsimp only
  split
  all_goals simp

theorem dots_error {dialect : Dialect} {cs : List Char} {kind : TokenKind} {length : Nat}
    {e : LexicalError} : dots dialect cs ≠ .lexeme kind length (some e) := by
  unfold dots
  repeat' split
  all_goals simp

theorem character_error {cs : List Char} {kind : TokenKind} {length : Nat} {e : LexicalError}
    (found : character cs = .lexeme kind length (some e)) : e.aboutCharacter = true := by
  cases cs with
  | nil =>
      cases found
      rfl
  | cons first cs =>
      by_cases empty : first = '\''
      · obtain rfl := empty
        cases found
        rfl
      · rw [character_cons empty] at found
        split at found
        · split at found
          · cases found
          · cases found
            rfl
        · cases found
          rfl

/-- What is wrong with an integer is the letter or the underscore just behind it. -/
theorem number_error {cs : List Char} {kind : TokenKind} {length : Nat} {e : LexicalError}
    (found : number cs = .lexeme kind length (some e)) :
    ∃ c, e = .invalidNumber c ∧ (cs.drop length).head? = some c ∧
      (Text.isAlphabetic c = true ∨ c = '_') := by
  simp only [number] at found
  split at found
  · cases found
  · obtain ⟨-, rfl, wrong⟩ := lexeme.inj found
    rw [drop_run]
    cases behind : cs.dropWhile Char.isDigit with
    | nil =>
        rw [behind] at wrong
        cases wrong
    | cons c after =>
        rw [behind, integerError?] at wrong
        split at wrong
        · rename_i letter
          cases wrong
          refine ⟨c, rfl, rfl, ?_⟩
          simpa using letter
        · cases wrong

/-- **What can be wrong with a lexeme.** It is a character literal, or an integer with a letter or an
underscore just behind it. -/
theorem of_error {dialect : Dialect} {text : List Char} {kind : TokenKind} {length : Nat}
    {e : LexicalError} (found : of dialect text = .lexeme kind length (some e)) :
    (e.aboutCharacter = true ∧ text.head? = some '\'') ∨
      ∃ c, e = .invalidNumber c ∧ (text.drop length).head? = some c ∧
        (Text.isAlphabetic c = true ∨ c = '_') := by
  cases text with
  | nil => cases found
  | cons c cs =>
      cases begins_of_lexeme found with
      | slash found => exact absurd found slash_error
      | string found => exact absurd found string_error
      | character found => exact .inl ⟨character_error found, rfl⟩
      | dots found => exact absurd found dots_error
      | operator _ _ _ fine => cases fine
      | word _ found => cases found
      | number _ found => exact .inr (number_error found)
      | punctuation _ _ fine => cases fine

/-- A lexeme begins with its first character whatever follows it. -/
theorem head_take_append {dialect : Dialect} {text : List Char} {kind : TokenKind} {length : Nat}
    {error : Option LexicalError} (found : of dialect text = .lexeme kind length error)
    (tail : List Char) : (text.take length ++ tail).head? = text.head? := by
  have positive : 0 < length := length_pos_of_eq found (by simp)
  obtain ⟨n, rfl⟩ := Nat.exists_eq_succ_of_ne_zero (Nat.ne_of_gt positive)
  cases text with
  | nil => cases found
  | cons c after => rw [List.take_succ_cons, List.cons_append, List.head?_cons, List.head?_cons]

/-- **A lexeme is found again before a text that replaces the one behind it.** -/
theorem of_replaced {dialect : Dialect} {text other : List Char} {kind : TokenKind} {length : Nat}
    {error : Option LexicalError} {alike : Bool}
    (replaces : Replaces (text.drop length) other alike)
    (found : of dialect text = .lexeme kind length error) :
    of dialect (text.take length ++ other) =
      .lexeme kind length (error.filter (isKept alike)) := by
  cases text with
  | nil => cases found
  | cons c cs =>
      have positive : 0 < length := length_pos_of_eq found (by simp)
      obtain ⟨n, rfl⟩ := Nat.exists_eq_succ_of_ne_zero (Nat.ne_of_gt positive)
      rw [of_cons, start] at found
      rw [List.take_succ_cons, List.cons_append, of_cons, start]
      by_cases isSlash : c = '/'
      · rw [if_pos isSlash] at found ⊢
        exact slash_replaced replaces found
      rw [if_neg isSlash] at found ⊢
      by_cases isQuote : c = '"'
      · rw [if_pos isQuote] at found ⊢
        exact string_replaced found
      rw [if_neg isQuote] at found ⊢
      by_cases isSingle : c = '\''
      · rw [if_pos isSingle] at found ⊢
        exact character_replaced replaces found
      rw [if_neg isSingle] at found ⊢
      by_cases isDot : c = '.'
      · rw [if_pos isDot] at found ⊢
        exact dots_replaced replaces found
      rw [if_neg isDot] at found ⊢
      by_cases isOperator : isOperatorStart c = true
      · rw [if_pos isOperator] at found ⊢
        exact operator_replaced isOperator replaces found
      rw [if_neg isOperator] at found ⊢
      by_cases isWord : isWordStart dialect c = true
      · rw [if_pos isWord] at found ⊢
        exact word_replaced replaces found
      rw [if_neg isWord] at found ⊢
      by_cases isDigit : c.isDigit = true
      · rw [if_pos isDigit] at found ⊢
        exact number_replaced replaces found
      rw [if_neg isDigit] at found ⊢
      -- what is left are the signs that are tokens by themselves
      cases sign : punctuation? c with
      | some kind =>
          rw [sign] at found
          obtain ⟨rfl, count, rfl⟩ := lexeme.inj found
          rw [← count]
          rfl
      | none =>
          rw [sign] at found
          cases found

/-- **A lexeme is found again from its text**, whatever line follows it. A quote alone is found
again at the end of the text only; elsewhere it does not stand alone. -/
theorem of_again {dialect : Dialect} {text tail : List Char} {kind : TokenKind} {length : Nat}
    {error : Option LexicalError} (apart : Apart tail) (later : tail ≠ [] → length < text.length)
    (found : of dialect text = .lexeme kind length error) :
    of dialect (text.take length ++ tail) =
      .lexeme kind length (error.filter LexicalError.aboutCharacter) := by
  have replaces : Replaces (text.drop length) tail false := by
    apply Replaces.line apart
    intro more isOver
    exact absurd (later more) (Nat.not_lt.mpr (List.drop_eq_nil_iff.mp isOver))
  exact of_replaced replaces found

end Front

end MiniJ
