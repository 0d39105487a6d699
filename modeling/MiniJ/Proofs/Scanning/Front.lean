import MiniJ.Lexeme.Front

/-!
# What the front of a text is

`Front.of` answers with lengths. `Front.Describes` says what such an answer claims of the text
itself: a comment is a whole line comment or a whole block comment, a lexeme is a nonempty prefix
whose kind exists in the dialect, and the input ends early only at a comment or a string that is
never closed, or at two dots that no third one follows. The main statement is that `Front.of` always
describes the text (`Front.of_describes`).
-/

set_option autoImplicit false

namespace MiniJ

/-! ## Comments and early ends -/

/-- A line comment in front of a text: two slashes and the rest of the line, with its line end
unless the text is over. -/
def IsLineComment (text after : List Char) : Prop :=
  ∃ body, '\n' ∉ body ∧
    (text = '/' :: '/' :: (body ++ ['\n']) ∨ (text = '/' :: '/' :: body ∧ after = []))

/-- A block comment: it ends with the first closing sign behind its opening sign. -/
def IsBlockComment (text : List Char) : Prop :=
  ∃ body, text = '/' :: '*' :: (body ++ ['*', '/']) ∧ ¬ ['*', '/'] <:+: body ++ ['*']

/-- A text with which the input ends early, and for which error. -/
def CutsOff (dialect : Dialect) : LexicalError → List Char → Prop
  | .unterminatedComment, text => ∃ body, text = '/' :: '*' :: body ∧ ¬ ['*', '/'] <:+: body
  | .unterminatedString, text => ∃ body, text = '"' :: body ∧ '"' ∉ body
  | .doubleDot, text =>
    dialect = .extended ∧ ∃ after, text = '.' :: '.' :: after ∧ after.head? ≠ some '.'
  | _, _ => False

/-- The errors that end the input, by their codes. -/
theorem LexicalError.endsInput_iff (error : LexicalError) :
    error.endsInput = true ↔ error.code.text ∈ ["E0002", "E0007", "E0008"] := by
  cases error with
  | invalidCharacter c | invalidNumber c => simp [endsInput, code, ErrorCode.text]
  | _ => decide

theorem CutsOff.endsInput {dialect : Dialect} {error : LexicalError} {text : List Char}
    (cut : CutsOff dialect error text) : error.endsInput = true := by
  cases error with
  | unterminatedComment | unterminatedString | doubleDot => rfl
  | _ => exact cut.elim

/-- What ends the input begins with a slash, a quote or a dot. -/
theorem CutsOff.head_cases {dialect : Dialect} {error : LexicalError} {text : List Char}
    (cut : CutsOff dialect error text) :
    text.head? = some '/' ∨ text.head? = some '"' ∨ text.head? = some '.' := by
  cases error with
  | unterminatedComment =>
      obtain ⟨body, rfl, -⟩ := cut
      exact .inl rfl
  | unterminatedString =>
      obtain ⟨body, rfl, -⟩ := cut
      exact .inr (.inl rfl)
  | doubleDot =>
      obtain ⟨-, after, rfl, -⟩ := cut
      exact .inr (.inr rfl)
  | _ => exact cut.elim

/-- What ends the input is no stray character. -/
theorem CutsOff.code_ne_invalidCharacter {dialect : Dialect} {error : LexicalError}
    {text : List Char} (cut : CutsOff dialect error text) : error.code ≠ .invalidCharacter := by
  intro stray
  have ends := cut.endsInput
  rw [LexicalError.endsInput_iff, stray] at ends
  exact absurd ends (by decide)

namespace Front

/-- What the answer about the front of a text says of the text. -/
def Describes (dialect : Dialect) (text : List Char) : Front → Prop
  | finish => text = []
  | comment length =>
    length ≤ text.length ∧
      (IsLineComment (text.take length) (text.drop length) ∨ IsBlockComment (text.take length))
  | stray c => ∃ after, text = c :: after
  | lexeme kind length error =>
    0 < length ∧ length ≤ text.length ∧ kind ≠ .eot ∧
      (dialect = .mini → kind.isExtendedOnly = false) ∧ ∀ e ∈ error, e.endsInput = false
  | breakOff length error =>
    CutsOff dialect error text ∧ length = if error = .doubleDot then 2 else text.length

/-- A lexeme of a kind that every dialect has. -/
theorem describes_lexeme {dialect : Dialect} {text : List Char} {kind : TokenKind} {length : Nat}
    {error : Option LexicalError} (positive : 0 < length) (fits : length ≤ text.length)
    (present : kind ≠ .eot) (common : kind.isExtendedOnly = false)
    (goesOn : ∀ e ∈ error, e.endsInput = false) :
    Describes dialect text (lexeme kind length error) :=
  ⟨positive, fits, present, fun _ => common, goesOn⟩

/-! ## Lists of characters -/

/-- The text behind a longest run does not go on with it. -/
theorem refused_dropWhile {p : Char → Bool} {cs : List Char} :
    ∀ c ∈ (cs.dropWhile p).head?, p c = false := by
  intro c head
  have refused := List.head?_dropWhile_not p cs
  rw [head] at refused
  simpa using refused

theorem eq_of_dropWhile_ne {stop c : Char} {cs after : List Char}
    (behind : cs.dropWhile (· ≠ stop) = c :: after) : c = stop := by
  have refused := refused_dropWhile c (List.head?_eq_some_iff.mpr ⟨after, behind⟩)
  simpa using refused

theorem notMem_takeWhile_ne (stop : Char) (cs : List Char) : stop ∉ cs.takeWhile (· ≠ stop) := by
  intro member
  have passed := List.all_eq_true.mp List.all_takeWhile stop member
  simp at passed

/-! ## Words and numbers -/

/-- The kinds that words have in a dialect. -/
inductive IsWordKind (dialect : Dialect) : TokenKind → Prop
  /-- That of a reserved word of the dialect. -/
  | reserved {entry : String × TokenKind} : entry ∈ reservedWords →
      (dialect = .mini → entry.2.isExtendedOnly = false) → IsWordKind dialect entry.2
  | primitive (type : Primitive) : IsWordKind dialect (.primitive type)
  | other {kind : TokenKind} : kind ∈ [.protection, .modifier, .ident] → IsWordKind dialect kind

theorem isWordKind_of_reservedKind? {text : String} {dialect : Dialect} {kind : TokenKind}
    (reserved : reservedKind? text dialect = some kind) : IsWordKind dialect kind := by
  rw [reservedKind?] at reserved
  split at reserved
  · cases reserved
  · rename_i found entry
    split at reserved
    · cases reserved
    · rename_i allowed
      cases reserved
      refine .reserved (List.mem_of_find?_eq_some entry) ?_
      rintro rfl
      simpa [Dialect.isMini] using allowed

theorem isWordKind_classifyWord (text : String) (dialect : Dialect) :
    IsWordKind dialect (classifyWord text dialect) := by
  rw [classifyWord]
  split
  · exact isWordKind_of_reservedKind? (by assumption)
  · split
    · rename_i kind found
      rw [primitiveKind?, Option.map_eq_some_iff] at found
      obtain ⟨type, -, rfl⟩ := found
      exact .primitive type
    · repeat' split
      all_goals exact .other (by simp)

/-- The kind of a word is one that the dialect has. -/
theorem IsWordKind.legal {dialect : Dialect} {kind : TokenKind} (isWord : IsWordKind dialect kind) :
    kind ≠ .eot ∧ (dialect = .mini → kind.isExtendedOnly = false) := by
  cases isWord with
  | reserved member common =>
      have present : ∀ entry ∈ reservedWords, entry.2 ≠ .eot := by decide
      exact ⟨present _ member, common⟩
  | primitive type => simp [TokenKind.isExtendedOnly]
  | other among =>
      have plain : ∀ kind ∈ [TokenKind.protection, .modifier, .ident],
          kind ≠ .eot ∧ kind.isExtendedOnly = false := by decide
      exact ⟨(plain _ among).1, fun _ => (plain _ among).2⟩

theorem word_describes (dialect : Dialect) (c : Char) (cs : List Char) :
    (word dialect c cs).Describes dialect (c :: cs) := by
  obtain ⟨present, common⟩ :=
    (isWordKind_classifyWord (String.ofList (c :: cs.takeWhile isWordContinue)) dialect).legal
  refine ⟨Nat.succ_pos _, ?_, present, common, by simp⟩
  exact Nat.succ_le_succ (List.takeWhile_prefix _).length_le

theorem integerError?_goesOn {cs : List Char} : ∀ e ∈ integerError? cs, e.endsInput = false := by
  intro e member
  simp only [integerError?] at member
  split at member
  · cases member
  · split at member
    · cases member
      rfl
    · cases member

theorem number_describes {dialect : Dialect} {c : Char} (cs : List Char)
    (digit : c.isDigit = true) :
    (number (c :: cs)).Describes dialect (c :: cs) := by
  have sum := congrArg List.length
      (List.takeWhile_append_dropWhile (p := Char.isDigit) (l := c :: cs))
  rw [List.length_append] at sum
  have whole : 0 < ((c :: cs).takeWhile Char.isDigit).length := by simp [digit]
  unfold number
  dsimp only
  split
  · -- a dot follows, and the digits behind it belong to the number
    rename_i after behind
    have fraction := (List.takeWhile_prefix Char.isDigit (l := after)).length_le
    rw [behind] at sum
    simp only [List.length_cons] at sum
    exact describes_lexeme (by omega) (by simp only [List.length_cons]; omega) (by simp) rfl
      (by simp)
  · exact describes_lexeme whole (List.takeWhile_prefix _).length_le (by simp) rfl
      integerError?_goesOn

/-! ## Quoted literals -/

theorem string_describes (dialect : Dialect) (cs : List Char) :
    (string cs).Describes dialect ('"' :: cs) := by
  have run := (List.takeWhile_append_dropWhile (p := (· ≠ '"')) (l := cs)).symm
  unfold string
  dsimp only
  split
  · -- no quote follows, so the rest of the text has none
    rename_i behind
    rw [behind, List.append_nil] at run
    refine ⟨⟨cs, rfl, ?_⟩, ?_⟩
    · rw [run]
      exact notMem_takeWhile_ne '"' cs
    · rw [← run]
      rfl
  · rename_i c after behind
    have sum := congrArg List.length run
    rw [behind, List.length_append, List.length_cons] at sum
    exact describes_lexeme (by omega) (by simp only [List.length_cons]; omega) (by simp) rfl
      (by simp)

theorem character_describes (dialect : Dialect) (cs : List Char) :
    (character cs).Describes dialect ('\'' :: cs) := by
  unfold character
  split
  · exact describes_lexeme (by simp) (by simp) (by simp) rfl (by simp [LexicalError.endsInput])
  · exact describes_lexeme (by simp) (by simp) (by simp) rfl (by simp [LexicalError.endsInput])
  · rename_i first after _
    have sum := congrArg List.length
      (List.takeWhile_append_dropWhile (p := fun c => c ≠ '\'' && c ≠ '\n') (l := after))
    rw [List.length_append] at sum
    dsimp only
    split
    · -- the closing quote is found; more than one character is at fault
      rename_i later behind
      rw [behind, List.length_cons] at sum
      split
      · exact describes_lexeme (by simp) (by simp only [List.length_cons]; omega) (by simp) rfl
          (by simp)
      · exact describes_lexeme (by simp) (by simp only [List.length_cons]; omega) (by simp) rfl
          (by simp [LexicalError.endsInput])
    · exact describes_lexeme (by simp) (by simp only [List.length_cons]; omega) (by simp) rfl
        (by simp [LexicalError.endsInput])

/-! ## Comments, operators and dots -/

/-- The search for the closing sign stops at the first one. -/
theorem split_of_commentEnd? {before length : Nat} {cs : List Char}
    (closes : commentEnd? before cs = some length) :
    ∃ body after, cs = body ++ '*' :: '/' :: after ∧ length = before + body.length + 2 ∧
      ¬ ['*', '/'] <:+: body ++ ['*'] := by
  fun_induction commentEnd? before cs with
  | case1 => cases closes
  | case2 before after =>
      cases closes
      refine ⟨[], after, rfl, rfl, ?_⟩
      -- a single character is too short for a closing sign
      intro early
      exact absurd early.length_le (by simp)
  | case3 before c cs open_ ih =>
      obtain ⟨body, after, rfl, rfl, first⟩ := ih closes
      refine ⟨c :: body, after, rfl, by simp only [List.length_cons]; omega, ?_⟩
      intro early
      rw [List.cons_append, List.infix_cons_iff] at early
      -- a closing sign at once would have been found, and one further on is excluded
      rcases early with here | later
      · obtain ⟨tail, shape⟩ := here
        cases body with
        | nil => cases shape
        | cons d body =>
            cases shape
            exact open_ (body ++ '*' :: '/' :: after) rfl rfl
      · exact first later

theorem not_infix_of_commentEnd? {before : Nat} {cs : List Char}
    (never : commentEnd? before cs = none) : ¬ ['*', '/'] <:+: cs := by
  fun_induction commentEnd? before cs with
  | case1 =>
      intro early
      exact absurd early.length_le (by simp)
  | case2 => cases never
  | case3 before c cs open_ ih =>
      intro early
      rcases List.infix_cons_iff.mp early with here | later
      · obtain ⟨tail, shape⟩ := here
        cases shape
        exact open_ tail rfl rfl
      · exact ih never later

/-- A line comment takes its line end with it, unless the text is over. -/
theorem lineComment_describes (dialect : Dialect) (cs : List Char) :
    (slash ('/' :: cs)).Describes dialect ('/' :: '/' :: cs) := by
  have run := (List.takeWhile_append_dropWhile (p := (· ≠ '\n')) (l := cs)).symm
  have line := notMem_takeWhile_ne '\n' cs
  rw [slash]
  split
  · -- the text is over before the line is
    rename_i behind
    rw [behind, List.append_nil] at run
    rw [← run] at line ⊢
    exact ⟨by simp, .inl ⟨cs, line, .inr ⟨by simp, by simp⟩⟩⟩
  · rename_i c after behind
    obtain rfl := eq_of_dropWhile_ne behind
    rw [behind] at run
    refine ⟨?_, .inl ⟨cs.takeWhile (· ≠ '\n'), line, .inl ?_⟩⟩
    · have sum := congrArg List.length run
      rw [List.length_append, List.length_cons] at sum
      simp only [List.length_cons]
      omega
    · have shape : '/' :: '/' :: cs =
          '/' :: '/' :: (cs.takeWhile (· ≠ '\n') ++ ['\n']) ++ after := by
        simpa using run
      have count : (cs.takeWhile (· ≠ '\n')).length + 3 =
          ('/' :: '/' :: (cs.takeWhile (· ≠ '\n') ++ ['\n'])).length := by
        simp
      rw [shape, count, List.take_left]

/-- A block comment is closed by the first closing sign, or never. -/
theorem blockComment_describes (dialect : Dialect) (cs : List Char) :
    (slash ('*' :: cs)).Describes dialect ('/' :: '*' :: cs) := by
  rw [slash]
  split
  · rename_i length closes
    obtain ⟨body, after, rfl, rfl, first⟩ := split_of_commentEnd? closes
    refine ⟨by simp; omega, .inr ⟨body, ?_, first⟩⟩
    have count : 2 + body.length + 2 = ('/' :: '*' :: (body ++ ['*', '/'])).length := by
      simp
      omega
    have shape : '/' :: '*' :: (body ++ '*' :: '/' :: after) =
        '/' :: '*' :: (body ++ ['*', '/']) ++ after := by simp
    rw [count, shape, List.take_left]
  · rename_i never
    exact ⟨⟨cs, rfl, not_infix_of_commentEnd? never⟩, rfl⟩

theorem slash_describes (dialect : Dialect) (cs : List Char) :
    (slash cs).Describes dialect ('/' :: cs) := by
  unfold slash
  split
  · exact describes_lexeme (by simp) (by simp) (by simp) rfl (by simp)
  · exact lineComment_describes dialect _
  · exact blockComment_describes dialect _
  · exact describes_lexeme (by simp) (by simp) (by simp) rfl (by simp)

/-- An operator of two characters takes in the one that follows. -/
theorem operator_legal (c : Char) (next : Option Char) :
    (operator c next).1 ≠ .eot ∧ (operator c next).1.isExtendedOnly = false ∧
      (operator c next).2 ≤ 1 + next.toList.length := by
  rw [operator]
  repeat' split
  all_goals simp_all [TokenKind.isExtendedOnly]

theorem operator_describes (dialect : Dialect) (c : Char) (cs : List Char) :
    (lexeme (operator c cs.head?).1 (operator c cs.head?).2 none).Describes dialect (c :: cs) := by
  obtain ⟨present, common, short⟩ := operator_legal c cs.head?
  refine describes_lexeme (operator_length_pos _ _) ?_ present common (by simp)
  cases cs with
  | nil => simpa using short
  | cons d cs =>
      simp only [List.head?_cons, Option.toList_some, List.length_cons, List.length_nil] at short ⊢
      omega

theorem dots_describes (dialect : Dialect) (cs : List Char) :
    (dots dialect cs).Describes dialect ('.' :: cs) := by
  simp only [dots]
  cases dialect with
  | mini => exact describes_lexeme (by simp) (by simp) (by simp) rfl (by simp)
  | extended =>
      simp only [Dialect.isMini, Bool.false_eq_true, ↓reduceIte]
      split
      · refine ⟨by simp, by simp, by simp, nofun, by simp⟩
      · -- two dots, and no third one
        rename_i after notThree
        refine ⟨⟨rfl, after, rfl, ?_⟩, rfl⟩
        intro third
        cases after with
        | nil => cases third
        | cons d after =>
            cases third
            exact notThree after rfl
      · exact describes_lexeme (by simp) (by simp) (by simp) rfl (by simp)

/-! ## All together -/

theorem punctuation?_legal {c : Char} {kind : TokenKind} (sign : punctuation? c = some kind) :
    kind ≠ .eot ∧ kind.isExtendedOnly = false := by
  simp only [punctuation?] at sign
  split at sign
  all_goals cases sign
  all_goals exact ⟨by simp, rfl⟩

/-- **The answer about the front of a text describes the text.** -/
theorem of_describes (dialect : Dialect) (text : List Char) :
    (of dialect text).Describes dialect text := by
  simp only [of]
  split
  · rfl
  · exact slash_describes dialect _
  · exact string_describes dialect _
  · exact character_describes dialect _
  · exact dots_describes dialect _
  · rename_i c cs _ _ _ _
    split
    · exact operator_describes dialect c cs
    · split
      · exact word_describes dialect c cs
      · split
        · rename_i digit
          exact number_describes cs digit
        · split
          · rename_i kind sign
            obtain ⟨present, common⟩ := punctuation?_legal sign
            exact describes_lexeme (by simp) (by simp) present common (by simp)
          · exact ⟨cs, rfl⟩

/-! ## The description tells the front -/

/-- The search for the closing sign finds the first one. -/
theorem commentEnd?_of_split {body : List Char} (first : ¬ ['*', '/'] <:+: body ++ ['*'])
    (before : Nat) (after : List Char) :
    commentEnd? before (body ++ '*' :: '/' :: after) = some (before + body.length + 2) := by
  induction body generalizing before with
  | nil => rfl
  | cons c body ih =>
      rw [List.cons_append, List.infix_cons_iff, not_or] at first
      -- no closing sign stands at once
      have open_ : ∀ tail, c = '*' → body ++ '*' :: '/' :: after = '/' :: tail → False := by
        rintro tail rfl shape
        apply first.1
        cases body with
        | nil => cases shape
        | cons d body =>
            cases shape
            exact ⟨body ++ ['*'], rfl⟩
      rw [List.cons_append, commentEnd?.eq_3 _ _ _ open_, ih first.2, List.length_cons]
      congr 1
      omega

theorem commentEnd?_eq_none {cs : List Char} (never : ¬ ['*', '/'] <:+: cs) (before : Nat) :
    commentEnd? before cs = none := by
  cases found : commentEnd? before cs with
  | none => rfl
  | some length =>
      obtain ⟨body, after, rfl, -, -⟩ := split_of_commentEnd? found
      exact absurd ⟨body, after, by simp⟩ never

theorem dropWhile_ne_of_notMem {stop : Char} {body : List Char} (missing : stop ∉ body)
    (after : List Char) : (body ++ after).dropWhile (· ≠ stop) = after.dropWhile (· ≠ stop) := by
  apply List.dropWhile_append_of_pos
  intro c member
  rw [decide_eq_true_iff]
  rintro rfl
  exact missing member

theorem takeWhile_ne_of_notMem {stop : Char} {body : List Char} (missing : stop ∉ body)
    (after : List Char) :
    (body ++ after).takeWhile (· ≠ stop) = body ++ after.takeWhile (· ≠ stop) := by
  apply List.takeWhile_append_of_pos
  intro c member
  rw [decide_eq_true_iff]
  rintro rfl
  exact missing member

theorem of_isLineComment (dialect : Dialect) {text after : List Char}
    (comment : IsLineComment text after) :
    of dialect (text ++ after) = .comment text.length := by
  obtain ⟨body, line, rfl | ⟨rfl, rfl⟩⟩ := comment
  · -- the line end belongs to the comment
    change slash ('/' :: (body ++ ['\n'] ++ after)) = _
    have run := takeWhile_ne_of_notMem line ('\n' :: after)
    have behind := dropWhile_ne_of_notMem line ('\n' :: after)
    rw [List.append_assoc, List.singleton_append, slash, run, behind]
    simp
  · change slash ('/' :: (body ++ [])) = _
    rw [slash, takeWhile_ne_of_notMem line, dropWhile_ne_of_notMem line]
    simp

theorem of_isBlockComment (dialect : Dialect) {text : List Char} (comment : IsBlockComment text)
    (after : List Char) : of dialect (text ++ after) = .comment text.length := by
  obtain ⟨body, rfl, first⟩ := comment
  change slash ('*' :: (body ++ ['*', '/'] ++ after)) = _
  rw [List.append_assoc, List.cons_append, List.singleton_append, slash,
    commentEnd?_of_split first]
  simp only [List.length_cons, List.length_append, List.length_nil]
  congr 1
  omega

/-- What cuts off the rest of a text is found at its front. -/
theorem of_cutsOff {dialect : Dialect} {error : LexicalError} {text : List Char}
    (cut : CutsOff dialect error text) : ∃ length, of dialect text = .breakOff length error := by
  cases error with
  | unterminatedComment =>
      obtain ⟨body, rfl, never⟩ := cut
      refine ⟨body.length + 2, ?_⟩
      change slash ('*' :: body) = _
      rw [slash, commentEnd?_eq_none never]
  | unterminatedString =>
      obtain ⟨body, rfl, missing⟩ := cut
      have behind := dropWhile_ne_of_notMem missing []
      rw [List.append_nil] at behind
      refine ⟨(body.takeWhile (· ≠ '"')).length + 1, ?_⟩
      change string body = _
      rw [string, behind]
      rfl
  | doubleDot =>
      obtain ⟨rfl, after, rfl, noThird⟩ := cut
      refine ⟨2, ?_⟩
      change dots .extended ('.' :: after) = _
      cases after with
      | nil => rfl
      | cons c after =>
          have differs : c ≠ '.' := fun same => noThird (congrArg some same)
          simp [dots, Dialect.isMini, differs]
  | _ => exact cut.elim

end Front

end MiniJ
