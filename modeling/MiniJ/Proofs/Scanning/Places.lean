import MiniJ.Proofs.Scanning.Walk

/-!
# What stands where a cursor does

No two places of a text have the same position, so a token or a report of a stray character that has
the position of a cursor is about what the cursor is in front of (`Scanner.token_at_front`,
`Scanner.stray_at_front`). `Scanner.Recalls` keeps, while a cursor goes through a text, what the text
reports as a whole: the stray characters that are not found from the cursor on stand before it.
-/

set_option autoImplicit false

namespace MiniJ

/-! ## Reports of stray characters -/

/-- The positions at which faults report stray characters. -/
def strayPositions (faults : List LexicalFault) : List Position :=
  (faults.filter fun fault => fault.error.code = .invalidCharacter).map LexicalFault.position

theorem mem_strayPositions {faults : List LexicalFault} {position : Position} :
    position ∈ strayPositions faults ↔
      ∃ fault ∈ faults, fault.error.code = .invalidCharacter ∧ fault.position = position := by
  simp only [strayPositions, List.mem_map, List.mem_filter, decide_eq_true_eq, and_assoc]

theorem strayPositions_append (own faults : List LexicalFault) :
    strayPositions (own ++ faults) = strayPositions own ++ strayPositions faults := by
  rw [strayPositions, List.filter_append, List.map_append]
  rfl

theorem strayPositions_eq_nil {faults : List LexicalFault}
    (none : ∀ fault ∈ faults, fault.error.code ≠ .invalidCharacter) :
    strayPositions faults = [] := by
  rw [strayPositions, List.map_eq_nil_iff, List.filter_eq_nil_iff]
  intro fault member
  simpa using none fault member

namespace Scanner

open SourceCursor

variable {dialect : Dialect} {source : Source} {cursor : SourceCursor} {all : List LexicalFault}
  {text : List Char}

/-! ## What is in front -/

/-- No blank is in front. -/
def Visible (text : List Char) : Prop :=
  ∀ c ∈ text.head?, Text.isBlank c = false

/-- A stray character is in front. -/
def AtStray (dialect : Dialect) (text : List Char) : Prop :=
  Visible text ∧ ∃ c, Front.of dialect text = .stray c

theorem Visible.stays (visible : Visible cursor.rest) :
    cursor.advanceWhile Text.isBlank = cursor :=
  advanceWhile_of_visible visible

/-- A comment begins with a slash. -/
theorem head_of_comment {length : Nat} (found : Front.of dialect text = .comment length) :
    (text.take length).head? = some '/' := by
  obtain ⟨-, ⟨body, -, line | ⟨line, -⟩⟩ | ⟨body, block, -⟩⟩ :=
    found ▸ Front.of_describes dialect text
  · rw [line, List.head?_cons]
  · rw [line, List.head?_cons]
  · rw [block, List.head?_cons]

theorem head_of_head_take {n : Nat} {c : Char} (head : (text.take n).head? = some c) :
    text.head? = some c := by
  rw [List.head?_take] at head
  split at head
  · cases head
  · exact head

theorem visible_of_cutsOff {error : LexicalError} (cut : CutsOff dialect error text) :
    Visible text := by
  intro c head
  rcases cut.head_cases with front | front | front
  all_goals
    cases front.symm.trans head
    decide

/-- Behind the blanks no blank is in front. -/
theorem visible_advanceWhile (cursor : SourceCursor) :
    Visible (cursor.advanceWhile Text.isBlank).rest := by
  rw [advanceWhile_rest]
  exact Front.refused_dropWhile

/-! ## The fronts of tokens and stray characters -/

/-- Everything but a letter behind an integer is reported where the lexeme begins. -/
theorem faultPosition_of_aboutCharacter {error : LexicalError}
    (about : error.aboutCharacter = true) (before behind : SourceCursor) :
    faultPosition error before behind = before.position := by
  cases error with
  | invalidNumber c => cases about
  | _ => rfl

/-- That a token is the lexeme at an offset of a text, where the faults say what is wrong with it if
it is a character literal. -/
structure StandsAt (dialect : Dialect) (source : Source) (faults : List LexicalFault)
    (token : Token) (offset length : Nat) (error : Option LexicalError) : Prop where
  inside : offset < source.size
  position : token.position = source.positionAt offset
  front : Front.of dialect (source.chars.drop offset) = .lexeme token.kind length error
  text : token.text.toList = (source.chars.drop offset).take length
  reported : ∀ e ∈ error, e.aboutCharacter = true → ⟨e, token.position⟩ ∈ faults

theorem StandsAt.mono {faults more : List LexicalFault} {token : Token} {offset length : Nat}
    {error : Option LexicalError} (found : StandsAt dialect source faults token offset length error)
    (included : ∀ fault ∈ faults, fault ∈ more) :
    StandsAt dialect source more token offset length error :=
  { found with reported := fun e wrong about => included _ (found.reported e wrong about) }

/-- The lexeme in front of a cursor. -/
theorem standsAt_front {kind : TokenKind} {length : Nat} {error : Option LexicalError}
    (stands : cursor.At source) (found : Front.of dialect cursor.rest = .lexeme kind length error) :
    StandsAt dialect source (lexemeFaults length error cursor) (lexemeToken kind length cursor)
      cursor.offset length error := by
  obtain ⟨positive, fits, -⟩ := found ▸ Front.of_describes dialect _
  have total := stands.offset_add
  constructor
  · omega
  · exact stands.position
  · rw [← stands.rest]
    exact found
  · rw [← stands.rest, lexemeToken, String.toList_ofList]
  · intro e wrong about
    apply List.mem_map.mpr
    refine ⟨e, Option.mem_toList.mpr wrong, ?_⟩
    rw [faultPosition_of_aboutCharacter about]
    rfl

/-- **Each token is the front of what is left** of the text where it stands. -/
theorem exists_standsAt (cursor : SourceCursor) (stands : cursor.At source) :
    ∀ token ∈ (lexFrom dialect cursor).tokens, token.kind ≠ .eot →
      ∃ offset length error, Visible (source.chars.drop offset) ∧
        StandsAt dialect source (lexFrom dialect cursor).faults token offset length error := by
  intro token member present
  induction cursor using walk_induction dialect with
  | finish cursor found =>
      rw [lexFrom_of_finish found] at member
      obtain rfl := List.mem_singleton.mp member
      exact absurd rfl present
  | comment cursor length found ih =>
      rw [lexFrom_of_comment found] at member ⊢
      exact ih ((stands.advanceWhile _).advanceBy length) member
  | stray cursor c found ih =>
      rw [lexFrom_of_stray found] at member ⊢
      obtain ⟨offset, length, error, visible, later⟩ := ih (stands.advanceWhile _).advance member
      exact ⟨offset, length, error, visible, later.mono fun _ => List.mem_cons_of_mem _⟩
  | lexeme cursor kind length error found ih =>
      have there := stands.advanceWhile Text.isBlank
      obtain ⟨-, -, presentThere, -⟩ := found ▸ Front.of_describes dialect _
      rw [lexFrom_of_lexeme found presentThere] at member ⊢
      rcases List.mem_cons.mp member with rfl | behind
      · have visible := visible_advanceWhile cursor
        rw [there.rest] at visible
        refine ⟨_, length, error, visible, (standsAt_front there found).mono ?_⟩
        exact fun _ => List.mem_append_left _
      · obtain ⟨offset, n, e, visible, later⟩ := ih (there.advanceBy length) behind
        exact ⟨offset, n, e, visible, later.mono fun _ => List.mem_append_right _⟩
  | breakOff cursor length error found =>
      rw [lexFrom_of_breakOff found] at member
      obtain rfl := List.mem_singleton.mp member
      exact absurd rfl present

/-- **Each character that is reported as stray begins nothing** where it stands. -/
theorem exists_stray (cursor : SourceCursor) (stands : cursor.At source) :
    ∀ fault ∈ (lexFrom dialect cursor).faults, fault.error.code = .invalidCharacter →
      ∃ offset < source.size, fault.position = source.positionAt offset ∧
        AtStray dialect (source.chars.drop offset) := by
  intro fault member stray
  induction cursor using walk_induction dialect with
  | finish cursor found =>
      rw [lexFrom_of_finish found] at member
      cases member
  | comment cursor length found ih =>
      rw [lexFrom_of_comment found] at member
      exact ih ((stands.advanceWhile _).advanceBy length) member
  | stray cursor c found ih =>
      have there := stands.advanceWhile Text.isBlank
      rw [lexFrom_of_stray found] at member
      rcases List.mem_cons.mp member with rfl | later
      · obtain ⟨after, left⟩ := found ▸ Front.of_describes dialect _
        have total := there.offset_add
        rw [left, List.length_cons] at total
        have front : AtStray dialect (cursor.advanceWhile Text.isBlank).rest :=
          ⟨visible_advanceWhile cursor, c, found⟩
        rw [there.rest] at front
        exact ⟨_, by omega, there.position, front⟩
      · exact ih there.advance later
  | lexeme cursor kind length error found ih =>
      obtain ⟨-, -, present, -⟩ := found ▸ Front.of_describes dialect _
      rw [lexFrom_of_lexeme found present] at member
      rcases List.mem_append.mp member with own | later
      · exact absurd stray (code_of_mem_lexemeFaults found own)
      · exact ih ((stands.advanceWhile _).advanceBy length) later
  | breakOff cursor length error found =>
      obtain ⟨cut, -⟩ := found ▸ Front.of_describes dialect _
      rw [lexFrom_of_breakOff found] at member
      obtain rfl := List.mem_singleton.mp member
      exact absurd stray cut.code_ne_invalidCharacter

/-! ## What stands where a cursor does -/

/-- No two places of a text have the same position. -/
theorem offset_of_position (stands : cursor.At source) {offset : Nat} (inside : offset ≤ source.size)
    (here : source.positionAt offset = cursor.position) : offset = cursor.offset := by
  rw [stands.position] at here
  exact Source.positionAt_injective inside stands.offset here

/-- **A character that is reported as stray where a cursor stands is in front of it.** -/
theorem stray_at_front (stands : cursor.At source) {fault : LexicalFault}
    (member : fault ∈ (lexFrom dialect cursor).faults)
    (stray : fault.error.code = .invalidCharacter) (here : fault.position = cursor.position) :
    AtStray dialect cursor.rest := by
  obtain ⟨offset, inside, position, front⟩ := exists_stray cursor stands fault member stray
  obtain rfl := offset_of_position stands (Nat.le_of_lt inside) (position.symm.trans here)
  rwa [stands.rest]

/-- **A token that stands where a cursor does is in front of it.** -/
theorem token_at_front (stands : cursor.At source) {token : Token}
    (member : token ∈ (lexFrom dialect cursor).tokens) (present : token.kind ≠ .eot)
    (here : token.position = cursor.position) :
    Visible cursor.rest ∧ ∃ length error,
      Front.of dialect cursor.rest = .lexeme token.kind length error ∧
        token.text = String.ofList (cursor.rest.take length) := by
  obtain ⟨offset, length, error, visible, found⟩ :=
    exists_standsAt cursor stands token member present
  obtain rfl := offset_of_position stands (Nat.le_of_lt found.inside)
    (found.position.symm.trans here)
  rw [stands.rest]
  refine ⟨visible, length, error, found.front, ?_⟩
  rw [← found.text, String.ofList_toList]

/-! ## Reports of the whole text -/

/-- That a cursor stands on the way through a text with these faults: what is found from it on is
among them, and the other stray characters stand before it. -/
structure Recalls (dialect : Dialect) (source : Source) (all : List LexicalFault)
    (cursor : SourceCursor) : Prop where
  included : ∀ fault ∈ (lexFrom dialect cursor).faults, fault ∈ all
  earlier : ∀ fault ∈ all, fault.error.code = .invalidCharacter →
    fault ∈ (lexFrom dialect cursor).faults ∨
      ∃ place < cursor.offset, fault.position = source.positionAt place

/-- A stray character of the text that stands where the cursor does is in front of it. -/
theorem Recalls.stray_at_front (recalls : Recalls dialect source all cursor)
    (stands : cursor.At source) {fault : LexicalFault} (member : fault ∈ all)
    (stray : fault.error.code = .invalidCharacter) (here : fault.position = cursor.position) :
    AtStray dialect cursor.rest := by
  rcases recalls.earlier fault member stray with later | ⟨place, before, position⟩
  · exact Scanner.stray_at_front stands later stray here
  · have inside := stands.offset
    obtain rfl := offset_of_position stands (by omega) (position.symm.trans here)
    exact absurd before (Nat.lt_irrefl _)

/-- The text reports a stray character where it has one. -/
theorem Recalls.strays_here (recalls : Recalls dialect source all cursor)
    (stands : cursor.At source) :
    cursor.position ∈ strayPositions all ↔ AtStray dialect cursor.rest := by
  rw [mem_strayPositions]
  constructor
  · rintro ⟨fault, member, stray, here⟩
    exact recalls.stray_at_front stands member stray here
  · rintro ⟨visible, c, found⟩
    refine ⟨⟨.invalidCharacter c, cursor.position⟩, recalls.included _ ?_, rfl, rfl⟩
    rw [← visible.stays] at found
    rw [lexFrom_of_stray found, visible.stays]
    exact List.mem_cons_self

/-- A cursor that moves on leaves behind what is found on the way. -/
theorem Recalls.next {behind : SourceCursor} (recalls : Recalls dialect source all cursor)
    (own : List LexicalFault)
    (faults : (lexFrom dialect cursor).faults = own ++ (lexFrom dialect behind).faults)
    (order : cursor.offset ≤ behind.offset)
    (passed : ∀ fault ∈ own, fault.error.code = .invalidCharacter →
      ∃ place < behind.offset, fault.position = source.positionAt place) :
    Recalls dialect source all behind := by
  constructor
  · intro fault member
    apply recalls.included
    rw [faults]
    exact List.mem_append_right own member
  · intro fault member stray
    rcases recalls.earlier fault member stray with found | ⟨place, before, position⟩
    · rw [faults] at found
      rcases List.mem_append.mp found with here | later
      · exact .inr (passed fault here stray)
      · exact .inl later
    · exact .inr ⟨place, Nat.lt_of_lt_of_le before order, position⟩

theorem offset_le_advanceBy (stands : cursor.At source) (n : Nat) :
    cursor.offset ≤ (cursor.advanceBy n).offset := by
  apply stands.offset_le (stands.advanceBy n)
  rw [advanceBy_rest, List.length_drop]
  exact Nat.sub_le _ _

/-! ## One front where a cursor stands -/

section Steps

variable {length : Nat}

theorem lexFrom_at_comment (visible : Visible cursor.rest)
    (found : Front.of dialect cursor.rest = .comment length) :
    lexFrom dialect cursor = lexFrom dialect (cursor.advanceBy length) := by
  rw [← visible.stays] at found
  rw [lexFrom_of_comment found, visible.stays]

theorem lexFrom_at_stray {c : Char} (visible : Visible cursor.rest)
    (found : Front.of dialect cursor.rest = .stray c) :
    lexFrom dialect cursor =
      (lexFrom dialect cursor.advance).prepend [] [⟨.invalidCharacter c, cursor.position⟩] := by
  rw [← visible.stays] at found
  rw [lexFrom_of_stray found, visible.stays]

theorem lexFrom_at_lexeme {kind : TokenKind} {error : Option LexicalError}
    (visible : Visible cursor.rest)
    (found : Front.of dialect cursor.rest = .lexeme kind length error) :
    lexFrom dialect cursor =
      (lexFrom dialect (cursor.advanceBy length)).prepend [lexemeToken kind length cursor]
        (lexemeFaults length error cursor) := by
  obtain ⟨-, -, present, -⟩ := found ▸ Front.of_describes dialect _
  rw [← visible.stays] at found
  rw [lexFrom_of_lexeme found present, visible.stays]

theorem lexFrom_at_end (isOver : cursor.rest = []) :
    lexFrom dialect cursor = ⟨[.endAt cursor.position], []⟩ := by
  have visible : Visible cursor.rest := by simp [Visible, isOver]
  have found : Front.of dialect (cursor.advanceWhile Text.isBlank).rest = .finish := by
    rw [visible.stays, isOver]
    rfl
  rw [lexFrom_of_finish found, visible.stays]

theorem Recalls.past_blanks (recalls : Recalls dialect source all cursor)
    (stands : cursor.At source) {n : Nat}
    (blanks : ∀ c ∈ cursor.rest.take n, Text.isBlank c = true) :
    Recalls dialect source all (cursor.advanceBy n) := by
  apply recalls.next [] _ (offset_le_advanceBy stands n) (by simp)
  rw [lexFrom_advanceBy blanks, List.nil_append]

theorem Recalls.past_comment (recalls : Recalls dialect source all cursor)
    (stands : cursor.At source) (visible : Visible cursor.rest)
    (found : Front.of dialect cursor.rest = .comment length) :
    Recalls dialect source all (cursor.advanceBy length) := by
  apply recalls.next [] _ (offset_le_advanceBy stands length) (by simp)
  rw [lexFrom_at_comment visible found, List.nil_append]

theorem Recalls.past_stray (recalls : Recalls dialect source all cursor)
    (stands : cursor.At source) {c : Char} (visible : Visible cursor.rest)
    (found : Front.of dialect cursor.rest = .stray c) :
    Recalls dialect source all cursor.advance := by
  obtain ⟨after, left⟩ := found ▸ Front.of_describes dialect _
  have order : cursor.offset < cursor.advance.offset := by
    rw [offset_advance left]
    exact Nat.lt_succ_self _
  apply recalls.next [⟨.invalidCharacter c, cursor.position⟩] _ (Nat.le_of_lt order)
  · intro fault member stray
    obtain rfl := List.mem_singleton.mp member
    exact ⟨cursor.offset, order, stands.position⟩
  · rw [lexFrom_at_stray visible found]
    rfl

theorem Recalls.past_lexeme (recalls : Recalls dialect source all cursor)
    (stands : cursor.At source) {kind : TokenKind} {error : Option LexicalError}
    (visible : Visible cursor.rest)
    (found : Front.of dialect cursor.rest = .lexeme kind length error) :
    Recalls dialect source all (cursor.advanceBy length) := by
  apply recalls.next (lexemeFaults length error cursor) _ (offset_le_advanceBy stands length)
  · intro fault member stray
    exact absurd stray (code_of_mem_lexemeFaults found member)
  · rw [lexFrom_at_lexeme visible found]
    rfl

end Steps

end Scanner

end MiniJ
