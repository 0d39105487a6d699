import MiniJ.Proofs.Scanning.Offset

/-!
# Moves of a source cursor

A source cursor is moved over one character or over the longest run of characters that satisfy a
predicate (`SourceCursor.Move`). Whatever the moves are, it goes on standing in its text
(`SourceCursor.At.moveAll`), and what it shows there follows from the text and the offset alone
(`SourceCursor.Shows`). At the end it shows NUL, but a NUL inside the text is not taken for the end,
and no run goes past the end, not even one of NULs (`SourceCursor.At.run_iff`).

Lines and columns are numbers without bound. A `WordPosition` counts them in words of 32 bits and
gives up where a word would overflow, which happens in no text that is short enough
(`SourceCursor.At.exists_words`).

The main statement is `source_cursor_moves`.
-/

set_option autoImplicit false

namespace MiniJ

/-! ## Counting in words -/

namespace Position

theorem after_le (p : Position) (c : Char) :
    (p.after c).line ≤ p.line + 1 ∧ (p.after c).column ≤ p.column + 1 := by
  rw [after]
  split
  · exact ⟨Nat.le_refl _, Nat.le_add_left _ _⟩
  · exact ⟨Nat.le_add_right _ _, Nat.le_refl _⟩

end Position

/-- A line and a column in words of 32 bits. -/
structure WordPosition where
  line : UInt32
  column : UInt32
  deriving DecidableEq

namespace WordPosition

/-- The position of the first character of every text. -/
def start : WordPosition := ⟨1, 1⟩

/-- The position that the words say. -/
def toPosition (words : WordPosition) : Position :=
  ⟨words.line.toNat, words.column.toNat⟩

/-- The next number, unless it overflows. -/
def next? (word : UInt32) : Option UInt32 :=
  if word.toNat + 1 < UInt32.size then some (word + 1) else none

/-- The position just past a character, unless a word overflows. -/
def after? (words : WordPosition) (c : Char) : Option WordPosition :=
  if c = '\n' then (next? words.line).map fun line => ⟨line, 1⟩
  else (next? words.column).map fun column => ⟨words.line, column⟩

/-- The position just past a text, unless a word overflows on the way. -/
def afterAll? (words : WordPosition) (cs : List Char) : Option WordPosition :=
  cs.foldlM after? words

variable {words : WordPosition}

theorem exists_next? {word : UInt32} (room : word.toNat + 1 < UInt32.size) :
    ∃ next, next? word = some next ∧ next.toNat = word.toNat + 1 := by
  refine ⟨word + 1, if_pos room, ?_⟩
  rw [UInt32.toNat_add, UInt32.toNat_one]
  exact Nat.mod_eq_of_lt room

theorem exists_after? (words : WordPosition) (c : Char)
    (lines : words.line.toNat + 1 < UInt32.size)
    (columns : words.column.toNat + 1 < UInt32.size) :
    ∃ next, words.after? c = some next ∧ next.toPosition = words.toPosition.after c := by
  rw [after?, Position.after]
  split
  · obtain ⟨line, found, count⟩ := exists_next? lines
    refine ⟨⟨line, 1⟩, by rw [found, Option.map_some], ?_⟩
    rw [toPosition, toPosition, count]
    rfl
  · obtain ⟨column, found, count⟩ := exists_next? columns
    refine ⟨⟨words.line, column⟩, by rw [found, Option.map_some], ?_⟩
    rw [toPosition, toPosition, count]

/-- **Words count like numbers** where there is room for all characters. The induction is on the
characters; each takes up one place of either room at most. -/
theorem exists_afterAll? {cs : List Char}
    (lines : words.line.toNat + cs.length < UInt32.size)
    (columns : words.column.toNat + cs.length < UInt32.size) :
    ∃ last, words.afterAll? cs = some last ∧
      last.toPosition = words.toPosition.afterAll cs := by
  induction cs generalizing words with
  | nil => exact ⟨words, rfl, rfl⟩
  | cons c cs ih =>
      rw [List.length_cons] at lines columns
      obtain ⟨next, found, count⟩ := words.exists_after? c (by omega) (by omega)
      obtain ⟨line, column⟩ := words.toPosition.after_le c
      rw [← count] at line column
      dsimp only [toPosition] at line column
      have linesLeft : next.line.toNat + cs.length < UInt32.size := by omega
      have columnsLeft : next.column.toNat + cs.length < UInt32.size := by omega
      obtain ⟨last, rest, total⟩ := ih linesLeft columnsLeft
      refine ⟨last, ?_, ?_⟩
      · rw [afterAll?, List.foldlM_cons, found]
        exact rest
      · rw [total, count, Position.afterAll_cons]

end WordPosition

namespace SourceCursor

/-! ## Where a cursor stands -/

variable {source : Source} {cursor : SourceCursor}

theorem At.isAtEnd_iff (stands : cursor.At source) :
    cursor.isAtEnd = true ↔ cursor.offset = source.size := by
  have total := stands.offset_add
  rw [isAtEnd, List.isEmpty_iff, ← List.length_eq_zero_iff]
  omega

theorem current_of_isAtEnd (ended : cursor.isAtEnd = true) : cursor.current = Source.sentinel := by
  rw [isAtEnd, List.isEmpty_iff] at ended
  rw [current, ended, List.headD_nil]

theorem At.getElem?_offset (stands : cursor.At source) (more : cursor.isAtEnd = false) :
    source.chars[cursor.offset]? = some cursor.current := by
  obtain ⟨c, after, left⟩ := List.exists_cons_of_ne_nil (List.isEmpty_eq_false_iff.mp more)
  rw [← List.head?_drop, ← stands.rest, current, left]
  rfl

/-- The position of a cursor is the one past all characters before it. -/
theorem At.position_eq_afterAll (stands : cursor.At source) :
    cursor.position = Position.start.afterAll (source.chars.take cursor.offset) := by
  have there := (at_start source).advanceBy cursor.offset
  have offset : ((start source).advanceBy cursor.offset).offset = cursor.offset :=
    (offset_advanceBy stands.offset).trans (Nat.zero_add _)
  calc cursor.position
    _ = source.positionAt cursor.offset := stands.position
    _ = ((start source).advanceBy cursor.offset).position := by rw [there.position, offset]
    _ = Position.start.afterAll (source.chars.take cursor.offset) := position_advanceBy _ _

/-- **No word overflows** on the way to any place of a text that is short enough. -/
theorem At.exists_words (stands : cursor.At source) (short : source.size < UInt32.size - 1) :
    ∃ words, WordPosition.start.afterAll? (source.chars.take cursor.offset) = some words ∧
      words.toPosition = cursor.position := by
  have read : (source.chars.take cursor.offset).length ≤ source.size := List.length_take_le' _ _
  -- both words begin at one, so the text has to be shorter by one than what a word can count
  have room : 1 + (source.chars.take cursor.offset).length < UInt32.size := by omega
  rw [stands.position_eq_afterAll]
  exact WordPosition.exists_afterAll? room room

/-- What a cursor in a text shows. -/
structure Shows (source : Source) (cursor : SourceCursor) : Prop where
  inside : cursor.offset ≤ source.size
  atEnd : cursor.isAtEnd = true ↔ cursor.offset = source.size
  sentinel : cursor.isAtEnd = true → cursor.current = '\x00'
  character : cursor.isAtEnd = false → source.chars[cursor.offset]? = some cursor.current
  /-- The line ends before the cursor. -/
  line : cursor.position.line = 1 + (source.chars.take cursor.offset).count '\n'
  /-- The characters between the cursor and the last line end before it. -/
  column : cursor.position.column =
    1 + ((source.chars.take cursor.offset).reverse.takeWhile (· ≠ '\n')).length
  /-- Both can be counted in words. -/
  words : ∃ words, WordPosition.start.afterAll? (source.chars.take cursor.offset) = some words ∧
    words.toPosition = cursor.position

theorem At.shows (stands : cursor.At source) (short : source.size < UInt32.size - 1) :
    cursor.Shows source where
  inside := stands.offset
  atEnd := stands.isAtEnd_iff
  sentinel := current_of_isAtEnd
  character := stands.getElem?_offset
  line := by
    rw [stands.position, Source.positionAt]
    exact Nat.add_comm _ _
  column := by
    rw [stands.position, Source.positionAt]
    exact Nat.add_comm _ _
  words := stands.exists_words short

/-- **What is passed is the longest run.** The next so many characters all satisfy a predicate just if
the cursor is moved over all of them. The predicate may hold of the NUL that is shown at the end. -/
theorem At.run_iff (stands : cursor.At source) (p : Char → Bool) {n : Nat}
    (inside : cursor.offset + n ≤ source.size) :
    (∀ c ∈ source.slice cursor.offset n, p c = true) ↔
      cursor.offset + n ≤ (cursor.advanceWhile p).offset := by
  have slice : source.slice cursor.offset n = cursor.rest.take n := by
    rw [Source.slice, ← stands.rest]
  rw [slice]
  constructor
  · intro run
    have total := stands.offset_add
    have passed : (cursor.advanceBy n).offset = cursor.offset + n := offset_advanceBy (by omega)
    -- from inside a run the same end of it is reached
    rw [← passed, ← advanceWhile_advanceBy run]
    exact offset_le_advanceWhile p
  · intro reached c member
    rw [offset_advanceWhile] at reached
    have shorter : n ≤ (cursor.rest.takeWhile p).length := Nat.le_of_add_le_add_left reached
    rw [← List.takeWhile_append_dropWhile (p := p) (l := cursor.rest),
      List.take_append_of_le_length shorter] at member
    exact List.all_eq_true.mp List.all_takeWhile c (List.mem_of_mem_take member)

/-! ## Moves -/

/-- What a source cursor can be told to do. -/
inductive Move where
  /-- To move over one character. -/
  | advance
  /-- To move over the longest run of characters that satisfy a predicate. -/
  | advanceWhile (p : Char → Bool)

/-- Make a move. -/
def move (cursor : SourceCursor) : Move → SourceCursor
  | .advance => cursor.advance
  | .advanceWhile p => cursor.advanceWhile p

/-- Make moves, one after the other. -/
def moveAll (cursor : SourceCursor) (moves : List Move) : SourceCursor :=
  moves.foldl move cursor

/-- **One move** is over a number of the characters that are left. -/
theorem exists_advanceBy (cursor : SourceCursor) (m : Move) :
    ∃ n ≤ cursor.rest.length, cursor.move m = cursor.advanceBy n := by
  cases m with
  | advance =>
      cases left : cursor.rest with
      | nil => exact ⟨0, Nat.le_refl _, advance_of_nil left⟩
      | cons c after => exact ⟨1, Nat.le_add_left _ _, rfl⟩
  | advanceWhile p => exact ⟨_, (List.takeWhile_prefix p).length_le, rfl⟩

theorem At.move (stands : cursor.At source) (m : Move) : (cursor.move m).At source := by
  obtain ⟨n, -, moved⟩ := cursor.exists_advanceBy m
  rw [moved]
  exact stands.advanceBy n

theorem offset_le_move (m : Move) : cursor.offset ≤ (cursor.move m).offset := by
  obtain ⟨n, enough, moved⟩ := cursor.exists_advanceBy m
  rw [moved, offset_advanceBy enough]
  exact Nat.le_add_right _ _

/-- At the end no move changes anything. -/
theorem move_of_isAtEnd (ended : cursor.isAtEnd = true) (m : Move) : cursor.move m = cursor := by
  obtain ⟨n, enough, moved⟩ := cursor.exists_advanceBy m
  rw [isAtEnd, List.isEmpty_iff] at ended
  obtain rfl : n = 0 := by
    rw [ended] at enough
    exact Nat.le_zero.mp enough
  exact moved

/-- **Any number of moves** leaves a cursor in its text. -/
theorem At.moveAll (stands : cursor.At source) (moves : List Move) :
    (cursor.moveAll moves).At source := by
  induction moves generalizing cursor with
  | nil => exact stands
  | cons m moves ih => exact ih (stands.move m)

theorem offset_le_moveAll (moves : List Move) : cursor.offset ≤ (cursor.moveAll moves).offset := by
  induction moves generalizing cursor with
  | nil => exact Nat.le_refl _
  | cons m moves ih => exact Nat.le_trans (offset_le_move m) ih

end SourceCursor

/-- **Whatever the moves, a cursor shows what stands at its offset.** It shows the character there or,
just at the end, NUL, and the line and column that the characters before it give, which words of 32
bits can count. More moves lead no further back. Over one character the offset grows by one, and over a
run by the length of the longest one. At the end no move changes anything. -/
theorem source_cursor_moves (source : Source) (short : source.size < UInt32.size - 1)
    (moves : List SourceCursor.Move) :
    let cursor := (SourceCursor.start source).moveAll moves
    cursor.Shows source ∧
    (∀ more, cursor.offset ≤ (cursor.moveAll more).offset) ∧
    (cursor.isAtEnd = false → cursor.advance.offset = cursor.offset + 1) ∧
    (∀ p n, cursor.offset + n ≤ source.size →
      ((∀ c ∈ source.slice cursor.offset n, p c = true) ↔
        cursor.offset + n ≤ (cursor.advanceWhile p).offset)) ∧
    (cursor.isAtEnd = true → ∀ m, cursor.move m = cursor) := by
  intro cursor
  have stands : cursor.At source := (SourceCursor.at_start source).moveAll moves
  refine ⟨stands.shows short, fun more => SourceCursor.offset_le_moveAll more, ?_,
    fun p n inside => stands.run_iff p inside, SourceCursor.move_of_isAtEnd⟩
  intro more
  obtain ⟨c, after, left⟩ := List.exists_cons_of_ne_nil (List.isEmpty_eq_false_iff.mp more)
  exact SourceCursor.offset_advance left

/-- Behind a line end stand two NULs, and the run of them goes to the end of the text. -/
theorem source_cursor_moves_nul :
    let source := Source.ofString "a\n\x00\x00"
    let cursor := (SourceCursor.start source).moveAll [.advance, .advanceWhile (· = '\n')]
    source.size < UInt32.size - 1 ∧ cursor.offset = 2 ∧ cursor.Shows source ∧
      cursor.current = '\x00' ∧ cursor.isAtEnd = false ∧ cursor.position = ⟨2, 1⟩ ∧
      source.size ≤ (cursor.advanceWhile (· = '\x00')).offset := by
  intro source cursor
  have short : source.size < UInt32.size - 1 := by decide
  obtain ⟨shown, -, -, longest, -⟩ :=
    source_cursor_moves source short [.advance, .advanceWhile (· = '\n')]
  have run : (source.slice cursor.offset 2).all (· = '\x00') = true := by decide
  exact ⟨short, by decide, shown, by decide, by decide, by decide,
    (longest (· = '\x00') 2 (by decide)).mp (List.all_eq_true.mp run)⟩

end MiniJ
