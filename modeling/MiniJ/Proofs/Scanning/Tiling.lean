import MiniJ.Proofs.Scanning.Front
import MiniJ.Proofs.Scanning.Offset
import MiniJ.Proofs.Scanning.Stream

/-!
# Tokens tile their text

The scanner cuts a text into pieces without gaps and without overlaps: blanks, comments, stray
characters that are reported, and tokens. `Tiling` states this for a scanned text, with the one
place where a text may be left before its end: a comment or a string that is never closed, or two
dots that no third one follows.

The main statement is `lex_tiles`. It is proved scan by scan: a scan puts some pieces in front of
those of the scans behind it (`scanFrom_covers`), and the cursor says where each piece stands.
-/

set_option autoImplicit false

namespace MiniJ

/-! ## Pieces of a text -/

/-- What a piece of a text is to the scanner. -/
inductive Content where
  | blanks
  | comment
  /-- One character that begins nothing and is reported. -/
  | stray
  | token (token : Token)
  deriving DecidableEq

/-- A part of a text, given by offset and length. -/
structure Piece where
  offset : Nat
  length : Nat
  content : Content
  deriving DecidableEq

namespace Piece

/-- The token that a piece gives, if any. -/
def token? (piece : Piece) : Option Token :=
  match piece.content with
  | .token token => some token
  | _ => none

/-- That a piece is what it says it is, when these faults were reported for the text. -/
def Fits (source : Source) (faults : List LexicalFault) (piece : Piece) : Prop :=
  match piece.content with
  | .blanks => ∀ c ∈ source.slice piece.offset piece.length, Text.isBlank c = true
  | .comment =>
    IsLineComment (source.slice piece.offset piece.length)
        (source.chars.drop (piece.offset + piece.length)) ∨
      IsBlockComment (source.slice piece.offset piece.length)
  | .stray =>
    ∃ c, source.slice piece.offset piece.length = [c] ∧
      ⟨.invalidCharacter c, source.positionAt piece.offset⟩ ∈ faults
  | .token token =>
    token.text ≠ "" ∧ token.text.toList = source.slice piece.offset piece.length ∧
      token.position = source.positionAt piece.offset ∧ token.kind ≠ .eot

theorem Fits.mono {source : Source} {faults more : List LexicalFault} {piece : Piece}
    (fits : piece.Fits source faults) (included : ∀ fault ∈ faults, fault ∈ more) :
    piece.Fits source more := by
  obtain ⟨offset, length, content⟩ := piece
  cases content with
  | stray =>
      obtain ⟨c, same, reported⟩ := fits
      exact ⟨c, same, included _ reported⟩
  | _ => exact fits

end Piece

/-- That pieces follow each other without gap and overlap from one offset to another. -/
def Contiguous (first : Nat) (pieces : List Piece) (stop : Nat) : Prop :=
  match pieces with
  | [] => first = stop
  | piece :: pieces =>
    piece.offset = first ∧ 0 < piece.length ∧ Contiguous (first + piece.length) pieces stop

theorem Contiguous.first_le_offset {first stop : Nat} {pieces : List Piece}
    (row : Contiguous first pieces stop) : ∀ piece ∈ pieces, first ≤ piece.offset := by
  induction pieces generalizing first with
  | nil => simp
  | cons head pieces ih =>
      obtain ⟨starts, -, behind⟩ := row
      intro piece member
      rcases List.mem_cons.mp member with rfl | later
      · exact Nat.le_of_eq starts.symm
      · exact Nat.le_of_add_right_le (ih behind piece later)

theorem Contiguous.first_le_stop {first stop : Nat} {pieces : List Piece}
    (row : Contiguous first pieces stop) : first ≤ stop := by
  induction pieces generalizing first with
  | nil => exact Nat.le_of_eq row
  | cons piece pieces ih => exact Nat.le_of_add_right_le (ih row.2.2)

/-- Pieces without overlaps are ordered by their offsets. -/
theorem Contiguous.ordered {first stop : Nat} {pieces : List Piece}
    (row : Contiguous first pieces stop) :
    pieces.Pairwise fun piece later => piece.offset + piece.length ≤ later.offset := by
  induction pieces generalizing first with
  | nil => exact .nil
  | cons piece pieces ih =>
      obtain ⟨starts, -, behind⟩ := row
      refine .cons ?_ (ih behind)
      intro later member
      rw [starts]
      exact behind.first_le_offset later member

/-- None of them is empty or goes beyond the last offset. -/
theorem Contiguous.within {first stop : Nat} {pieces : List Piece}
    (row : Contiguous first pieces stop) :
    ∀ piece ∈ pieces, 0 < piece.length ∧ piece.offset + piece.length ≤ stop := by
  induction pieces generalizing first with
  | nil => simp
  | cons head pieces ih =>
      obtain ⟨starts, positive, behind⟩ := row
      intro piece member
      rcases List.mem_cons.mp member with rfl | later
      · rw [starts]
        exact ⟨positive, behind.first_le_stop⟩
      · exact ih behind piece later

/-- Where the token for the end stands when scanning stopped at an offset: with no fault that ends
the input the whole text was scanned, and otherwise the only one names what cut the rest off. -/
def EndsAt (dialect : Dialect) (source : Source) (faults : List LexicalFault) (stop : Nat)
    (eot : Token) : Prop :=
  match faults.filter fun fault => fault.error.endsInput with
  | [] => stop = source.size ∧ eot.position = source.positionAt source.size
  | [cut] =>
    cut.position = source.positionAt stop ∧
      CutsOff dialect cut.error (source.chars.drop stop) ∧
      eot.position =
        source.positionAt (if cut.error = .doubleDot then stop + 2 else source.size)
  | _ => False

/-- That pieces cover a text from one offset to another, where scanning stopped. -/
structure Covers (dialect : Dialect) (source : Source) (words : List Token)
    (faults : List LexicalFault) (eot : Token) (first : Nat) (pieces : List Piece) (stop : Nat) :
    Prop where
  contiguous : Contiguous first pieces stop
  inside : stop ≤ source.size
  fits : ∀ piece ∈ pieces, piece.Fits source faults
  words_eq : words = pieces.filterMap Piece.token?
  kind_eot : eot.kind = .eot
  ending : EndsAt dialect source faults stop eot

/-- That pieces tile a scanned text up to an offset. -/
structure Tiling (dialect : Dialect) (source : Source) (lexed : Lexed) (pieces : List Piece)
    (stop : Nat) : Prop where
  /-- There are no gaps. -/
  contiguous : Contiguous 0 pieces stop
  inside : stop ≤ source.size
  /-- Each piece is what it says it is. -/
  fits : ∀ piece ∈ pieces, piece.Fits source lexed.faults
  /-- There are no overlaps, and the pieces stand in the order of the text. -/
  ordered : pieces.Pairwise fun piece later => piece.offset + piece.length ≤ later.offset
  /-- The tokens are those of the pieces and the one for the end. -/
  tokens : ∃ eot, lexed.tokens = pieces.filterMap Piece.token? ++ [eot] ∧ eot.kind = .eot ∧
    EndsAt dialect source lexed.faults stop eot

section Scans

variable {dialect : Dialect} {source : Source} {words : List Token}
  {faults own : List LexicalFault} {eot : Token} {first stop : Nat} {pieces : List Piece}

theorem EndsAt.prepend (quiet : ∀ fault ∈ own, fault.error.endsInput = false)
    (ending : EndsAt dialect source faults stop eot) :
    EndsAt dialect source (own ++ faults) stop eot := by
  have silent : own.filter (fun fault => fault.error.endsInput) = [] := by
    rw [List.filter_eq_nil_iff]
    intro fault member
    simp [quiet fault member]
  rw [EndsAt] at ending ⊢
  rw [List.filter_append, silent, List.nil_append]
  exact ending

/-- A piece goes in front of others, with its own faults and its token. -/
theorem Covers.cons {piece : Piece} (starts : piece.offset = first) (positive : 0 < piece.length)
    (fits : piece.Fits source own) (quiet : ∀ fault ∈ own, fault.error.endsInput = false)
    (covers : Covers dialect source words faults eot (first + piece.length) pieces stop) :
    Covers dialect source (piece.token?.toList ++ words) (own ++ faults) eot first
      (piece :: pieces) stop := by
  refine ⟨⟨starts, positive, covers.contiguous⟩, covers.inside, ?_, ?_, covers.kind_eot,
    covers.ending.prepend quiet⟩
  · intro other member
    rcases List.mem_cons.mp member with rfl | later
    · exact fits.mono fun _ => List.mem_append_left faults
    · exact (covers.fits other later).mono fun _ => List.mem_append_right own
  · rw [covers.words_eq, List.filterMap_cons]
    cases piece.token? <;> rfl

/-- That some pieces cover a text from an offset on. -/
def Covered (dialect : Dialect) (source : Source) (words : List Token)
    (faults : List LexicalFault) (eot : Token) (first : Nat) : Prop :=
  ∃ pieces stop, Covers dialect source words faults eot first pieces stop

theorem Covered.cons (piece : Piece) (starts : piece.offset = first) (positive : 0 < piece.length)
    (fits : piece.Fits source own) (quiet : ∀ fault ∈ own, fault.error.endsInput = false)
    (covered : Covered dialect source words faults eot (first + piece.length)) :
    Covered dialect source (piece.token?.toList ++ words) (own ++ faults) eot first := by
  obtain ⟨pieces, stop, covers⟩ := covered
  exact ⟨piece :: pieces, stop, covers.cons starts positive fits quiet⟩

/-- Blanks in front are a piece, unless there are none. -/
theorem Covered.blanks {cursor : SourceCursor} (stands : cursor.At source)
    (covered : Covered dialect source words faults eot
      (cursor.advanceWhile Text.isBlank).offset) :
    Covered dialect source words faults eot cursor.offset := by
  rw [SourceCursor.offset_advanceWhile] at covered
  cases count : (cursor.rest.takeWhile Text.isBlank).length with
  | zero =>
      rw [count] at covered
      exact covered
  | succ n =>
      -- the longest run of blanks is what the cursor skips
      have run : source.slice cursor.offset (n + 1) = cursor.rest.takeWhile Text.isBlank := by
        rw [Source.slice, ← stands.rest, ← count]
        exact (List.prefix_iff_eq_take.mp (List.takeWhile_prefix _)).symm
      have blanks : Piece.Fits source [] ⟨cursor.offset, n + 1, .blanks⟩ := by
        intro c member
        rw [run] at member
        exact List.all_eq_true.mp List.all_takeWhile c member
      exact Covered.cons _ rfl (Nat.succ_pos n) blanks (by simp) (by rwa [count] at covered)

/-! ## One scan -/

open Scanner SourceCursor

/-- What the front of a text says where a cursor stands. -/
theorem front_describes {cursor : SourceCursor} {front : Front} (stands : cursor.At source)
    (found : Front.of dialect cursor.rest = front) :
    front.Describes dialect (source.chars.drop cursor.offset) := by
  rw [← found, stands.rest]
  exact Front.of_describes dialect _

/-- At the end of the text the pieces are complete. -/
theorem covered_end {cursor : SourceCursor} (stands : cursor.At source)
    (found : Front.of dialect cursor.rest = .finish) :
    Covered dialect source [] [] (.endAt cursor.position) cursor.offset := by
  have isOver := front_describes stands found
  have last : cursor.offset = source.size :=
    Nat.le_antisymm stands.offset (List.drop_eq_nil_iff.mp isOver)
  refine ⟨[], cursor.offset, rfl, stands.offset, by simp, rfl, rfl, last, ?_⟩
  change cursor.position = _
  rw [← last]
  exact stands.position

/-- A comment goes in front of the pieces behind it. -/
theorem covered_comment {cursor : SourceCursor} {length : Nat} {words : List Token}
    {faults : List LexicalFault} {eot : Token} (stands : cursor.At source)
    (found : Front.of dialect cursor.rest = .comment length)
    (covered : Covered dialect source words faults eot (cursor.advanceBy length).offset) :
    Covered dialect source words faults eot cursor.offset := by
  obtain ⟨short, whole⟩ := front_describes stands found
  have positive := Front.length_pos_of_eq found (by simp)
  have fits : length ≤ cursor.rest.length := by rwa [stands.rest]
  have comment : Piece.Fits source [] ⟨cursor.offset, length, .comment⟩ := by
    rw [Piece.Fits, Source.slice]
    rwa [List.drop_drop] at whole
  rw [offset_advanceBy fits] at covered
  exact .cons _ rfl positive comment (by simp) covered

/-- A stray character goes in front of the pieces behind it, with its report. -/
theorem covered_stray {cursor : SourceCursor} {c : Char} {words : List Token}
    {faults : List LexicalFault} {eot : Token} (stands : cursor.At source)
    (found : Front.of dialect cursor.rest = .stray c)
    (covered : Covered dialect source words faults eot cursor.advance.offset) :
    Covered dialect source words (⟨.invalidCharacter c, cursor.position⟩ :: faults) eot
      cursor.offset := by
  obtain ⟨after, left⟩ := front_describes stands found
  have stray : Piece.Fits source [⟨.invalidCharacter c, cursor.position⟩]
      ⟨cursor.offset, 1, .stray⟩ := by
    refine ⟨c, by rw [Source.slice, left]; rfl, ?_⟩
    rw [stands.position]
    exact List.mem_singleton_self _
  rw [offset_advance (stands.rest.trans left)] at covered
  exact .cons _ rfl Nat.one_pos stray (by simp [LexicalError.endsInput]) covered

/-- A token goes in front of the pieces behind it, with the reports inside it. -/
theorem covered_token {cursor : SourceCursor} {kind : TokenKind} {length : Nat}
    {error : Option LexicalError} {words : List Token} {faults : List LexicalFault} {eot : Token}
    (stands : cursor.At source) (found : Front.of dialect cursor.rest = .lexeme kind length error)
    (covered : Covered dialect source words faults eot (cursor.advanceBy length).offset) :
    Covered dialect source
      (⟨kind, String.ofList (cursor.rest.take length), cursor.position⟩ :: words)
      (error.toList.map (fun error =>
        ⟨error, faultPosition error cursor (cursor.advanceBy length)⟩) ++ faults) eot
      cursor.offset := by
  obtain ⟨positive, short, present, -, quiet⟩ := front_describes stands found
  have fits : length ≤ cursor.rest.length := by rwa [stands.rest]
  rw [offset_advanceBy fits] at covered
  refine .cons ⟨cursor.offset, length, .token _⟩ rfl positive
    ⟨?_, ?_, stands.position, present⟩ ?_ covered
  · intro empty
    have none := congrArg (fun text => text.toList.length) empty
    simp only [String.toList_ofList, List.length_take] at none
    rw [Nat.min_eq_left fits] at none
    exact absurd none (Nat.ne_of_gt positive)
  · rw [Source.slice, ← stands.rest, String.toList_ofList]
  · intro fault member
    obtain ⟨e, wrong, rfl⟩ := List.mem_map.mp member
    exact quiet e (Option.mem_toList.mp wrong)

/-- Where the input breaks off, one fault ends it. -/
theorem covered_breakOff {cursor : SourceCursor} {length : Nat} {error : LexicalError}
    (stands : cursor.At source)
    (found : Front.of dialect cursor.rest = .breakOff length error) :
    Covered dialect source [] [⟨error, cursor.position⟩]
      (.endAt (cursor.advanceBy length).position) cursor.offset := by
  obtain ⟨cut, count⟩ := front_describes stands found
  have total := stands.offset_add
  have size : (source.chars.drop cursor.offset).length = cursor.rest.length := by
    rw [stands.rest]
  -- two dots are there when they cut, and everything else cuts at the end
  have fits : length ≤ cursor.rest.length := by
    rw [count]
    split
    · rename_i dots
      rw [dots] at cut
      obtain ⟨-, after, two, -⟩ := cut
      rw [← size, two]
      simp
    · exact Nat.le_of_eq size
  refine ⟨[], cursor.offset, rfl, stands.offset, by simp, rfl, rfl, ?_⟩
  -- the one fault of this scan is the one that ends the input
  have only : [⟨error, cursor.position⟩].filter (fun fault : LexicalFault =>
      fault.error.endsInput) = [⟨error, cursor.position⟩] :=
    List.filter_cons_of_pos cut.endsInput
  rw [EndsAt, only]
  refine ⟨stands.position, cut, ?_⟩
  change (cursor.advanceBy length).position = _
  rw [(stands.advanceBy length).position, offset_advanceBy fits, count]
  split
  · rfl
  · rw [size, total]

/-- **One scan covers the text from its cursor on.** At the end the pieces are complete, and
otherwise they go in front of any pieces from the next cursor on. -/
theorem scanFrom_covers (dialect : Dialect) {cursor : SourceCursor} (stands : cursor.At source) :
    let scan := scanFrom dialect cursor
    (scan.token.kind = .eot → Covered dialect source [] scan.faults scan.token cursor.offset) ∧
    (scan.token.kind ≠ .eot →
      scan.next.dialect = dialect ∧ scan.next.finished = false ∧ scan.next.cursor.At source ∧
      ∀ {words faults eot}, Covered dialect source words faults eot scan.next.cursor.offset →
        Covered dialect source (scan.token :: words) (scan.faults ++ faults) eot
          cursor.offset) := by
  fun_induction scanFrom dialect cursor with
  | case1 cursor here found =>
      -- nothing is left behind the blanks
      have there : here.At source := stands.advanceWhile Text.isBlank
      exact ⟨fun _ => .blanks stands (covered_end there found), fun more => absurd rfl more⟩
  | case2 cursor here length found ih =>
      -- the rest of the scan goes on behind a comment
      have there : here.At source := stands.advanceWhile Text.isBlank
      obtain ⟨ends, goesOn⟩ := ih (there.advanceBy length)
      refine ⟨fun finished => .blanks stands (covered_comment there found (ends finished)),
        fun more => ?_⟩
      obtain ⟨same, open_, next, behind⟩ := goesOn more
      exact ⟨same, open_, next, fun covered =>
        .blanks stands (covered_comment there found (behind covered))⟩
  | case3 cursor here c found scan ih =>
      -- and behind a stray character
      have there : here.At source := stands.advanceWhile Text.isBlank
      obtain ⟨ends, goesOn⟩ := ih there.advance
      refine ⟨fun finished => .blanks stands (covered_stray there found (ends finished)),
        fun more => ?_⟩
      obtain ⟨same, open_, next, behind⟩ := goesOn more
      exact ⟨same, open_, next, fun covered =>
        .blanks stands (covered_stray there found (behind covered))⟩
  | case4 cursor here kind length error found behind =>
      -- a token is the last piece of the scan
      have there : here.At source := stands.advanceWhile Text.isBlank
      obtain ⟨-, -, present, -⟩ := front_describes there found
      exact ⟨fun finished => absurd finished present, fun _ => ⟨rfl, rfl, there.advanceBy length,
        fun covered => .blanks stands (covered_token there found covered)⟩⟩
  | case5 cursor here length error found behind =>
      -- the input breaks off
      have there : here.At source := stands.advanceWhile Text.isBlank
      exact ⟨fun _ => .blanks stands (covered_breakOff there found), fun more => absurd rfl more⟩

/-! ## The whole text -/

/-- The words, the faults and the end of a scanner cover the text from its cursor on. -/
theorem scanner_covers (scanner : Scanner) (stands : scanner.cursor.At source)
    (open_ : scanner.finished = false) (same : scanner.dialect = dialect) :
    Covered dialect source scanner.words (scanner.scans.flatMap Scan.faults) scanner.stop
      scanner.cursor.offset := by
  have asks (scanner : Scanner) (open_ : scanner.finished = false) :
      scanner.scan = scanFrom scanner.dialect scanner.cursor := by
    simp [Scanner.scan, open_]
  induction scanner using scans_induction with
  | finished scanner h =>
      have covers := (scanFrom_covers scanner.dialect stands).1
      rw [← asks scanner open_] at covers
      rw [words_of_end h, stop_of_end h, scans_of_end h, ← same]
      simpa using covers h
  | more scanner h ih =>
      have covers := (scanFrom_covers scanner.dialect stands).2
      rw [← asks scanner open_] at covers
      obtain ⟨next, later, there, behind⟩ := covers h
      rw [words_of_more h, stop_of_more h, scans_of_more h, List.flatMap_cons, ← same]
      rw [← same] at ih
      exact behind (ih there later next)

end Scans

/-- A word of a tiled text stands where its piece does. -/
theorem Tiling.position_of_piece {dialect : Dialect} {source : Source} {lexed : Lexed}
    {pieces : List Piece} {stop : Nat} (tiling : Tiling dialect source lexed pieces stop)
    {piece : Piece} {token : Token} (within : piece ∈ pieces) (gives : piece.token? = some token) :
    token.position = source.positionAt piece.offset := by
  have fits := tiling.fits piece within
  rw [Piece.token?] at gives
  split at gives
  · rename_i same content
    cases gives
    rw [Piece.Fits] at fits
    rw [content] at fits
    exact fits.2.2.1
  · cases gives

/-- The positions of a tiled text count no further than its characters. -/
theorem Tiling.positions_le {dialect : Dialect} {source : Source} {lexed : Lexed}
    {pieces : List Piece} {stop : Nat} (tiling : Tiling dialect source lexed pieces stop) :
    ∀ token ∈ lexed.tokens,
      token.position.line ≤ source.size + 1 ∧ token.position.column ≤ source.size + 1 := by
  intro token member
  obtain ⟨eot, all, -, ending⟩ := tiling.tokens
  rw [all, List.mem_append, List.mem_singleton] at member
  -- a word stands where its piece does, and the end where the text was left
  rcases member with word | rfl
  · obtain ⟨piece, within, gives⟩ := List.mem_filterMap.mp word
    rw [tiling.position_of_piece within gives]
    exact source.positionAt_le _
  · rw [EndsAt] at ending
    split at ending
    · rw [ending.2]
      exact source.positionAt_le _
    · rw [ending.2.2]
      exact source.positionAt_le _
    · exact ending.elim

/-- The end of a tiled text stands behind every piece. -/
theorem Tiling.before_end {dialect : Dialect} {source : Source} {lexed : Lexed}
    {pieces : List Piece} {stop : Nat} {eot : Token}
    (tiling : Tiling dialect source lexed pieces stop)
    (ending : EndsAt dialect source lexed.faults stop eot) {piece : Piece} (within : piece ∈ pieces) :
    (source.positionAt piece.offset).Before eot.position := by
  obtain ⟨positive, inside⟩ := tiling.contiguous.within piece within
  have total := tiling.inside
  rw [EndsAt] at ending
  split at ending
  · rw [ending.2]
    exact Source.positionAt_before (by omega) (Nat.le_refl _)
  · rename_i cut _
    obtain ⟨-, cuts, there⟩ := ending
    rw [there]
    split
    · -- the two dots that cut the rest off are characters of the text
      rename_i isDots
      rw [isDots] at cuts
      obtain ⟨-, after, dots, -⟩ := cuts
      have left := congrArg List.length dots
      rw [List.length_drop, List.length_cons, List.length_cons] at left
      exact Source.positionAt_before (by omega) (by rw [Source.size]; omega)
    · exact Source.positionAt_before (by omega) (Nat.le_refl _)
  · exact ending.elim

/-- **The tokens of a tiled text stand one behind the other.** -/
theorem Tiling.positions_ordered {dialect : Dialect} {source : Source} {lexed : Lexed}
    {pieces : List Piece} {stop : Nat} (tiling : Tiling dialect source lexed pieces stop) :
    lexed.tokens.Pairwise fun token later => token.position.Before later.position := by
  obtain ⟨eot, all, -, ending⟩ := tiling.tokens
  rw [all, List.pairwise_append]
  refine ⟨?_, List.pairwise_singleton _ _, ?_⟩
  · rw [List.pairwise_filterMap]
    refine tiling.ordered.imp_of_mem fun {piece later} member behind ordered token gives other
      follows => ?_
    rw [tiling.position_of_piece member gives, tiling.position_of_piece behind follows]
    obtain ⟨positive, -⟩ := tiling.contiguous.within piece member
    obtain ⟨some, inside⟩ := tiling.contiguous.within later behind
    have total := tiling.inside
    exact Source.positionAt_before (by omega) (by omega)
  · intro token word last isLast
    obtain ⟨piece, within, gives⟩ := List.mem_filterMap.mp word
    rw [List.mem_singleton.mp isLast, tiling.position_of_piece within gives]
    exact tiling.before_end ending within

/-- Every text is tiled. -/
theorem exists_tiling (dialect : Dialect) (source : Source) :
    ∃ pieces stop, Tiling dialect source (lex dialect source) pieces stop := by
  obtain ⟨pieces, stop, covers⟩ := scanner_covers (.start dialect source)
    (SourceCursor.at_start source) rfl rfl
  refine ⟨pieces, stop, covers.contiguous, covers.inside, covers.fits, covers.contiguous.ordered,
    (Scanner.start dialect source).stop, ?_, covers.kind_eot, covers.ending⟩
  rw [tokens_lex, words_lex, covers.words_eq]

/-- **The tokens of a text tile it.** Between and around them stand only blanks, comments and
characters reported as stray, up to the end of the text or to the one place that cuts the rest off,
and each token stands at the line and column of its first character. For a text that is not longer
than allowed, lines and columns fit into 32 bits. -/
theorem lex_tiles (dialect : Dialect) (source : Source) (short : source.size < UInt32.size - 1) :
    ∃ pieces stop, Tiling dialect source (lex dialect source) pieces stop ∧
      ∀ token ∈ (lex dialect source).tokens,
        token.position.line < UInt32.size ∧ token.position.column < UInt32.size := by
  obtain ⟨pieces, stop, tiling⟩ := exists_tiling dialect source
  refine ⟨pieces, stop, tiling, ?_⟩
  intro token member
  obtain ⟨line, column⟩ := tiling.positions_le token member
  rw [UInt32.size] at short ⊢
  omega

/-- A name, a stray character and two dots that cut off the rest. -/
theorem lex_tiles_cut_at_dots :
    (Source.ofString "x # ..y").size < UInt32.size - 1 ∧
      ∃ pieces stop, Tiling .extended (Source.ofString "x # ..y")
          (lex .extended (Source.ofString "x # ..y")) pieces stop ∧
        ∀ token ∈ (lex .extended (Source.ofString "x # ..y")).tokens,
          token.position.line < UInt32.size ∧ token.position.column < UInt32.size :=
  ⟨by decide, lex_tiles .extended (Source.ofString "x # ..y") (by decide)⟩

end MiniJ
