import MiniJ.Proofs.Scanning.Places
import MiniJ.Proofs.Scanning.Tiling

/-!
# Going through the pieces of a text

A tiling of a scanned text says what its pieces are. A track says it for the pieces that are left
behind a cursor (`Scanner.Track`), and keeps what scanning gives from the cursor on. The front that
the scanner finds where a piece begins is that piece: a comment (`Scanner.Track.front_comment`), a
stray character (`Scanner.Track.front_stray`) or a lexeme (`Scanner.Track.front_token`). Behind each
piece the track goes on, and where no piece is left the text is over or cut off
(`Scanner.Track.over_or_cutsOff`).
-/

set_option autoImplicit false

namespace MiniJ

namespace Scanner

open SourceCursor

variable {dialect : Dialect} {source : Source} {cursor : SourceCursor} {all : List LexicalFault}
  {eot : Token} {stop : Nat} {piece : Piece} {pieces : List Piece}

/-- That pieces tile what is left of a text behind a cursor, when scanning the whole text reported
all these faults and gave this end. -/
structure Track (dialect : Dialect) (source : Source) (all : List LexicalFault) (eot : Token)
    (stop : Nat) (pieces : List Piece) (cursor : SourceCursor) : Prop where
  stands : cursor.At source
  row : Contiguous cursor.offset pieces stop
  inside : stop ≤ source.size
  fits : ∀ piece ∈ pieces, piece.Fits source all
  tokens : (lexFrom dialect cursor).tokens = pieces.filterMap Piece.token? ++ [eot]
  recalls : Recalls dialect source all cursor
  ending : EndsAt dialect source all stop eot

/-- The first piece is what is in front of the cursor. -/
theorem Track.slice_eq (track : Track dialect source all eot stop (piece :: pieces) cursor) :
    source.slice piece.offset piece.length = cursor.rest.take piece.length := by
  rw [Source.slice, track.row.1, ← track.stands.rest]

theorem Track.length_le (track : Track dialect source all eot stop (piece :: pieces) cursor) :
    piece.length ≤ cursor.rest.length := by
  have order := track.row.2.2.first_le_stop
  have inside := track.inside
  have total := track.stands.offset_add
  omega

/-- The pieces behind the first tile what is left behind it. -/
theorem Track.next (track : Track dialect source all eot stop (piece :: pieces) cursor)
    (tokens : (lexFrom dialect cursor).tokens =
      piece.token?.toList ++ (lexFrom dialect (cursor.advanceBy piece.length)).tokens)
    (recalls : Recalls dialect source all (cursor.advanceBy piece.length)) :
    Track dialect source all eot stop pieces (cursor.advanceBy piece.length) where
  stands := track.stands.advanceBy _
  row := by
    rw [offset_advanceBy track.length_le]
    exact track.row.2.2
  inside := track.inside
  fits := fun other member => track.fits other (List.mem_cons_of_mem piece member)
  tokens := by
    have split := track.tokens
    rw [tokens, List.filterMap_cons] at split
    cases given : piece.token? with
    | none =>
        rw [given] at split
        exact split
    | some token =>
        rw [given] at split
        exact (List.cons.inj split).2
  recalls := recalls
  ending := track.ending

section Fronts

variable {offset length : Nat}

/-- A piece of blanks is a run of blanks in front of the cursor. -/
theorem Track.front_blanks
    (track : Track dialect source all eot stop (⟨offset, length, .blanks⟩ :: pieces) cursor) :
    ∀ c ∈ cursor.rest.take length, Text.isBlank c = true := by
  have blanks : ∀ c ∈ source.slice offset length, Text.isBlank c = true :=
    track.fits _ List.mem_cons_self
  have slice : source.slice offset length = cursor.rest.take length := track.slice_eq
  rwa [slice] at blanks

theorem Track.past_blanks
    (track : Track dialect source all eot stop (⟨offset, length, .blanks⟩ :: pieces) cursor) :
    Track dialect source all eot stop pieces (cursor.advanceBy length) := by
  have blanks := track.front_blanks
  apply track.next
  · exact congrArg Lexed.tokens (lexFrom_advanceBy blanks).symm
  · exact track.recalls.past_blanks track.stands blanks

/-- A piece that is a comment is the comment in front of the cursor. -/
theorem Track.front_comment
    (track : Track dialect source all eot stop (⟨offset, length, .comment⟩ :: pieces) cursor) :
    Visible cursor.rest ∧ Front.of dialect cursor.rest = .comment length := by
  have comment : IsLineComment (source.slice offset length)
      (source.chars.drop (offset + length)) ∨ IsBlockComment (source.slice offset length) :=
    track.fits _ List.mem_cons_self
  have slice : source.slice offset length = cursor.rest.take length := track.slice_eq
  have starts : offset = cursor.offset := track.row.1
  have after : source.chars.drop (offset + length) = cursor.rest.drop length := by
    rw [← List.drop_drop, track.stands.rest, starts]
  have found : Front.of dialect cursor.rest = .comment length := by
    have count : (cursor.rest.take length).length = length :=
      List.length_take_of_le track.length_le
    rw [slice, after] at comment
    rcases comment with line | block
    · have front := Front.of_isLineComment dialect line
      rwa [List.take_append_drop, count] at front
    · have front := Front.of_isBlockComment dialect block (cursor.rest.drop length)
      rwa [List.take_append_drop, count] at front
  refine ⟨?_, found⟩
  intro c head
  rw [head_of_head_take (head_of_comment found)] at head
  cases head
  decide

theorem Track.past_comment
    (track : Track dialect source all eot stop (⟨offset, length, .comment⟩ :: pieces) cursor) :
    Track dialect source all eot stop pieces (cursor.advanceBy length) := by
  obtain ⟨visible, found⟩ := track.front_comment
  apply track.next
  · exact congrArg Lexed.tokens (lexFrom_at_comment visible found)
  · exact track.recalls.past_comment track.stands visible found

/-- A piece that is stray is the one stray character in front of the cursor. -/
theorem Track.front_stray
    (track : Track dialect source all eot stop (⟨offset, length, .stray⟩ :: pieces) cursor) :
    length = 1 ∧ ∃ c, source.slice offset 1 = [c] ∧ Visible cursor.rest ∧
      Front.of dialect cursor.rest = .stray c := by
  obtain ⟨c, single, reported⟩ : ∃ c, source.slice offset length = [c] ∧
      (⟨.invalidCharacter c, source.positionAt offset⟩ : LexicalFault) ∈ all :=
    track.fits _ List.mem_cons_self
  have slice : source.slice offset length = cursor.rest.take length := track.slice_eq
  have starts : offset = cursor.offset := track.row.1
  rw [starts, ← track.stands.position] at reported
  obtain ⟨visible, d, found⟩ := track.recalls.stray_at_front track.stands reported rfl rfl
  obtain ⟨after, left⟩ := found ▸ Front.of_describes dialect _
  -- the piece is the one character in front
  have one : length = 1 := by
    have count := congrArg List.length (slice.symm.trans single)
    rwa [List.length_take_of_le track.length_le] at count
  have same : c = d := by
    rw [slice, one, left] at single
    exact (List.cons.inj single).1.symm
  subst one same
  exact ⟨rfl, c, single, visible, found⟩

theorem Track.past_stray
    (track : Track dialect source all eot stop (⟨offset, 1, .stray⟩ :: pieces) cursor) :
    Track dialect source all eot stop pieces (cursor.advanceBy 1) := by
  obtain ⟨-, c, -, visible, found⟩ := track.front_stray
  apply track.next
  · rw [lexFrom_at_stray visible found]
    rfl
  · exact track.recalls.past_stray track.stands visible found

/-- A piece that gives a token is the lexeme in front of the cursor. -/
theorem Track.front_token {token : Token}
    (track : Track dialect source all eot stop (⟨offset, length, .token token⟩ :: pieces) cursor) :
    Visible cursor.rest ∧ lexemeToken token.kind length cursor = token ∧
      ∃ error, Front.of dialect cursor.rest = .lexeme token.kind length error := by
  obtain ⟨-, text, position, present⟩ : token.text ≠ "" ∧
      token.text.toList = source.slice offset length ∧
        token.position = source.positionAt offset ∧ token.kind ≠ .eot :=
    track.fits _ List.mem_cons_self
  have slice : source.slice offset length = cursor.rest.take length := track.slice_eq
  have starts : offset = cursor.offset := track.row.1
  rw [starts, ← track.stands.position] at position
  have first : token ∈ (lexFrom dialect cursor).tokens := by
    rw [track.tokens]
    exact List.mem_cons_self
  obtain ⟨visible, n, error, found, spelled⟩ :=
    token_at_front track.stands first present position
  -- the piece is as long as the lexeme in front
  obtain ⟨-, fits, -⟩ := found ▸ Front.of_describes dialect _
  have same : n = length := by
    have count := congrArg List.length text
    rwa [spelled, String.toList_ofList, List.length_take_of_le fits, slice,
      List.length_take_of_le track.length_le] at count
  subst same
  refine ⟨visible, ?_, error, found⟩
  rw [lexemeToken, ← spelled, ← position]

theorem Track.past_token {token : Token}
    (track : Track dialect source all eot stop (⟨offset, length, .token token⟩ :: pieces) cursor) :
    Track dialect source all eot stop pieces (cursor.advanceBy length) := by
  obtain ⟨visible, own, error, found⟩ := track.front_token
  apply track.next
  · rw [lexFrom_at_lexeme visible found, own]
    rfl
  · exact track.recalls.past_lexeme track.stands visible found

end Fronts

/-- Behind its first piece a track goes on. -/
theorem Track.past (track : Track dialect source all eot stop (piece :: pieces) cursor) :
    Track dialect source all eot stop pieces (cursor.advanceBy piece.length) := by
  obtain ⟨offset, length, content⟩ := piece
  cases content with
  | blanks => exact track.past_blanks
  | comment => exact track.past_comment
  | stray =>
      obtain ⟨rfl, -⟩ := track.front_stray
      exact track.past_stray
  | token token => exact track.past_token

/-- Each stray piece is one character, and no blank. -/
theorem Track.strays_visible (track : Track dialect source all eot stop pieces cursor) :
    ∀ piece ∈ pieces, piece.content = .stray →
      ∃ c, source.slice piece.offset piece.length = [c] ∧ Text.isBlank c = false := by
  induction pieces generalizing cursor with
  | nil => simp
  | cons head pieces ih =>
      intro piece member stray
      rcases List.mem_cons.mp member with rfl | later
      · obtain ⟨offset, length, content⟩ := piece
        obtain rfl := stray
        obtain ⟨rfl, c, single, visible, found⟩ := track.front_stray
        obtain ⟨after, left⟩ := found ▸ Front.of_describes dialect _
        have slice : source.slice offset 1 = cursor.rest.take 1 := track.slice_eq
        rw [left] at slice visible
        exact ⟨_, slice, visible _ rfl⟩
      · exact ih track.past piece later stray

/-- Where no piece is left, the text is over, or it is cut off by the one fault that ends it. -/
theorem Track.over_or_cutsOff (track : Track dialect source all eot stop [] cursor) :
    cursor.rest = [] ∨ ∃ cut : LexicalFault,
      all.filter (fun fault => fault.error.endsInput) = [cut] ∧
        CutsOff dialect cut.error cursor.rest := by
  have starts : cursor.offset = stop := track.row
  have left : source.chars.drop stop = cursor.rest := by rw [track.stands.rest, starts]
  have ending := track.ending
  rw [EndsAt] at ending
  split at ending
  · refine .inl ?_
    rw [← left, ending.1]
    exact List.drop_length
  · rename_i cut only
    obtain ⟨-, cutsOff, -⟩ := ending
    rw [left] at cutsOff
    exact .inr ⟨cut, only, cutsOff⟩
  · exact ending.elim

end Scanner

/-- A tiling of a scanned text is a track from its first character on. -/
theorem Tiling.track {dialect : Dialect} {source : Source} {pieces : List Piece} {stop : Nat}
    (tiling : Tiling dialect source (lex dialect source) pieces stop) :
    ∃ eot, Scanner.Track dialect source (lex dialect source).faults eot stop pieces
      (.start source) := by
  obtain ⟨eot, tokens, -, ending⟩ := tiling.tokens
  refine ⟨eot, SourceCursor.at_start source, tiling.contiguous, tiling.inside, tiling.fits, tokens,
    ?_, ending⟩
  exact ⟨fun fault member => member, fun fault member stray => .inl member⟩

end MiniJ
