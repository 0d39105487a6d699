import MiniJ.Proofs.Scanning.Clearing
import MiniJ.Proofs.Scanning.Track

/-!
# Comments and stray characters are blanks

A text is scanned as if its comments and its stray characters were spaces: with each of their
characters replaced by a space, line ends apart, it gives the same tokens at the same positions. It
gives the same faults, too, but for those about what was replaced: the stray characters themselves,
a comment that is never closed, and the fault of an integer that stands just before a stray letter.

The main statement is `lex_blanked`; what is a comment and what is stray is read off a tiling of the
text. A tiling is a track for a cursor, and by the pieces of a track one reads off what becomes of
the text behind the cursor (`Scanner.Track.clears`).
-/

set_option autoImplicit false

namespace MiniJ

/-! ## Blanked texts -/

/-- The characters of a piece, blanked out if the scanner skips them. -/
def Piece.blanked (source : Source) (piece : Piece) : List Char :=
  let text := source.slice piece.offset piece.length
  match piece.content with
  | .comment | .stray => text.map blankOut
  | .blanks | .token _ => text

/-- The positions of the stray characters among the pieces of a text. -/
def strayPieces (source : Source) (pieces : List Piece) : List Position :=
  (pieces.filter fun piece => piece.content = .stray).map fun piece =>
    source.positionAt piece.offset

theorem strayPieces_cons (source : Source) (piece : Piece) (pieces : List Piece) :
    strayPieces source (piece :: pieces) =
      strayPieces source [piece] ++ strayPieces source pieces := by
  rw [strayPieces, ← List.singleton_append, List.filter_append, List.map_append]
  rfl

/-- The characters from where scanning stopped, blanked out if a comment is never closed. -/
def Source.blankedTail (source : Source) (faults : List LexicalFault) (stop : Nat) : List Char :=
  let text := source.chars.drop stop
  if faults.any fun fault => fault.error = .unterminatedComment then text.map blankOut else text

/-- A tiled text with its comments and its stray characters blanked out. -/
def Source.blanked (source : Source) (faults : List LexicalFault) (pieces : List Piece)
    (stop : Nat) : Source :=
  ⟨pieces.flatMap (Piece.blanked source) ++ source.blankedTail faults stop⟩

namespace Scanner

open SourceCursor

variable {dialect : Dialect} {source : Source} {cursor : SourceCursor} {all : List LexicalFault}

/-! ## The pieces of a text -/

section Pieces

variable {eot : Token} {stop : Nat} {piece : Piece} {pieces : List Piece}

/-- What the first piece of a track is to the text behind the cursor. -/
structure Track.GoesOn (dialect : Dialect) (source : Source) (all : List LexicalFault)
    (eot : Token) (stop : Nat) (piece : Piece) (pieces : List Piece) (cursor : SourceCursor) :
    Prop where
  track : Track dialect source all eot stop pieces (cursor.advanceBy piece.length)
  /-- What becomes of the piece goes in front of what becomes of the text behind it. -/
  clears : ∀ text, Clears dialect (cursor.advanceBy piece.length) text →
    Clears dialect cursor (piece.blanked source ++ text)
  /-- A stray character is reported for it only if it is one. -/
  strays : strayPositions (lexFrom dialect cursor).faults =
    strayPieces source [piece] ++
      strayPositions (lexFrom dialect (cursor.advanceBy piece.length)).faults

section Contents

variable {offset length : Nat}

theorem Track.goesOn_blanks
    (track : Track dialect source all eot stop (⟨offset, length, .blanks⟩ :: pieces) cursor) :
    GoesOn dialect source all eot stop ⟨offset, length, .blanks⟩ pieces cursor := by
  have blanks := track.front_blanks
  have slice : source.slice offset length = cursor.rest.take length := track.slice_eq
  refine ⟨track.past_blanks, fun text behind => ?_, ?_⟩
  · change Clears dialect cursor (source.slice offset length ++ text)
    rw [slice]
    exact .blanks blanks behind
  · rw [lexFrom_advanceBy blanks]
    rfl

theorem Track.goesOn_comment
    (track : Track dialect source all eot stop (⟨offset, length, .comment⟩ :: pieces) cursor) :
    GoesOn dialect source all eot stop ⟨offset, length, .comment⟩ pieces cursor := by
  obtain ⟨visible, found⟩ := track.front_comment
  have slice : source.slice offset length = cursor.rest.take length := track.slice_eq
  refine ⟨track.past_comment, fun text behind => ?_, ?_⟩
  · change Clears dialect cursor ((source.slice offset length).map blankOut ++ text)
    rw [slice]
    exact .comment visible found behind
  · rw [lexFrom_at_comment visible found]
    rfl

theorem Track.goesOn_stray
    (track : Track dialect source all eot stop (⟨offset, length, .stray⟩ :: pieces) cursor) :
    GoesOn dialect source all eot stop ⟨offset, length, .stray⟩ pieces cursor := by
  obtain ⟨rfl, c, single, visible, found⟩ := track.front_stray
  have starts : offset = cursor.offset := track.row.1
  refine ⟨track.past_stray, fun text behind => ?_, ?_⟩
  · change Clears dialect cursor ((source.slice offset 1).map blankOut ++ text)
    rw [single]
    exact .stray visible found behind
  · rw [lexFrom_at_stray visible found, track.stands.position, ← starts]
    rfl

theorem Track.goesOn_token {token : Token}
    (track : Track dialect source all eot stop (⟨offset, length, .token token⟩ :: pieces) cursor) :
    GoesOn dialect source all eot stop ⟨offset, length, .token token⟩ pieces cursor := by
  obtain ⟨visible, -, error, found⟩ := track.front_token
  have slice : source.slice offset length = cursor.rest.take length := track.slice_eq
  refine ⟨track.past_token, fun text behind => ?_, ?_⟩
  · change Clears dialect cursor (source.slice offset length ++ text)
    rw [slice]
    exact .lexeme visible found behind
  · have none := strayPositions_eq_nil fun fault => code_of_mem_lexemeFaults found
    rw [lexFrom_at_lexeme visible found, Lexed.prepend, strayPositions_append, none]
    rfl

end Contents

/-- The one fault that ends the input is the comment that is never closed, if there is one. -/
theorem comment_of_only {cut : LexicalFault}
    (only : all.filter (fun fault => fault.error.endsInput) = [cut]) :
    (all.any fun fault => fault.error = .unterminatedComment) = true ↔
      cut.error = .unterminatedComment := by
  rw [List.any_eq_true]
  constructor
  · rintro ⟨fault, member, comment⟩
    rw [decide_eq_true_eq] at comment
    have ends : fault ∈ all.filter fun fault => fault.error.endsInput := by
      apply List.mem_filter.mpr
      rw [comment]
      exact ⟨member, rfl⟩
    rw [only, List.mem_singleton] at ends
    rw [← ends, comment]
  · intro comment
    have member : cut ∈ all.filter fun fault => fault.error.endsInput := by
      rw [only]
      exact List.mem_singleton_self cut
    exact ⟨cut, (List.mem_filter.mp member).1, decide_eq_true comment⟩

/-- Where the pieces are over, the text is over or breaks off. -/
theorem Track.over_or_breakOff (track : Track dialect source all eot stop [] cursor) :
    (cursor.rest = [] ∧ source.blankedTail all stop = []) ∨
      ∃ length error, Visible cursor.rest ∧
        Front.of dialect cursor.rest = .breakOff length error ∧
        source.blankedTail all stop =
          if error = .unterminatedComment then cursor.rest.map blankOut else cursor.rest := by
  have starts : cursor.offset = stop := track.row
  have left : source.chars.drop stop = cursor.rest := by rw [track.stands.rest, starts]
  rw [Source.blankedTail, left]
  rcases track.over_or_cutsOff with isOver | ⟨cut, only, cutsOff⟩
  · refine .inl ⟨isOver, ?_⟩
    rw [isOver]
    exact ite_self _
  · obtain ⟨length, found⟩ := Front.of_cutsOff cutsOff
    refine .inr ⟨length, cut.error, visible_of_cutsOff cutsOff, found, ?_⟩
    simp only [comment_of_only only]

theorem Track.goesOn (track : Track dialect source all eot stop (piece :: pieces) cursor) :
    GoesOn dialect source all eot stop piece pieces cursor := by
  obtain ⟨offset, length, content⟩ := piece
  cases content with
  | blanks => exact track.goesOn_blanks
  | comment => exact track.goesOn_comment
  | stray => exact track.goesOn_stray
  | token token => exact track.goesOn_token

/-- **What becomes of a text is what becomes of its pieces.** -/
theorem Track.clears (track : Track dialect source all eot stop pieces cursor) :
    Clears dialect cursor
      (pieces.flatMap (Piece.blanked source) ++ source.blankedTail all stop) := by
  induction pieces generalizing cursor with
  | nil =>
      rw [List.flatMap_nil, List.nil_append]
      rcases track.over_or_breakOff with ⟨isOver, none⟩ | ⟨length, error, visible, found, tail⟩
      · rw [none]
        exact .finish isOver
      · rw [tail]
        exact .breakOff visible found
  | cons piece pieces ih =>
      rw [List.flatMap_cons, List.append_assoc]
      exact track.goesOn.clears _ (ih track.goesOn.track)

/-- **The stray characters that are reported are the stray pieces.** -/
theorem Track.strays (track : Track dialect source all eot stop pieces cursor) :
    strayPositions (lexFrom dialect cursor).faults = strayPieces source pieces := by
  induction pieces generalizing cursor with
  | nil =>
      rcases track.over_or_breakOff with ⟨isOver, -⟩ | ⟨length, error, visible, found, -⟩
      · rw [lexFrom_at_end isOver]
        rfl
      · obtain ⟨cut, -⟩ := found ▸ Front.of_describes dialect _
        rw [← visible.stays] at found
        rw [lexFrom_of_breakOff found]
        apply strayPositions_eq_nil
        intro fault member
        obtain rfl := List.mem_singleton.mp member
        exact cut.code_ne_invalidCharacter
  | cons piece pieces ih =>
      rw [track.goesOn.strays, ih track.goesOn.track, ← strayPieces_cons]

end Pieces

end Scanner

/-- **Comments and stray characters act as blanks.** Every text is tiled, and however it is tiled,
its stray pieces are the stray characters that are reported. With spaces for the characters of its
comments and for its stray characters the text gives the same tokens. It gives the same faults in
the same order, without those about stray characters and about a comment that is never closed, and
without those about an integer that stand where a stray character does. -/
theorem lex_blanked (dialect : Dialect) (source : Source) :
    (∃ pieces stop, Tiling dialect source (lex dialect source) pieces stop) ∧
      ∀ pieces stop, Tiling dialect source (lex dialect source) pieces stop →
        strayPieces source pieces = strayPositions (lex dialect source).faults ∧
          (lex dialect (source.blanked (lex dialect source).faults pieces stop)).tokens =
            (lex dialect source).tokens ∧
          (lex dialect (source.blanked (lex dialect source).faults pieces stop)).faults =
            (lex dialect source).faults.filter
              (LexicalFault.outlasts (lex dialect source).faults) := by
  constructor
  · exact exists_tiling dialect source
  · intro pieces stop tiling
    obtain ⟨eot, track⟩ := tiling.track
    have same : lex dialect (source.blanked (lex dialect source).faults pieces stop) =
        (lex dialect source).outlasting (lex dialect source).faults := by
      rw [lex_eq_lexFrom]
      exact track.clears.lexFrom_again track.stands track.recalls rfl rfl
    rw [same]
    exact ⟨track.strays.symm, rfl, rfl⟩

/-- An integer before a stray underscore, a stray character and a comment that is never closed. -/
theorem lex_blanked_underscore :
    ∃ pieces stop,
      Tiling .mini (.ofString "5_ # x /* y") (lex .mini (.ofString "5_ # x /* y")) pieces stop ∧
        strayPieces (.ofString "5_ # x /* y") pieces =
          strayPositions (lex .mini (.ofString "5_ # x /* y")).faults ∧
        (lex .mini ((Source.ofString "5_ # x /* y").blanked
            (lex .mini (.ofString "5_ # x /* y")).faults pieces stop)).tokens =
          (lex .mini (.ofString "5_ # x /* y")).tokens ∧
        (lex .mini ((Source.ofString "5_ # x /* y").blanked
            (lex .mini (.ofString "5_ # x /* y")).faults pieces stop)).faults =
          (lex .mini (.ofString "5_ # x /* y")).faults.filter
            (LexicalFault.outlasts (lex .mini (.ofString "5_ # x /* y")).faults) := by
  obtain ⟨⟨pieces, stop, tiling⟩, same⟩ := lex_blanked .mini (.ofString "5_ # x /* y")
  exact ⟨pieces, stop, tiling, same pieces stop tiling⟩

end MiniJ
