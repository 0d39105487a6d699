import MiniJ.Source.Cursor

/-!
# Offsets

Offset, remaining text and position of a cursor are three answers to the question where it stands.
`Source.positionAt` computes the position of an offset from the text alone: the line ends before it
and the characters since the last of them. `SourceCursor.At` says that the three answers agree, and
each way of moving a cursor keeps that so.
-/

set_option autoImplicit false

namespace MiniJ

namespace Position

/-- That a position stands strictly before another in the order of reading. -/
def Before (p q : Position) : Prop :=
  p.line < q.line ∨ (p.line = q.line ∧ p.column < q.column)

theorem before_after (p : Position) (c : Char) : p.Before (p.after c) := by
  rw [after]
  split
  · exact .inl (Nat.lt_succ_self _)
  · exact .inr ⟨rfl, Nat.lt_succ_self _⟩

theorem Before.trans {p q r : Position} (first : p.Before q) (second : q.Before r) :
    p.Before r := by
  simp only [Before] at first second ⊢
  omega

theorem Before.ne {p q : Position} (before : p.Before q) : p ≠ q := by
  rintro rfl
  simp only [Before] at before
  omega

end Position

namespace Source

/-- The characters of a part of a text. -/
def slice (source : Source) (offset length : Nat) : List Char :=
  (source.chars.drop offset).take length

/-- Line and column of the character at an offset, both counted from one: the line ends before it,
and the characters between it and the last of them. -/
def positionAt (source : Source) (offset : Nat) : Position :=
  let before := source.chars.take offset
  ⟨before.count '\n' + 1, (before.reverse.takeWhile (· ≠ '\n')).length + 1⟩

theorem positionAt_succ {source : Source} {offset : Nat} {c : Char} {after : List Char}
    (here : source.chars.drop offset = c :: after) :
    source.positionAt (offset + 1) = (source.positionAt offset).after c := by
  have present : source.chars[offset]? = some c := by
    rw [← List.head?_drop, here, List.head?_cons]
  have longer : source.chars.take (offset + 1) = source.chars.take offset ++ [c] := by
    rw [List.take_add_one, present, Option.toList_some]
  unfold positionAt Position.after
  dsimp only
  rw [longer, List.count_append, List.reverse_append]
  split
  · rename_i lineEnd
    subst lineEnd
    simp
  · rename_i inLine
    simp [inLine]

/-- Positions keep the order of offsets. -/
theorem positionAt_before {source : Source} {i j : Nat} (less : i < j) (inside : j ≤ source.size) :
    (source.positionAt i).Before (source.positionAt j) := by
  induction j with
  | zero => exact absurd less (Nat.not_lt_zero i)
  | succ j ih =>
      have here : source.chars.drop j = source.chars[j] :: source.chars.drop (j + 1) :=
        List.drop_eq_getElem_cons inside
      have next : (source.positionAt j).Before (source.positionAt (j + 1)) := by
        rw [positionAt_succ here]
        exact Position.before_after _ _
      rcases Nat.lt_or_eq_of_le (Nat.le_of_lt_succ less) with earlier | rfl
      · exact (ih earlier (Nat.le_of_succ_le inside)).trans next
      · exact next

/-- **No two places of a text have the same position.** -/
theorem positionAt_injective {source : Source} {i j : Nat} (first : i ≤ source.size)
    (second : j ≤ source.size) (same : source.positionAt i = source.positionAt j) : i = j := by
  rcases Nat.lt_trichotomy i j with less | equal | greater
  · exact absurd same (positionAt_before less second).ne
  · exact equal
  · exact absurd same.symm (positionAt_before greater first).ne

/-- A position counts no further than the characters before it. -/
theorem positionAt_le (source : Source) (offset : Nat) :
    (source.positionAt offset).line ≤ source.size + 1 ∧
      (source.positionAt offset).column ≤ source.size + 1 := by
  have short : (source.chars.take offset).length ≤ source.size := List.length_take_le' _ _
  have lines := List.count_le_length (a := '\n') (l := source.chars.take offset)
  have columns :=
    (List.takeWhile_prefix (· ≠ '\n') (l := (source.chars.take offset).reverse)).length_le
  rw [List.length_reverse] at columns
  exact ⟨by simp only [positionAt]; omega, by simp only [positionAt]; omega⟩

end Source

namespace SourceCursor

/-- That a cursor stands in a text: what is left, the offset and the position agree. -/
structure At (source : Source) (cursor : SourceCursor) : Prop where
  rest : cursor.rest = source.chars.drop cursor.offset
  offset : cursor.offset ≤ source.size
  position : cursor.position = source.positionAt cursor.offset

variable {source : Source} {cursor : SourceCursor}

theorem at_start (source : Source) : (start source).At source :=
  ⟨rfl, Nat.zero_le _, rfl⟩

/-- Offset and remaining text add up to the whole text. -/
theorem At.offset_add (stands : cursor.At source) :
    cursor.offset + cursor.rest.length = source.size := by
  have inside := stands.offset
  rw [Source.size] at inside ⊢
  rw [stands.rest, List.length_drop]
  omega

/-- Where no more is left, no less was read. -/
theorem At.offset_le {later : SourceCursor} (stands : cursor.At source) (there : later.At source)
    (less : later.rest.length ≤ cursor.rest.length) : cursor.offset ≤ later.offset := by
  have total := stands.offset_add
  have totalThere := there.offset_add
  omega

/-- Where less is left, more was read. -/
theorem At.offset_lt {later : SourceCursor} (stands : cursor.At source) (there : later.At source)
    (less : later.rest.length < cursor.rest.length) : cursor.offset < later.offset := by
  have total := stands.offset_add
  have totalThere := there.offset_add
  omega

theorem At.advance (stands : cursor.At source) : cursor.advance.At source := by
  rw [SourceCursor.advance]
  split
  · exact stands
  · rename_i c after left
    have here : source.chars.drop cursor.offset = c :: after := stands.rest.symm.trans left
    have total := stands.offset_add
    rw [left, List.length_cons] at total
    refine ⟨?_, by dsimp only; omega, ?_⟩
    · rw [← List.tail_drop, here, List.tail_cons]
    · rw [stands.position, Source.positionAt_succ here]

/-- Where nothing is left there is nothing to move over. -/
theorem advance_of_nil (left : cursor.rest = []) : cursor.advance = cursor := by
  rw [SourceCursor.advance, left]

theorem offset_advance {c : Char} {after : List Char} (left : cursor.rest = c :: after) :
    cursor.advance.offset = cursor.offset + 1 := by
  simp [SourceCursor.advance, left]

theorem At.advanceBy (stands : cursor.At source) (n : Nat) : (cursor.advanceBy n).At source := by
  induction n generalizing cursor with
  | zero => exact stands
  | succ n ih => exact ih stands.advance

/-- A cursor moves by the whole number as long as the text is not over. -/
theorem offset_advanceBy {n : Nat} (enough : n ≤ cursor.rest.length) :
    (cursor.advanceBy n).offset = cursor.offset + n := by
  induction n generalizing cursor with
  | zero => rfl
  | succ n ih =>
      cases left : cursor.rest with
      | nil =>
          rw [left] at enough
          exact absurd enough (Nat.not_succ_le_zero n)
      | cons c after =>
          rw [left, List.length_cons] at enough
          have fewer : n ≤ cursor.advance.rest.length := by
            rw [advance_rest, left]
            exact Nat.le_of_succ_le_succ enough
          rw [SourceCursor.advanceBy, ih fewer, offset_advance left]
          omega

/-- The position moves over the characters that the cursor moves over. -/
theorem position_advanceBy (n : Nat) (cursor : SourceCursor) :
    (cursor.advanceBy n).position = cursor.position.afterAll (cursor.rest.take n) := by
  induction n generalizing cursor with
  | zero => rfl
  | succ n ih =>
      rw [SourceCursor.advanceBy, ih]
      cases left : cursor.rest with
      | nil => rw [advance_of_nil left, left, List.take_nil, List.take_nil]
      | cons c after => simp [SourceCursor.advance, left]

/-- A cursor in front of no run stays. -/
theorem advanceWhile_of_visible {p : Char → Bool} (visible : ∀ c ∈ cursor.rest.head?, p c = false) :
    cursor.advanceWhile p = cursor := by
  have none : cursor.rest.takeWhile p = [] := by
    cases left : cursor.rest with
    | nil => rfl
    | cons c after =>
        rw [left] at visible
        exact List.takeWhile_cons_of_neg (by simp [visible c rfl])
  rw [SourceCursor.advanceWhile, none]
  rfl

/-- A cursor inside a run reaches the same end of it. -/
theorem advanceWhile_advanceBy {p : Char → Bool} {n : Nat}
    (run : ∀ c ∈ cursor.rest.take n, p c = true) :
    (cursor.advanceBy n).advanceWhile p = cursor.advanceWhile p := by
  induction n generalizing cursor with
  | zero => rfl
  | succ n ih =>
      cases left : cursor.rest with
      | nil =>
          rw [SourceCursor.advanceBy, advance_of_nil left]
          apply ih
          simp [left]
      | cons c after =>
          rw [left, List.take_succ_cons] at run
          have first : p c = true := run c List.mem_cons_self
          rw [SourceCursor.advanceBy, ih]
          · rw [SourceCursor.advanceWhile, SourceCursor.advanceWhile, advance_rest, left,
              List.takeWhile_cons_of_pos first]
            rfl
          · rw [advance_rest, left]
            exact fun d member => run d (List.mem_cons_of_mem c member)

theorem At.advanceWhile (stands : cursor.At source) (p : Char → Bool) :
    (cursor.advanceWhile p).At source :=
  stands.advanceBy _

theorem offset_advanceWhile (p : Char → Bool) :
    (cursor.advanceWhile p).offset = cursor.offset + (cursor.rest.takeWhile p).length :=
  offset_advanceBy (List.takeWhile_prefix p).length_le

theorem offset_le_advanceWhile (p : Char → Bool) :
    cursor.offset ≤ (cursor.advanceWhile p).offset := by
  rw [offset_advanceWhile]
  exact Nat.le_add_right _ _

end SourceCursor

end MiniJ
