import MiniJ.Position
import MiniJ.Source.Basic

/-!
# Cursors over source texts

A cursor stands before one character of a source text, or at its end, and moves forward only. It
keeps the characters still to be read, the number of those read, and the position of the next.
-/

set_option autoImplicit false

namespace MiniJ

/-- A place in a source text from which reading goes on. -/
structure SourceCursor where
  /-- The characters from here to the end. -/
  rest : List Char
  /-- The number of characters before this place. -/
  offset : Nat
  /-- Line and column of this place. -/
  position : Position
  deriving DecidableEq

namespace SourceCursor

/-- The cursor before the first character. -/
def start (source : Source) : SourceCursor :=
  ⟨source.chars, 0, .start⟩

/-- The next character, or the sentinel at the end. -/
def current (cursor : SourceCursor) : Char :=
  cursor.rest.headD Source.sentinel

/-- Whether no character is left. -/
def isAtEnd (cursor : SourceCursor) : Bool :=
  cursor.rest.isEmpty

/-- Move over one character. At the end the cursor stays. -/
def advance (cursor : SourceCursor) : SourceCursor :=
  match cursor.rest with
  | [] => cursor
  | c :: rest => ⟨rest, cursor.offset + 1, cursor.position.after c⟩

/-- Move over a number of characters, at most to the end. -/
def advanceBy : Nat → SourceCursor → SourceCursor
  | 0, cursor => cursor
  | n + 1, cursor => advanceBy n cursor.advance

/-- Move over the longest run of characters that satisfy a predicate. -/
def advanceWhile (p : Char → Bool) (cursor : SourceCursor) : SourceCursor :=
  cursor.advanceBy (cursor.rest.takeWhile p).length

@[simp] theorem advance_rest (cursor : SourceCursor) : cursor.advance.rest = cursor.rest.tail := by
  unfold advance
  split <;> simp_all

@[simp] theorem advanceBy_rest (n : Nat) (cursor : SourceCursor) :
    (cursor.advanceBy n).rest = cursor.rest.drop n := by
  induction n generalizing cursor with
  | zero => rfl
  | succ n ih => rw [advanceBy, ih, advance_rest, List.drop_tail]

@[simp] theorem advanceWhile_rest (p : Char → Bool) (cursor : SourceCursor) :
    (cursor.advanceWhile p).rest = cursor.rest.dropWhile p := by
  rw [advanceWhile, advanceBy_rest]
  induction cursor.rest with
  | nil => rfl
  | cons c cs ih =>
    by_cases h : p c = true
    · simp [h, ih]
    · simp [h]

end SourceCursor

end MiniJ
