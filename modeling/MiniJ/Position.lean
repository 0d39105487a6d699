/-!
# Positions

A position is the line and the column of one character of a source text. Both count from one, a
column counts characters, and only `'\n'` ends a line. `Position.after` moves a position over one
character and `Position.afterAll` over a whole text. Positions are ordered by line first, which is
the order in which a text is read.
-/

set_option autoImplicit false

namespace MiniJ

/-- A place in a source text. -/
structure Position where
  line : Nat
  column : Nat
  deriving DecidableEq

namespace Position

/-- The position of the first character of every text. -/
def start : Position := ⟨1, 1⟩

/-- The position just past the character `c` that stands at `p`. -/
def after (p : Position) (c : Char) : Position :=
  if c = '\n' then ⟨p.line + 1, 1⟩ else ⟨p.line, p.column + 1⟩

/-- The position just past the text `cs` that starts at `p`. -/
def afterAll (p : Position) (cs : List Char) : Position :=
  cs.foldl after p

@[simp] theorem afterAll_nil (p : Position) : p.afterAll [] = p := rfl

@[simp] theorem afterAll_cons (p : Position) (c : Char) (cs : List Char) :
    p.afterAll (c :: cs) = (p.after c).afterAll cs := rfl

/-- The order of reading: the line decides, then the column. -/
instance : LE Position where
  le p q := p.line < q.line ∨ (p.line = q.line ∧ p.column ≤ q.column)

instance (p q : Position) : Decidable (p ≤ q) :=
  inferInstanceAs (Decidable (p.line < q.line ∨ (p.line = q.line ∧ p.column ≤ q.column)))

theorem le_iff (p q : Position) :
    p ≤ q ↔ p.line < q.line ∨ (p.line = q.line ∧ p.column ≤ q.column) :=
  Iff.rfl

/-- Positions in the order of reading. -/
def sort (ps : List Position) : List Position :=
  ps.mergeSort fun p q => decide (p ≤ q)

/-- The written form `line:column`. -/
def text (p : Position) : String :=
  toString p.line ++ ":" ++ toString p.column

end Position

end MiniJ
