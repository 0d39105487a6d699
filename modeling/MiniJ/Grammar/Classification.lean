/-!
# Classifications

`a.b[3].c(x)` and `a.b<C>[]` begin alike. Such a prefix is read once, and each suffix narrows what
the whole can be. A classification is what it turned out to be.
-/

set_option autoImplicit false

namespace MiniJ

/-- What a type-or-reference turned out to be. -/
inductive Classification where
  /-- A plain or dotted name: a type, or a reference that can be assigned to. -/
  | undetermined
  | type
  /-- A value that can be assigned to. -/
  | reference
  /-- A value that can only be read, because it ends in a call. -/
  | referenceUnassignable
  deriving DecidableEq

namespace Classification

/-- Every classification. -/
def all : List Classification := [undetermined, type, reference, referenceUnassignable]

/-- The name of a classification. -/
def name : Classification → String
  | undetermined => "Undetermined"
  | type => "Type"
  | reference => "Reference"
  | referenceUnassignable => "ReferenceUnassignable"

/-- Whether a declaration may use it as its type. -/
def canBeType : Classification → Bool
  | undetermined | type => true
  | reference | referenceUnassignable => false

/-- Whether it may stand on the left of an assignment. -/
def isAssignable : Classification → Bool
  | undetermined | reference => true
  | type | referenceUnassignable => false

end Classification

end MiniJ
