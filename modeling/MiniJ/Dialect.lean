/-!
# Dialects

The language has two dialects. `mini` is the restricted teaching subset; `extended` adds generic
types, exceptions, more loops, access modifiers, inheritance and a package header. A dialect is
fixed for the whole of a text.
-/

set_option autoImplicit false

namespace MiniJ

/-- Which grammar a text is read under. -/
inductive Dialect where
  | mini
  | extended
  deriving DecidableEq

namespace Dialect

/-- Whether this is the restricted dialect. -/
def isMini : Dialect → Bool
  | mini => true
  | extended => false

/-- Whether this is the full dialect. -/
def isExtended : Dialect → Bool
  | mini => false
  | extended => true

/-- The name under which a dialect is shown. -/
def name : Dialect → String
  | mini => "mini"
  | extended => "extended"

/-- The dialect named by a text. ASCII letters count in either case, and `full` is another name of
the extended dialect. -/
def ofName? (text : String) : Option Dialect :=
  let lower := text.toLower
  if lower = "mini" then some mini
  else if lower = "extended" || lower = "full" then some extended
  else none

end Dialect

end MiniJ
