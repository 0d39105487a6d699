import MiniJ.Diagnostic.Code
import MiniJ.Dialect
import MiniJ.Grammar.Classification
import MiniJ.Token.Basic

/-!
# Traces

A trace is what the program says about its own work while it goes on, in order: tokens as they are
scanned and consumed, the milestones of recognizing a text, and the files of a run.
-/

set_option autoImplicit false

namespace MiniJ

/-- One entry of a trace. -/
inductive Event where
  /-- A token was scanned. -/
  | scan (token : Token)
  /-- A token was consumed; the next was scanned just before. -/
  | consume (token : Token)
  /-- Recognition begins. -/
  | parse (dialect : Dialect)
  /-- The name of a class was read. -/
  | classNamed (name : Token)
  /-- A member was found to be a method. -/
  | methodNamed (name : Token)
  /-- A statement other than a block begins with a token of this kind. -/
  | statement (kind : TokenKind) (keywords : Bool)
  /-- A type-or-reference was classified. -/
  | typeOrReference (result : Classification)
  /-- The text was recognized after so many tokens. -/
  | finished (tokens : Nat)
  /-- Recognition ended with a syntax error after so many tokens. -/
  | aborted (code : ErrorCode) (position : Position) (tokens : Nat)
  /-- A run over so many files begins. -/
  | run (files : Nat) (dialect : Dialect)
  /-- Work on the only file of a run begins. -/
  | fileByPath (path : String)
  /-- Work on one file of a directory begins. -/
  | fileByName (name : String)
  /-- Work on the file ends. -/
  | fileDone
  /-- A file of a directory was checked. -/
  | checked (expectedFailure : Bool) (errors : Nat)
  deriving DecidableEq

/-- The entries so far, the oldest first. -/
abbrev Trace := Array Event

end MiniJ
