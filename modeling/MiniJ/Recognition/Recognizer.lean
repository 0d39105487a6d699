import MiniJ.Grammar.Expansion
import MiniJ.Recognition.TokenCursor

/-!
# Recognition

A recognizer works off an agenda of grammar symbols against a token cursor. It builds no tree: the
answer is whether the text belongs to the language, and if not the first syntax error, which ends
the work. Because pending symbols are kept in the agenda, nesting of any depth needs no recursion.

`Recognizer.run` takes a bound on the number of steps and says so when the bound was too small.
`parse` sets a bound that grows linearly with the text, reports the syntax error if there is one,
and leaves the cursor at the token where the work ended.
-/

set_option autoImplicit false

namespace MiniJ

/-- A text being recognized. -/
structure Recognizer where
  dialect : Dialect
  /-- The symbols still to come. -/
  agenda : List Symbol
  cursor : TokenCursor
  deriving DecidableEq

/-- How recognition ended. -/
inductive Verdict where
  /-- Every symbol was worked off. -/
  | accepted
  /-- A token was an error. -/
  | rejected (error : SyntaxError)
  /-- The bound on the number of steps was too small. -/
  | unfinished
  deriving DecidableEq

/-- The outcome of one step. -/
inductive Step where
  | more (next : Recognizer)
  /-- Nothing is left to do, and the cursor stays where it is. -/
  | done (verdict : Verdict) (cursor : TokenCursor)
  deriving DecidableEq

/-- The construct that ends first on an agenda, which is the innermost open one. -/
def innermost? : List Symbol → Option Construct
  | [] => none
  | .close construct :: _ => some construct
  | _ :: agenda => innermost? agenda

/-- An error in front of an agenda, with the innermost open construct. -/
def SyntaxError.before (error : SyntaxError) (agenda : List Symbol) : SyntaxError :=
  match innermost? agenda with
  | some construct => error.within construct
  | none => error

namespace Recognizer

/-- Work on the first symbol of the agenda. -/
def step (recognizer : Recognizer) : Step :=
  match recognizer.agenda with
  | [] => .done .accepted recognizer.cursor
  | symbol :: pending =>
    match symbol.expand recognizer.dialect recognizer.cursor.current with
    | .replace symbols => .more { recognizer with agenda := symbols ++ pending }
    | .consume symbols =>
      .more { recognizer with agenda := symbols ++ pending, cursor := recognizer.cursor.advance }
    | .announce event =>
      .more { recognizer with agenda := pending, cursor := recognizer.cursor.announce event }
    | .reject error => .done (.rejected (error.before pending)) recognizer.cursor

/-- Work until the end, for a bounded number of steps. -/
def run : Nat → Recognizer → Verdict × TokenCursor
  | 0, recognizer => (.unfinished, recognizer.cursor)
  | bound + 1, recognizer =>
    match recognizer.step with
    | .more next => run bound next
    | .done verdict cursor => (verdict, cursor)

/-- A number of steps that is enough for every text of a given length: each character yields at most
one token, and each token at most a fixed number of symbols. -/
def stepBound (length : Nat) : Nat :=
  64 * (length + 2)

end Recognizer

/-- The outcome of checking one text against the grammar. -/
structure Parse where
  verdict : Verdict
  /-- The cursor at the token where the work ended, with all reports and the trace. -/
  cursor : TokenCursor
  deriving DecidableEq

namespace Parse

/-- Whether nothing was reported, neither by the scanner nor for the grammar. -/
def isOk (parse : Parse) : Bool :=
  !parse.cursor.reporter.hasErrors

end Parse

/-- The end of recognition: the trace gets its last entry, and a syntax error is reported. -/
def conclude (verdict : Verdict) (cursor : TokenCursor) : TokenCursor :=
  match verdict with
  | .accepted => cursor.announce (.finished cursor.consumed)
  | .rejected error =>
    let cursor := cursor.announce (.aborted error.code error.position cursor.consumed)
    { cursor with reporter := cursor.reporter.report error.diagnostic }
  | .unfinished => cursor

/-- Scan a text and check it against the grammar, with a reporter that may know its name. -/
def parse (dialect : Dialect) (source : Source) (file : Option String) : Parse :=
  let cursor := (TokenCursor.start (.start dialect source) (.empty file)).announce (.parse dialect)
  let (verdict, cursor) := Recognizer.run (Recognizer.stepBound source.size)
    ⟨dialect, [.program], cursor⟩
  ⟨verdict, conclude verdict cursor⟩

end MiniJ
