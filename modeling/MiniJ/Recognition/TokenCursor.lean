import MiniJ.Diagnostic.Reporter
import MiniJ.Grammar.SyntaxError
import MiniJ.Scanner
import MiniJ.Trace

/-!
# Token cursors

A token cursor shows one token of a text that is still being scanned. Moving on asks the scanner
for the next token, so lexical faults are reported when the token behind them comes into view, and
no later token is ever looked at.
-/

set_option autoImplicit false

namespace MiniJ

/-- One token in view of a text being scanned, and what was said about the text so far. -/
structure TokenCursor where
  /-- The scanner behind the token in view. -/
  scanner : Scanner
  /-- The token in view. -/
  current : Token
  /-- The number of tokens before it. -/
  consumed : Nat
  reporter : Reporter
  trace : Trace
  deriving DecidableEq

namespace TokenCursor

/-- The trace entries of a scan: a scanner that was finished before gives none. -/
def scanEvents (scanner : Scanner) : List Event :=
  if scanner.finished then [] else [.scan scanner.scan.token]

/-- The cursor at the first token of a text, for a reporter that may know its name. -/
def start (scanner : Scanner) (reporter : Reporter) : TokenCursor :=
  let scan := scanner.scan
  { scanner := scan.next
    current := scan.token
    consumed := 0
    reporter := reporter.reportAll (scan.faults.map LexicalFault.diagnostic)
    trace := (scanEvents scanner).toArray }

/-- Whether the token in view is of a kind. -/
def check (kind : TokenKind) (cursor : TokenCursor) : Bool :=
  cursor.current.kind = kind

/-- Whether the end of the text is in view. -/
def isAtEnd (cursor : TokenCursor) : Bool :=
  cursor.check .eot

/-- Add an entry to the trace. -/
def announce (event : Event) (cursor : TokenCursor) : TokenCursor :=
  { cursor with trace := cursor.trace.push event }

/-- Consume the token in view. -/
def advance (cursor : TokenCursor) : TokenCursor :=
  let scan := cursor.scanner.scan
  { scanner := scan.next
    current := scan.token
    consumed := cursor.consumed + 1
    reporter := cursor.reporter.reportAll (scan.faults.map LexicalFault.diagnostic)
    trace := (cursor.trace.appendList (scanEvents cursor.scanner)).push (.consume cursor.current) }

/-- Consume the token in view if it is of a kind, and say whether it was. -/
def eat (kind : TokenKind) (cursor : TokenCursor) : Bool × TokenCursor :=
  if cursor.check kind then (true, cursor.advance) else (false, cursor)

/-- Consume the token in view if it is of one of the kinds. The answer is the token, or the error
that none of them was found. -/
def expectAny (kinds : List TokenKind) (cursor : TokenCursor) :
    Except SyntaxError Token × TokenCursor :=
  if cursor.current.kind ∈ kinds then (.ok cursor.current, cursor.advance)
  else (.error (.expectedKinds kinds cursor.current), cursor)

/-- Consume the token in view if it is of a kind. -/
def expect (kind : TokenKind) (cursor : TokenCursor) : Except SyntaxError Token × TokenCursor :=
  cursor.expectAny [kind]

end TokenCursor

end MiniJ
