import MiniJ.Run

/-!
# Token listings

The listing of a file shows its tokens, one on a line, and behind them the report of its lexical
faults, if any.
-/

set_option autoImplicit false

namespace MiniJ

namespace Listing

/-- The reports of the faults of a text under a name. -/
def reporter (name : String) (lexed : Lexed) : Reporter :=
  (Reporter.empty (some name)).reportAll (lexed.faults.map LexicalFault.diagnostic)

/-- What the listing of a text under a name does. -/
def acts (dialect : Dialect) (name : String) (lexed : Lexed) : List Act :=
  let title := "Tokens for '" ++ name ++ "' (" ++ toString lexed.tokens.length ++ " tokens, " ++
    dialect.name ++ "):"
  let faults := reporter name lexed
  .say title :: lexed.tokens.map (fun token => .say ("  " ++ token.listing)) ++
    if faults.hasErrors then [.say "", .showText (faults.render ⟨false, true⟩)] else []

end Listing

/-- List the tokens of what a path leads to. The answer is the number of lexical faults. -/
def listTokens (dialect : Dialect) (path : String) (lookup : Lookup) (console : Console) :
    Except RunError Nat × Console :=
  match lookup with
  | .missing => (.error (.notFound path), console)
  | .refused reason => (.error (.unreadable path reason), console)
  | .found entry =>
    match entry.source with
    | .error reason => (.error (.unreadable path reason), console)
    | .ok source =>
      let lexed := lex dialect source
      match console.perform (Listing.acts dialect path lexed) with
      | (false, console) => (.error .outputFull, console)
      | (true, console) => (.ok lexed.faults.length, console)

end MiniJ
