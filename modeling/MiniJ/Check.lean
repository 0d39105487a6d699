import MiniJ.Recognition.Recognizer
import MiniJ.Files

/-!
# Checking one text

The check of one input is its scan and its recognition under a name that goes onto every diagnostic.
A file is decoded as a whole before its check begins: bytes that are no text give a reason and
neither a token nor a diagnostic.
-/

set_option autoImplicit false

namespace MiniJ

/-- Check a text under a name. -/
def checkText (dialect : Dialect) (name text : String) : Parse :=
  parse dialect (.ofString text) (some name)

/-- Check a file under its path, or say why it cannot be read. -/
def checkFile (dialect : Dialect) (path : String) (entry : Entry) : Except String Parse :=
  entry.source.map fun source => parse dialect source (some path)

end MiniJ
