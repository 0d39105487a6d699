import MiniJ.Diagnostic.Explanation
import MiniJ.Listing

/-!
# Commands

What the arguments of the program ask for, and what it answers. `Command.ofArguments` decides the
first; `Command.path?` says which path has to be looked up, and `Command.perform` gives the bytes of
both outputs and the exit code.
-/

set_option autoImplicit false

namespace MiniJ

/-- What the program is asked to do. -/
inductive Command where
  /-- Say how the program is used. -/
  | usage (asked : Bool)
  | version
  /-- Explain a code. -/
  | explain (code : String)
  /-- List the tokens of a file. -/
  | list (dialect : Dialect) (path : String)
  /-- Check a file or a directory. -/
  | check (settings : Settings) (path : String)
  /-- Refuse, with a text. -/
  | refuse (complaint : String)
  deriving DecidableEq

/-- What the program leaves behind. -/
structure Answer where
  exitCode : Nat
  output : ByteArray
  complaint : String

namespace Command

/-- Lines, each with its line end. -/
def unlines (lines : List String) : String :=
  String.join (lines.map fun line => line ++ "\n")

/-- How the program is used. -/
def usageText : String :=
  unlines
    ["MiniJ front end: lexical and syntactic checks",
      "",
      "Usage: mjc [check] <file|directory> [options]",
      "       mjc <command> [args]",
      "",
      "Commands:",
      "  check <path>        Check a file, or every file of a test directory",
      "  lex <file>          Print the token stream of a file",
      "  explain <code>      Explain an error code (e.g., E1001)",
      "  help                Show this help message",
      "  version             Show version information",
      "",
      "Options:",
      "  --dialect=<name>    Grammar: mini (default), extended",
      "  --mini, --extended  Shorthand for --dialect",
      "  -v, --verbose       Print diagnostics for mismatched directory files",
      "  --color=<mode>      Color: auto (default), always, never",
      "",
      "Directory runs expect files whose name contains 'fail' to be rejected",
      "and every other file to be accepted.",
      "",
      "Environment:",
      "  MJC_DIALECT         Default dialect when no option is given",
      "  RUST_LOG            Enable tracing, e.g. RUST_LOG=mj_parse=debug",
      "  MJC_LOG_TREE        Render tracing output as an indented tree"]

/-- The name and the version of the program. -/
def versionText : String :=
  "mjc 0.1.0\n"

/-- How a code is explained. -/
def explainUsage : String :=
  unlines ["Usage: mjc explain <ERROR_CODE>", "Example: mjc explain E1001"]

/-- How tokens are listed. -/
def listUsage : String :=
  unlines ["Usage: mjc lex <file> [--dialect=mini|extended]"]

/-- How files are checked. -/
def checkUsage : String :=
  unlines ["Usage: mjc [check] <file|directory> [options]", "",
    "Run `mjc help` for the list of options."]

/-- The text for an error. -/
def errorText (message : String) : String :=
  "error: " ++ message ++ "\n"

/-- What is asked with options and exactly one path. -/
def withPath (defaultDialect : Option String) (arguments : List String) (usage : String)
    (command : Settings → String → Command) : Command :=
  match Settings.withDefaultDialect defaultDialect with
  | .error error => refuse (errorText error.message)
  | .ok settings =>
    match settings.applyAll arguments with
    | (.error error, _) => refuse (errorText error.message)
    | (.ok [path], settings) => command settings path
    | (.ok _, _) => refuse usage

/-- What the arguments ask for, when the name of a dialect may be given from outside. -/
def ofArguments (defaultDialect : Option String) : List String → Command
  | [] => usage false
  | first :: rest =>
    if first ∈ ["help", "--help", "-h"] then usage true
    else if first ∈ ["version", "--version", "-V"] then version
    else if first ∈ ["--explain", "explain"] then
      match rest with
      | [] => refuse explainUsage
      | code :: _ => explain code
    else if first = "lex" then
      withPath defaultDialect rest listUsage fun settings path => list settings.dialect path
    else if first = "check" then withPath defaultDialect rest checkUsage check
    else withPath defaultDialect (first :: rest) checkUsage check

/-- The path that has to be looked up. -/
def path? : Command → Option String
  | list _ path | check _ path => some path
  | _ => none

/-- An answer with an output and no complaint. -/
def say (exitCode : Nat) (text : String) : Answer :=
  ⟨exitCode, text.toUTF8, ""⟩

/-- The answer to work on a console that either failed or ended well or badly. -/
def conclude (result : Except RunError Bool) (console : Console) : Answer :=
  match result with
  | .ok good => ⟨if good then 0 else 1, console.sink.taken, ""⟩
  | .error error => ⟨1, console.sink.taken, errorText error.message⟩

/-- Carry out a command, given what its path leads to. The output is no terminal or one. -/
def perform (command : Command) (terminal : Bool) (lookup : Lookup) : Answer :=
  match command with
  | usage asked => say (if asked then 0 else 1) usageText
  | version => say 0 versionText
  | explain code =>
    match ErrorCode.explain? code with
    | some page => say 0 (page ++ "\n")
    | none => ⟨1, ByteArray.empty, ErrorCode.unknownMessage code ++ "\n"⟩
  | list dialect path =>
    let (result, console) := listTokens dialect path lookup (.empty none)
    conclude (result.map fun faults => faults = 0) console
  | check settings path =>
    let (result, console) := run settings terminal path lookup (.empty none)
    conclude (result.map Summary.passed) console
  | refuse complaint => ⟨1, ByteArray.empty, complaint⟩

end Command

end MiniJ
