import MiniJ.Command

/-!
# The program

The command line: arguments and environment go in, the path that the command needs is looked up in
the file system, and the answer goes to the two outputs and the exit code. Every decision is taken
by `Command`.
-/

set_option autoImplicit false

namespace MiniJ.Program

/-- A file with its bytes. -/
def readFile (path : String) : IO Entry := do
  match ← (IO.FS.readBinFile path).toBaseIO with
  | .ok content => return .file content
  | .error error => return .unreadable (toString error)

/-- What a path leads to, with the files of a directory but not those further down. -/
def look (path : String) : IO Lookup := do
  match ← (IO.FS.realPath path).toBaseIO with
  | .error _ => return .missing
  | .ok place =>
    if ← place.isDir then
      let mut entries := #[]
      for item in ← place.readDir do
        let entry ←
          if ← item.path.isDir then pure (.directory []) else readFile item.path.toString
        entries := entries.push (item.fileName, entry)
      return .found (.directory entries.toList)
    else return .found (← readFile path)

/-- Carry out the command that the arguments ask for. -/
def run (arguments : List String) : IO UInt32 := do
  let command := Command.ofArguments (← IO.getEnv "MJC_DIALECT") arguments
  let lookup ← match command.path? with
    | some path => look path
    | none => pure .missing
  let output ← IO.getStdout
  let answer := command.perform (← output.isTty) lookup
  output.write answer.output
  output.flush
  (← IO.getStderr).putStr answer.complaint
  return answer.exitCode.toUInt32

end MiniJ.Program

/-- The entry point of the program. -/
def main (arguments : List String) : IO UInt32 :=
  MiniJ.Program.run arguments
