import MiniJ.Check
import MiniJ.Output
import MiniJ.Settings

/-!
# Runs

A run checks one file, or the files of a directory against the expectation that their names carry:
a name with `fail` in it announces a text that must be rejected. Subdirectories and entries whose
names start with a dot are passed over, and the rest is taken in the order of the paths. A directory
with exactly one such file is treated like the file itself.

What a run does is planned first, as a list of acts per file (`Run.plan`), and then carried out on a
console (`Plan.perform`). A file that cannot be read and a line that is not taken in full end the
run.
-/

set_option autoImplicit false

namespace MiniJ

/-- Why a run ends early. -/
inductive RunError where
  | notFound (path : String)
  | unreadable (path reason : String)
  | outputFull
  deriving DecidableEq

/-- The text of an error that ends a run. -/
def RunError.message : RunError → String
  | notFound path => "cannot find '" ++ path ++ "'"
  | unreadable path reason => "error reading '" ++ path ++ "': " ++ reason
  | outputFull => "cannot write output: out of space"

/-- The count of a run. -/
structure Summary where
  files : Nat
  /-- Rejected files in a run over one file, and surprises in a run over a directory. -/
  failed : Nat
  deriving DecidableEq

/-- Whether nothing failed. -/
def Summary.passed (summary : Summary) : Bool :=
  summary.failed = 0

/-- A file to check. -/
structure Input where
  path : String
  name : String
  entry : Entry

/-- The work on one file. -/
structure FileWork where
  opening : Event
  acts : List Act
  /-- Why the run ends with this file, if it does. -/
  failure : Option RunError
  /-- Whether the file counts as failed. -/
  failed : Bool
  deriving DecidableEq

/-- What a run will do. -/
structure Plan where
  opening : Event
  files : List FileWork
  /-- What is done after the last file. -/
  closing : List Act
  summary : Summary
  deriving DecidableEq

namespace Run

/-- Whether a name announces a text that must be rejected. -/
def expectsFailure (name : String) : Bool :=
  @decide ("fail".toList <:+: name.toList) (List.instDecidableIsInfixOfDecidableEq _ _)

/-- Whether a name hides its entry. -/
def isHidden (name : String) : Bool :=
  name.toList.head? = some '.'

/-- The files of a directory that are checked, in order. All their paths begin alike, so the names
decide the order. -/
def filesOf (path : String) (entries : List (String × Entry)) : List Input :=
  let visible := entries.filter fun (name, entry) => !isHidden name && !entry.isDirectory
  let ordered := visible.mergeSort fun first second => decide (first.1 ≤ second.1)
  ordered.map fun (name, entry) => ⟨Path.join path name, name, entry⟩

/-- The files that a path stands for. -/
def inputs (path : String) : Lookup → Except RunError (List Input)
  | .missing => .error (.notFound path)
  | .refused reason => .error (.unreadable path reason)
  | .found (.directory entries) => .ok (filesOf path entries)
  | .found entry => .ok [⟨path, path, entry⟩]

/-- The line between the files of a directory. -/
def separator : String := "---------------------------"

/-- The rendered report of a check, always in the verbose form. -/
def report (settings : Settings) (terminal : Bool) (parse : Parse) : Act :=
  .showText (parse.cursor.reporter.render ⟨settings.color.usesColor terminal, true⟩)

/-- The trace of a check. -/
def traceOf (parse : Parse) : List Act :=
  parse.cursor.trace.toList.map .note

/-- The work on a file that is the only one. -/
def singleWork (settings : Settings) (terminal : Bool) (input : Input) : FileWork :=
  match checkFile settings.dialect input.path input.entry with
  | .error reason =>
    ⟨.fileByPath input.path, [], some (.unreadable input.path reason), true⟩
  | .ok parse =>
    let verdict := if parse.isOk then [.say "Success"]
      else [.say "Error", report settings terminal parse]
    ⟨.fileByPath input.path, traceOf parse ++ verdict, none, !parse.isOk⟩

/-- The work on one file of a directory. -/
def batchWork (settings : Settings) (terminal : Bool) (input : Input) : FileWork :=
  let announcement := Act.say ("Compiling File: " ++ input.name)
  match checkFile settings.dialect input.path input.entry with
  | .error reason =>
    ⟨.fileByName input.name, [announcement], some (.unreadable input.path reason), true⟩
  | .ok parse =>
    let expected := expectsFailure input.name
    let surprise := expected == parse.isOk
    let outcome :=
      if surprise then
        Act.say ("Compiler mismatch: incorrect result for file " ++ input.name) ::
          if settings.verbose then [report settings terminal parse] else []
      else []
    ⟨.fileByName input.name,
      [announcement] ++ traceOf parse ++
        [.note (.checked expected parse.cursor.reporter.count)] ++ outcome ++ [.say separator],
      none, surprise⟩

/-- What a run over files will do. -/
def planFiles (settings : Settings) (terminal : Bool) (files : List Input) : Plan :=
  let opening := Event.run files.length settings.dialect
  match files with
  | [input] =>
    let work := singleWork settings terminal input
    ⟨opening, [work], [], ⟨1, if work.failed then 1 else 0⟩⟩
  | _ =>
    let works := files.map (batchWork settings terminal)
    let failed := works.countP FileWork.failed
    ⟨opening, works, if failed = 0 then [.say "All tests passed"] else [],
      ⟨files.length, failed⟩⟩

/-- What a run over a path will do. -/
def plan (settings : Settings) (terminal : Bool) (path : String) (lookup : Lookup) :
    Except RunError Plan :=
  (inputs path lookup).map (planFiles settings terminal)

end Run

namespace Plan

/-- Carry out the work on files, up to the first that ends the run. -/
def performFiles : List FileWork → Console → Option RunError × Console
  | [], console => (none, console)
  | work :: works, console =>
    match (console.note work.opening).perform work.acts with
    | (false, console) => (some .outputFull, console.note .fileDone)
    | (true, console) =>
      match work.failure with
      | some error => (some error, console.note .fileDone)
      | none => performFiles works (console.note .fileDone)

/-- Carry out a plan. -/
def perform (plan : Plan) (console : Console) : Except RunError Summary × Console :=
  match performFiles plan.files (console.note plan.opening) with
  | (some error, console) => (.error error, console)
  | (none, console) =>
    match console.perform plan.closing with
    | (false, console) => (.error .outputFull, console)
    | (true, console) => (.ok plan.summary, console)

end Plan

/-- Check what a path leads to and leave the marks on a console. -/
def run (settings : Settings) (terminal : Bool) (path : String) (lookup : Lookup)
    (console : Console) : Except RunError Summary × Console :=
  match Run.plan settings terminal path lookup with
  | .error error => (.error error, console)
  | .ok plan => plan.perform console

end MiniJ
