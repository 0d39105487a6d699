import MiniJ.Source.Basic

/-!
# Files

What a run sees of the file system: files with their bytes and directories with their entries, in
the order in which they are listed. `Entry.find` follows a path from a directory; `Entry.put` adds
to a directory.
-/

set_option autoImplicit false

namespace MiniJ

/-- Something that a path can lead to. -/
inductive Entry where
  | file (content : ByteArray)
  | directory (entries : List (String × Entry))
  /-- Something that cannot be read, with the reason. -/
  | unreadable (reason : String)

/-- What a path leads to. -/
inductive Lookup where
  | found (entry : Entry)
  | missing
  /-- The path cannot be followed, with the reason. -/
  | refused (reason : String)

namespace Path

/-- The parts of a path between its slashes. -/
def split : List Char → List (List Char)
  | [] => [[]]
  | c :: cs =>
    if c = '/' then [] :: split cs
    else
      match split cs with
      | [] => [[c]]
      | part :: parts => (c :: part) :: parts

/-- The names along a path. Empty parts and single dots lead nowhere and are left out. -/
def names (path : String) : List String :=
  ((split path.toList).map String.ofList).filter fun name => name ≠ "" && name ≠ "."

/-- Whether a path asks for a directory, because a file cannot stand before its end. -/
def asksDirectory (path : String) : Bool :=
  match (split path.toList).reverse with
  | last :: _ :: _ => last = [] || last = ['.']
  | _ => false

/-- The path of an entry of a directory. -/
def join (path name : String) : String :=
  if path = "" || path.toList.getLast? = some '/' then path ++ name else path ++ "/" ++ name

end Path

namespace Entry

/-- Whether this is a directory. -/
def isDirectory : Entry → Bool
  | directory _ => true
  | _ => false

/-- The reason given for what is not text. -/
def notText : String := "stream did not contain valid UTF-8"

/-- The reason given for reading a directory as a file. -/
def isADirectory : String := "Is a directory (os error 21)"

/-- The reason given for following a path through a file. -/
def notADirectory : String := "Not a directory (os error 20)"

/-- The source text that a file holds, or the reason why there is none. -/
def source : Entry → Except String Source
  | file content =>
    match Source.ofBytes? content with
    | some source => .ok source
    | none => .error notText
  | directory _ => .error isADirectory
  | unreadable reason => .error reason

/-- Follow names from an entry. Two dots lead back to the directory before, which the first argument
remembers, and from the outermost to itself. -/
def follow : List Entry → Entry → List String → Lookup
  | _, entry, [] => .found entry
  | outer, directory entries, name :: names =>
    if name = ".." then
      match outer with
      | [] => follow [] (directory entries) names
      | parent :: outer => follow outer parent names
    else
      match entries.lookup name with
      | some entry => follow (directory entries :: outer) entry names
      | none => .missing
  | _, _, _ :: _ => .refused notADirectory

/-- Follow a path from a directory. No file has the empty path. -/
def find (root : Entry) (path : String) : Lookup :=
  if path = "" then .missing
  else
    match follow [] root (Path.names path) with
    | .found entry =>
      if Path.asksDirectory path && !entry.isDirectory then .refused notADirectory
      else .found entry
    | other => other

/-- Give a name to an entry in a list of entries; a new name goes to the end. -/
def assign (name : String) (entry : Entry) : List (String × Entry) → List (String × Entry)
  | [] => [(name, entry)]
  | (other, old) :: entries =>
    if other = name then (name, entry) :: entries else (other, old) :: assign name entry entries

/-- Put an entry under a path into a directory, together with the directories on the way. -/
def put (entry : Entry) : List String → Entry → Entry
  | [], _ => entry
  | name :: names, directory entries =>
    directory (assign name (put entry names ((entries.lookup name).getD (directory []))) entries)
  | _ :: _, other => other

/-- Add a file to a directory. -/
def addFile (root : Entry) (path : String) (content : ByteArray) : Entry :=
  put (file content) (Path.names path) root

/-- Add a directory to a directory, unless it is there already. -/
def addDirectory (root : Entry) (path : String) : Entry :=
  match root.find path with
  | .found _ => root
  | _ => put (directory []) (Path.names path) root

end Entry

end MiniJ
