/-
NodeWatch.Store.DatabaseFile — whether a database file can be opened.

The directory of the file is made first, with all directories above it;
then the file is opened, or made.  What is already there is given by a
function from absolute paths; a path it does not know is free, and free
paths can be made wherever the path above them is a directory.  Relative
paths are free.  An empty path, and the name for a database in memory,
need no file at all.
-/
import NodeWatch.Store.Error

namespace NodeWatch.DatabaseFile

/-- What stands at a path. -/
inductive Kind where
  | directory
  | file
  deriving DecidableEq, Repr

/-- The parts of a path between its slashes; a part that is a single
point, not at the beginning, says nothing. -/
def parts (path : List Char) : List (List Char) :=
  let pieces := (path.splitOnP (· == '/')).filter (!·.isEmpty)
  match path, pieces with
  | '/' :: _, pieces => pieces.filter (· != ['.'])
  | _, [] => []
  | _, first :: rest => first :: rest.filter (· != ['.'])

/-- A path without the slashes, and the slashes before single points, at
its end. -/
def trimEnd : (steps : Nat) → (reversed : List Char) → List Char
  | 0, reversed => reversed
  | steps + 1, reversed =>
    match reversed with
    | ['/'] => ['/']
    | '/' :: rest => trimEnd steps rest
    | ['.', '/'] => ['/']
    | '.' :: '/' :: rest => trimEnd steps rest
    | reversed => reversed

/-- The path of the directory that a path lies in, as it is written; none
for the root and for a path that is no name at all. -/
def parent? (path : List Char) : Option (List Char) :=
  if (parts path).isEmpty then none
  else
    let trimmed := trimEnd path.length path.reverse
    let above := trimmed.dropWhile (· != '/')
    some (trimEnd path.length above).reverse

/-- The absolute path with the given parts. -/
def absolute (names : List (List Char)) : String :=
  String.ofList ('/' :: (['/'] : List Char).intercalate names)

/-- Why the directory with the given parts, below those that are known to
be directories, cannot be made. -/
def makeFault (known : String → Option Kind) (done : List (List Char)) :
    List (List Char) → Option String
  | [] => none
  | name :: rest =>
    let here := done ++ [name]
    match known (absolute here) with
    | some .file => some (if rest.isEmpty then "File exists (os error 17)"
        else "Not a directory (os error 20)")
    | _ => makeFault known here rest

/-- Why the directory of a path cannot be made. -/
def directoryFault (known : String → Option Kind) (directory : List Char) : Option String :=
  if directory.contains '\x00' then some "file name contained an unexpected NUL byte"
  else match directory with
    | '/' :: _ => makeFault known [] (parts directory)
    | _ => none

/-- Open the database at a path, or say why it cannot be opened. -/
def openAt (known : String → Option Kind) (path : String) : Except StoreError Unit :=
  let cs := path.toList
  match (parent? cs).bind fun directory =>
      if directory.isEmpty then none
      else (directoryFault known directory).map fun reason => (directory, reason) with
  | some (directory, reason) =>
    .error (.database ("Failed to create database directory " ++ String.ofList directory ++ ": "
      ++ reason))
  | none =>
    if cs.contains '\x00' then
      let before := String.ofList (cs.takeWhile (· != '\x00'))
      .error (.database ("nul byte found in provided data at position: "
        ++ Text.ofNat before.utf8ByteSize))
    else
      let isDirectory : Bool := match cs with
        | '/' :: _ => (parts cs).isEmpty || known (absolute (parts cs)) == some .directory
        | _ => cs == ['.'] || cs == ['.', '.']
      if isDirectory then .error (.database ("unable to open database file: " ++ path)) else .ok ()

/-- The directories and files that every system has. -/
def standard (path : String) : Option Kind :=
  if ["/dev", "/etc", "/proc", "/root", "/tmp", "/usr", "/var"].contains path then some .directory
  else if ["/dev/full", "/dev/null", "/dev/zero", "/etc/passwd"].contains path then some .file
  else none

end NodeWatch.DatabaseFile
