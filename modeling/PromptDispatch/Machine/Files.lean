import PromptDispatch.Failure.System
import PromptDispatch.Text.Utf8

/-!
# Files of a machine

A machine's files are named by the components of their path from the root.  `Files.entry` follows a
path as it is written: `.` and `..` are components of it, and every component but the last must be a
directory.
-/

namespace PromptDispatch.Machine

inductive Entry where
  | directory
  | file (content : List UInt8)
  /-- a file that can be run, by the name of the program in it -/
  | program (name : String)
  deriving DecidableEq, Repr

/-- components from the root -/
abbrev Path := List String

structure Files where
  entries : List (Path × Entry) := []
  /-- the directory from which relative paths start -/
  current : Path := []

namespace Files

/-- what stands at a path from the root -/
def at? (f : Files) (p : Path) : Option Entry :=
  if p = [] then some .directory else f.entries.lookup p

/-- the components between slashes, with empty ones -/
def components (s : List Char) : List String := (s.splitOn '/').map String.ofList

/-- one component further from a directory -/
def enter (f : Files) (p : Path) (name : String) : Except SystemFault Path :=
  match f.at? p with
  | none => .error .notFound
  | some .directory =>
    if name = "" ∨ name = "." then .ok p
    else if name = ".." then .ok p.dropLast
    else if (f.at? (p ++ [name])).isSome then .ok (p ++ [name])
    else .error .notFound
  | some _ => .error .notDirectory

/-- the place that a path names -/
def locate (f : Files) (path : String) : Except SystemFault Path :=
  if path = "" then .error .notFound
  else if '\x00' ∈ path.toList then .error .nulByte
  else
    let start := if path.startsWith "/" then [] else f.current
    (components path.toList).foldlM f.enter start

/-- what a path names -/
def entry (f : Files) (path : String) : Except SystemFault Entry :=
  (f.locate path).bind fun p =>
    match f.at? p with
    | some e => .ok e
    | none => .error .notFound

def pathExists (f : Files) (path : String) : Bool := (f.entry path).isOk

/-- the bytes of a file -/
def read (f : Files) (path : String) : Except SystemFault (List UInt8) :=
  (f.entry path).bind fun e =>
    match e with
    | .directory => .error .isDirectory
    | .file content => .ok content
    | .program _ => .ok []

/-- the bytes of a file as text -/
def readText (f : Files) (path : String) : Except SystemFault (List Char) :=
  (f.read path).bind fun bytes =>
    match Text.decode? bytes with
    | some s => .ok s
    | none => .error .invalidUtf8

/-- with other bytes in the file at a path; the directory of it must be there -/
def write (f : Files) (path : String) (content : List UInt8) : Except SystemFault Files :=
  let start := if path.startsWith "/" then [] else f.current
  let names := components path.toList
  let name := names.getLast?.getD ""
  (names.dropLast.foldlM f.enter start).bind fun p =>
    match f.at? (p ++ [name]) with
    | some .directory => .error .isDirectory
    | _ =>
      if name = "" then .error .isDirectory
      else
        let others := f.entries.filter fun e => e.1 ≠ p ++ [name]
        .ok { f with entries := (p ++ [name], .file content) :: others }

/-- the names in a directory, in ascending order -/
def names (f : Files) (p : Path) : List String :=
  (f.entries.filterMap fun e => if e.1.length = p.length + 1 ∧ p.isPrefixOf e.1 then e.1.getLast?
    else none).mergeSort fun a b => a ≤ b

/-! ## programs -/

/-- the name of the program at a path -/
def programAt (f : Files) (path : String) : Except SystemFault String :=
  (f.entry path).bind fun e =>
    match e with
    | .program name => .ok name
    | _ => .error .permissionDenied

/-- the program that a name without slash means: the first one in the directories of a search path -/
def search (f : Files) (searchPath name : String) : Except SystemFault String :=
  let candidates := (searchPath.toList.splitOn ':').map fun d =>
    f.programAt (if d = [] then name else String.ofList d ++ "/" ++ name)
  match candidates.find? Except.isOk with
  | some found => found
  | none =>
    if candidates.any fun c => c matches .error .permissionDenied then .error .permissionDenied
    else .error .notFound

/-- the program that is meant by the first word of a command line -/
def programOf (f : Files) (searchPath word : String) : Except SystemFault String :=
  if word = "" then .error .notFound
  else if '/' ∈ word.toList then f.programAt word
  else f.search searchPath word

end Files

/-! ## the usual files -/

/-- the programs of a machine -/
def programNames : List String :=
  ["sh", "echo", "printf", "true", "false", "sleep", "cat", "env", "seq", "grep", "sort", "ls"]

/-- directories and programs, and the directory from which commands start -/
def Files.standard : Files where
  entries :=
    [["bin"], ["usr"], ["usr", "bin"], ["usr", "local"], ["usr", "local", "bin"], ["tmp"], ["dev"],
      ["etc"], ["home"], ["work"]].map (·, Entry.directory) ++
    programNames.flatMap (fun n => [(["bin", n], .program n), (["usr", "bin", n], .program n)]) ++
    [(["dev", "null"], .file [])]
  current := ["work"]

end PromptDispatch.Machine
