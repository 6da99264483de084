import SourceAtlas.Disk.Walk
import SourceAtlas.Log
import SourceAtlas.Path
import SourceAtlas.Text.Printable

/-!
# Disks

A snapshot of a whole file system, with the directory that relative paths start from. Paths are
followed name by name: every name on the way has to be a directory, and two dots lead back to where
the name before them is listed. A link is followed under its own name, so whoever wants the place it
really has takes the real path first.

* `Disk.find` — what is at a path, or why there is nothing;
* `Disk.directory?` — a directory with the full path that it has;
* `Disk.files`, `Disk.outline` — walk and outline of what is at a path.
-/

namespace SourceAtlas

/-- Why there is nothing at a path. -/
inductive Trouble where
  /-- A name is not listed. -/
  | missing
  /-- A name on the way is no directory. -/
  | notDirectory
  deriving DecidableEq, Repr

/-- What the system says about a path. -/
def Trouble.message (t : Trouble) (path : Path) : String :=
  let reason :=
    match t with
    | .missing => "[Errno 2] No such file or directory: "
    | .notDirectory => "[Errno 20] Not a directory: "
  reason ++ String.ofList (Text.quoted path.toString.toList)

/-- **A snapshot of a file system.** -/
structure Disk where
  /-- What is listed at the root. -/
  entries : List Entry
  /-- The names of the current directory. -/
  current : List String := []

namespace Disk

/-- Follows some names from the innermost of the directories that lead to a place. -/
def follow (trail : List Entry) : List String → Except Trouble (List Entry)
  | [] => .ok trail
  | name :: rest =>
    match trail with
    | .directory _ es _ :: outer =>
      if name = ".." then follow (if outer.isEmpty then trail else outer) rest
      else
        match es.find? (·.name == name) with
        | none => .error .missing
        | some e => follow (e :: trail) rest
    | _ => .error .notDirectory

/-- The names of a path from the root. -/
def namesOf (d : Disk) (p : Path) : List String :=
  match p.start with
  | .relative => d.current ++ p.parts
  | _ => p.parts

/-- **What is at a path,** innermost first with the directories that lead there. -/
def find (d : Disk) (p : Path) : Except Trouble (List Entry) :=
  follow [.directory "" d.entries] (d.namesOf p)

/-- What is at a path, as a single entry. -/
def entry (d : Disk) (p : Path) : Except Trouble Entry :=
  match d.find p with
  | .ok (e :: _) => .ok e
  | .ok [] => .error .missing
  | .error t => .error t

/-- The full path that leads to a place. -/
def fullPath (trail : List Entry) : Path :=
  { start := .absolute, parts := (trail.reverse.drop 1).map Entry.name }

/-- **The directory at a path,** with its full path. -/
def directory? (d : Disk) (p : Path) : Option (Path × Entry) :=
  match d.find p with
  | .ok (.directory n es link :: outer) =>
    some (fullPath (.directory n es link :: outer), .directory n es link)
  | _ => none

/-- The content of the file at a path. -/
def content? (d : Disk) (p : Path) : Option (List UInt8) :=
  match d.entry p with
  | .ok (.file _ bytes) => some bytes
  | _ => none

/-- **The files below a path.** Below nothing and below a file there are none. -/
def files (d : Disk) (p : Path) (skip : List String) : List FileAt :=
  match d.entry p with
  | .ok e => e.walk skip
  | .error _ => []

/-- **The outline of the directory at a path.** A directory that cannot be listed is bare. -/
def outline (d : Disk) (p : Path) (skip : List String) : Logged Outline :=
  let refuse (t : Trouble) : Logged Outline := do
    record .warning ("Cannot list directory " ++ p.toString ++ ": " ++ t.message p)
    return .bare p.name
  if Entry.isSkipped skip p.name then return .bare p.name
  else
    match d.entry p with
    | .ok (.directory n es link) => return .ofDirectory skip p.name (.directory n es link)
    | .ok (.file ..) => refuse .notDirectory
    | .error t => refuse t

/-- A disk with a file or directory put at a path. -/
def put (d : Disk) (p : Path) (leaf : String → Entry) : Disk :=
  { d with entries := Entry.put leaf (d.namesOf p) d.entries }

/-- A disk without what is at a path. -/
def erase (d : Disk) (p : Path) : Disk :=
  { d with entries := Entry.erase (d.namesOf p) d.entries }

end Disk

end SourceAtlas
