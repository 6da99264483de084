import SourceAtlas.Disk.Entry

/-!
# Walks and outlines

Two views of a directory. The walk lists the files below it, those of a directory before those of
its subdirectories; the outline keeps the tree. Hidden directories and directories with a skipped
name are never entered. Hidden files are part of the walk and not of the outline. What is behind a
link to a directory is part of the outline and not of the walk.

* `walk` — the files below a directory, each with its path from there;
* `Outline.ofEntries` — the tree of names.
-/

namespace SourceAtlas

/-- A file found on a walk. -/
structure FileAt where
  /-- The names on the way from where the walk began. -/
  parts : List String
  /-- The content. -/
  bytes : List UInt8
  deriving DecidableEq

namespace Entry

/-- Whether a walk stays out of a directory of this name. -/
def isSkipped (skip : List String) (name : String) : Bool :=
  isHidden name || skip.contains name

/-- The files among some entries, found at a place. -/
def filesAt (parts : List String) (es : List Entry) : List FileAt :=
  es.filterMap fun
    | .file n bytes => some ⟨parts ++ [n], bytes⟩
    | .directory .. => none

mutual

/-- The files below an entry that is listed at a place. -/
def filesBelow (skip : List String) (parts : List String) : Entry → List FileAt
  | .file .. => []
  | .directory n es link =>
    if link || isSkipped skip n then []
    else filesAt (parts ++ [n]) es ++ filesBelowAll skip (parts ++ [n]) es

/-- The files below some entries that are listed at a place. -/
def filesBelowAll (skip : List String) (parts : List String) : List Entry → List FileAt
  | [] => []
  | e :: es => e.filesBelow skip parts ++ filesBelowAll skip parts es

end

/-- **The walk** below an entry. Its own name does not matter, nor whether it is a link, and below a
file there is nothing. -/
def walk (skip : List String) (e : Entry) : List FileAt :=
  filesAt [] e.ordered.entries ++ filesBelowAll skip [] e.ordered.entries

end Entry

/-- **The tree of names below a directory.** -/
inductive Outline where
  | node (name : String) (files : List String) (subdirectories : List Outline)

namespace Outline

/-- The name of the directory. -/
def name : Outline → String
  | .node n _ _ => n

/-- The names of its files. -/
def files : Outline → List String
  | .node _ fs _ => fs

/-- Its subdirectories. -/
def subdirectories : Outline → List Outline
  | .node _ _ ds => ds

/-- A directory of which nothing is shown. -/
def bare (name : String) : Outline :=
  .node name [] []

/-- The names of the files that are shown. -/
def shownFiles (es : List Entry) : List String :=
  es.filterMap fun
    | .file n _ => if Entry.isHidden n then none else some n
    | .directory .. => none

mutual

/-- The outline of an entry, as a list that is empty for what is not shown. -/
def ofEntry (skip : List String) : Entry → List Outline
  | .file .. => []
  | .directory n es _ =>
    if Entry.isSkipped skip n then [] else [.node n (shownFiles es) (ofEntries skip es)]

/-- The outlines of the directories among some entries. -/
def ofEntries (skip : List String) : List Entry → List Outline
  | [] => []
  | e :: es => ofEntry skip e ++ ofEntries skip es

end

/-- **The outline below an entry** that is known by a name. A directory that is itself hidden or
skipped is bare. -/
def ofDirectory (skip : List String) (name : String) (e : Entry) : Outline :=
  if Entry.isSkipped skip name then bare name
  else .node name (shownFiles e.ordered.entries) (ofEntries skip e.ordered.entries)

end Outline

end SourceAtlas
