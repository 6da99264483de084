import SourceAtlas.Disk.Basic
import SourceAtlas.Exclusion
import SourceAtlas.Text.Blank

/-!
# Inventories

Which files a project has, by extension. The histogram counts every file that is neither excluded
nor outside of an extension filter; the sources of a dialect are the files with one of its
extensions, without those in skipped directories.
-/

namespace SourceAtlas

namespace FileAt

/-- The path of a file from where the walk began, as text. -/
def relative (f : FileAt) : String :=
  Text.joinWith "/" f.parts

/-- The path of a file below a directory. -/
def pathIn (f : FileAt) (root : Path) : Path :=
  { root with parts := root.parts ++ f.parts }

/-- The extension of a file in lower case, empty if it has none. -/
def suffix (f : FileAt) : String :=
  Text.lowerString (Path.suffix { start := .relative, parts := f.parts })

/-- What a file is counted under. -/
def extension (f : FileAt) : String :=
  Path.extension { start := .relative, parts := f.parts }

end FileAt

namespace Inventory

/-- One extension of a filter, in lower case and with its dot. -/
def normalExtension? (part : List Char) : Option String :=
  match Text.lowerText (Text.trim part) with
  | [] => none
  | '.' :: rest => some (String.ofList ('.' :: rest))
  | rest => some (String.ofList ('.' :: rest))

/-- **The extensions of a filter,** which are separated by commas. -/
def parseExtensions (filter : String) : List String :=
  (Text.splitOn ',' filter.toList).filterMap normalExtension?

/-- How often every extension occurs, in the order of first occurrence. -/
def tally (extensions : List String) : List (String × Nat) :=
  (distinct extensions).map fun e => (e, extensions.count e)

/-- Before another: more frequent, or as frequent and first by name. -/
def countLe (a b : String × Nat) : Bool :=
  b.2 < a.2 || (a.2 == b.2 && stringLe a.1 b.1)

/-- **The histogram of some files** under an extension filter and an exclusion pattern. The empty
filter lets every extension pass. -/
def histogram (files : List FileAt) (filter exclude : String) : List (String × Nat) :=
  let allowed := parseExtensions filter
  let counted := (files.filter fun f => !Exclusion.excludes exclude f.relative).map FileAt.extension
  (tally (counted.filter fun e => allowed.isEmpty || allowed.contains e)).mergeSort countLe

/-- **The files with one of some extensions** that are not excluded. -/
def sources (files : List FileAt) (extensions : List String) (exclude : String) : List FileAt :=
  let wanted := extensions.map Text.lowerString
  files.filter fun f => wanted.contains f.suffix && !Exclusion.excludes exclude f.relative

end Inventory

end SourceAtlas
