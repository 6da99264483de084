import SourceAtlas.Text.Case
import SourceAtlas.Text.Split

/-!
# Paths

A path is a start and a list of names. Empty names and single dots are dropped when a path is read;
double dots stay, since what they mean depends on the file system. The extension of a path is what
follows the last dot of its last name, unless that dot opens or closes the name.
-/

namespace SourceAtlas

/-- Where a path starts. -/
inductive PathStart where
  /-- The current directory. -/
  | relative
  /-- The root of the file system. -/
  | absolute
  /-- A root written with two slashes, which is kept apart. -/
  | doubleSlash
  deriving DecidableEq, Repr

/-- **Paths.** -/
structure Path where
  /-- Where it starts. -/
  start : PathStart
  /-- The names on it. -/
  parts : List String
  deriving DecidableEq, Repr

namespace Path

/-- Where a path text starts. -/
def startOf : List Char → PathStart
  | '/' :: '/' :: '/' :: _ => .absolute
  | '/' :: '/' :: _ => .doubleSlash
  | '/' :: _ => .absolute
  | _ => .relative

/-- **Reads a path.** -/
def ofString (s : String) : Path :=
  { start := startOf s.toList
    parts := ((Text.splitOn '/' s.toList).filter fun p => p ≠ [] ∧ p ≠ ['.']).map String.ofList }

/-- The text of a path's start. -/
def startText : PathStart → String
  | .relative => ""
  | .absolute => "/"
  | .doubleSlash => "//"

/-- **Writes a path.** The empty relative path is a single dot. -/
def toString (p : Path) : String :=
  if p.start = .relative ∧ p.parts = [] then "."
  else startText p.start ++ Text.joinWith "/" p.parts

/-- The last name of a path, or nothing. -/
def name (p : Path) : String :=
  p.parts.getLast?.getD ""

/-- A name cut before its last dot, unless that dot opens or closes the name. -/
def cutName (name : List Char) : List Char × List Char :=
  let ending := (name.reverse.takeWhile (· ≠ '.')).reverse
  let before := name.length - ending.length
  if 1 < before ∧ ending ≠ [] then (name.take (before - 1), '.' :: ending) else (name, [])

/-- The extension of a path with its dot, or nothing. -/
def suffix (p : Path) : String :=
  String.ofList (cutName p.name.toList).2

/-- The last name of a path without its extension. -/
def stem (p : Path) : String :=
  String.ofList (cutName p.name.toList).1

/-- A path behind another; an absolute path stands for itself. -/
def join (p q : Path) : Path :=
  match q.start with
  | .relative => { p with parts := p.parts ++ q.parts }
  | _ => q

/-- A name behind a path. -/
def child (p : Path) (name : String) : Path :=
  { p with parts := p.parts ++ [name] }

/-- What stands for the extension of a file that has none. -/
def noExtension : String := "(no extension)"

/-- **The extension of a file in lower case.** -/
def extension (p : Path) : String :=
  let s := Text.lowerString p.suffix
  if s = "" then noExtension else s

end Path

end SourceAtlas
