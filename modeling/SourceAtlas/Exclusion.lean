import SourceAtlas.Regex.Match
import SourceAtlas.Text.Split

/-!
# Excluded paths

An exclusion pattern is read in three ways, and a path is excluded as soon as one of them applies:
as a plain part of the path, segment by segment as globs for whole path segments, and as a glob for
the whole path. In a glob, `*` stands for any run of characters and `?` for any one. Case never
matters, and a backslash counts as a slash.
-/

namespace SourceAtlas.Exclusion

/-- Backslashes become slashes. -/
def slashes (cs : List Char) : List Char :=
  cs.map fun c => if c == '\\' then '/' else c

/-- What one character of a glob stands for. A wildcard never stands for a newline. -/
def globChar (c : Char) : Regex :=
  if c == '*' then Regex.star (Regex.notChar '\n')
  else if c == '?' then Regex.notChar '\n'
  else Regex.litFold c

/-- **The pattern that a glob stands for.** -/
def globRegex (glob : List Char) : Regex :=
  Regex.cat (glob.map globChar)

/-- Whether a segment is made of wildcards only, so that it would match every path. -/
def isWild (segment : List Char) : Bool :=
  segment.all fun c => c == '*' || c == '?'

/-- Whether a glob matches a path segment. A newline that ends the segment may be left over. -/
def matchesSegment (glob segment : List Char) : Bool :=
  (Regex.cat [globRegex glob, .anchor .lastLineEnd]).matchesStart segment

/-- **Whether a path is excluded** by a pattern. The empty pattern excludes nothing. -/
def excludes (pattern path : String) : Bool :=
  let glob := slashes pattern.toList
  let text := slashes path.toList
  !glob.isEmpty &&
    (Text.occursIn (Text.lowerText glob) (Text.lowerText text) ||
      (Text.splitOn '/' glob).any (fun segment =>
        !isWild segment && (Text.splitOn '/' text).any (matchesSegment segment)) ||
      (globRegex glob).matchesWhole text)

end SourceAtlas.Exclusion
