import SourceAtlas.Text.Blank
import SourceAtlas.Text.Case
import SourceAtlas.Text.Word

/-!
# Patterns

The abstract form of a search pattern. A pattern consumes characters one test at a time, so every
node that reads the text carries a predicate on characters; case folding, character classes and
flags have been resolved into these predicates by whoever built the pattern. The other nodes are the
control structure of backtracking search: sequence, ordered choice, repetition in three modes,
groups that remember what they matched, look-around, and tests of a position.

The constructors below the type are the vocabulary in which the pattern tables are written.
-/

namespace SourceAtlas

/-- How a repetition orders its choices. -/
inductive Greed where
  /-- As many as possible first, giving back one at a time. -/
  | greedy
  /-- As few as possible first. -/
  | reluctant
  /-- As many as possible, giving nothing back. -/
  | possessive
  deriving DecidableEq, Repr

/-- Tests of a position that consume nothing. -/
inductive Anchor where
  /-- The start of the text. -/
  | textStart
  /-- The end of the text. -/
  | textEnd
  /-- The end of the text, or just before a newline that ends it. -/
  | lastLineEnd
  /-- The start of a line. -/
  | lineStart
  /-- The end of a line. -/
  | lineEnd
  /-- A place where a word character and something else meet. -/
  | wordBoundary (isWord : Char → Bool)
  /-- A place inside a word or outside all words. Holds nowhere in the empty text. -/
  | noWordBoundary (isWord : Char → Bool)

/-- **Patterns.** -/
inductive Regex where
  /-- Matches nothing, and so everywhere. -/
  | empty
  /-- One character that passes a test. -/
  | char (test : Char → Bool)
  /-- One pattern and then the other. -/
  | seq (first second : Regex)
  /-- The first pattern, and the second where the first leads nowhere. -/
  | alt (first second : Regex)
  /-- At least `least` and at most `most` times; no `most` means no bound. -/
  | rep (mode : Greed) (least : Nat) (most : Option Nat) (body : Regex)
  /-- Remembers what the body matched, under a number. -/
  | group (index : Nat) (body : Regex)
  /-- Matches the body in its first way only. -/
  | atomic (body : Regex)
  /-- Tests what follows. -/
  | ahead (positive : Bool) (body : Regex)
  /-- Tests the `width` characters that precede. -/
  | behind (positive : Bool) (width : Nat) (body : Regex)
  /-- What a group matched, up to an equivalence of characters. -/
  | backref (index : Nat) (same : Char → Char → Bool)
  /-- One of two patterns, depending on whether a group has matched. -/
  | ifGroup (index : Nat) (yes no : Regex)
  /-- A test of the position. -/
  | anchor (test : Anchor)

namespace Regex

/-- One given character. -/
def lit (c : Char) : Regex :=
  .char (· == c)

/-- One given character, up to case. -/
def litFold (c : Char) : Regex :=
  .char (Text.sameFold c)

/-- Patterns one after the other. -/
def cat : List Regex → Regex
  | [] => .empty
  | [r] => r
  | r :: rs => .seq r (cat rs)

/-- The first of several patterns that leads on. -/
def oneOf : List Regex → Regex
  | [] => .char fun _ => false
  | [r] => r
  | r :: rs => .alt r (oneOf rs)

/-- The characters of a text in order. -/
def text (s : String) : Regex :=
  cat (s.toList.map lit)

/-- The characters of a text in order, up to case. -/
def textFold (s : String) : Regex :=
  cat (s.toList.map litFold)

/-- Any number of times, as often as possible. -/
def star (r : Regex) : Regex :=
  .rep .greedy 0 none r

/-- At least once, as often as possible. -/
def plus (r : Regex) : Regex :=
  .rep .greedy 1 none r

/-- Once if possible. -/
def opt (r : Regex) : Regex :=
  .rep .greedy 0 (some 1) r

/-- Any number of times, as seldom as possible. -/
def starFew (r : Regex) : Regex :=
  .rep .reluctant 0 none r

/-- At least once, as seldom as possible. -/
def plusFew (r : Regex) : Regex :=
  .rep .reluctant 1 none r

/-- One blank character. -/
def blank : Regex :=
  .char Text.isBlank

/-- Any number of blank characters. -/
def blanks : Regex :=
  star blank

/-- At least one blank character. -/
def gap : Regex :=
  plus blank

/-- A word boundary. -/
def boundary : Regex :=
  .anchor (.wordBoundary Text.isWord)

/-- One character other than the given one. -/
def notChar (c : Char) : Regex :=
  .char (· != c)

end Regex

end SourceAtlas
