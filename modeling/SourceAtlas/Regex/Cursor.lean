import SourceAtlas.Regex.Basic

/-!
# Places in a text

A cursor is a place between two characters of a text: what stands before it, nearest first, and what
follows. It also counts both sides, so that offsets and progress are read off without walking the
text again.
-/

namespace SourceAtlas.Regex

/-- A place in a text. -/
structure Cursor where
  /-- The characters before the place, nearest first. -/
  before : List Char
  /-- The characters after the place. -/
  after : List Char
  /-- How many characters stand before the place. -/
  pos : Nat
  /-- How many characters follow. -/
  left : Nat
  deriving DecidableEq, Repr

namespace Cursor

/-- The start of a text. -/
def start (text : List Char) : Cursor :=
  { before := [], after := text, pos := 0, left := text.length }

/-- The next character and the place behind it. -/
def next? (c : Cursor) : Option (Char × Cursor) :=
  match c.after with
  | [] => none
  | ch :: rest =>
    some (ch, { before := ch :: c.before, after := rest, pos := c.pos + 1, left := c.left - 1 })

/-- The place one character earlier. -/
def prev? (c : Cursor) : Option Cursor :=
  match c.before with
  | [] => none
  | ch :: rest =>
    some { before := rest, after := ch :: c.after, pos := c.pos - 1, left := c.left + 1 }

/-- The place `n` characters earlier. -/
def back? : Nat → Cursor → Option Cursor
  | 0, c => some c
  | n + 1, c => c.prev?.bind (back? n)

/-- The characters from one place to a later one. -/
def textTo (c stop : Cursor) : List Char :=
  c.after.take (stop.pos - c.pos)

/-- Reads a text at a place, up to an equivalence of characters. -/
def read? (same : Char → Char → Bool) : List Char → Cursor → Option Cursor
  | [], c => some c
  | w :: ws, c =>
    match c.next? with
    | some (ch, c') => if same w ch then read? same ws c' else none
    | none => none

/-- Whether a position test holds at a place. -/
def satisfies (c : Cursor) : Anchor → Bool
  | .textStart => c.before.isEmpty
  | .textEnd => c.after.isEmpty
  | .lastLineEnd => c.after.isEmpty || c.after == ['\n']
  | .lineStart => c.before.isEmpty || c.before.head? == some '\n'
  | .lineEnd => c.after.isEmpty || c.after.head? == some '\n'
  | .wordBoundary isWord => c.before.head?.any isWord != c.after.head?.any isWord
  | .noWordBoundary isWord =>
    (!c.before.isEmpty || !c.after.isEmpty) &&
      (c.before.head?.any isWord == c.after.head?.any isWord)

end Cursor

end SourceAtlas.Regex
