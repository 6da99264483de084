import SourceAtlas.Limits

/-!
# Reading a document

A cursor stands in a text and knows its line and column. Reading is a computation on the cursor that
may fail. Past the end of a text a cursor sees the null character, which no document may hold.

* `Fault` — why a document has no value;
* `Read` — computations that read;
* `peek`, `forward`, `lineBreak` — the steps of which all others are made.
-/

namespace SourceAtlas.Yaml

/-- **Why a document has no value.** Most faults make the document unreadable; the others are about
a single scalar that has the form of a value and no value. -/
inductive Fault where
  /-- The document breaks the rules of the format. -/
  | unreadable
  /-- A character number above the last character. -/
  | noSuchCharacter
  /-- A character number above what a machine word holds. -/
  | numberTooLarge
  /-- A numeral that is no integer in its base. -/
  | notInteger (base : Nat) (text : List Char)
  /-- An integer with more decimal digits than are read. -/
  | tooManyDigits (count : Nat)
  /-- A numeral that is no number. -/
  | notNumber (text : List Char)
  /-- A number to the base sixty with more places than a floating point number has room for. -/
  | tooManyPlaces
  /-- An empty numeral. -/
  | emptyNumeral
  /-- A word that is no truth value. -/
  | notTruthValue (text : List Char)
  /-- A text that is no date. -/
  | notDate
  /-- A mapping that stands for a date. -/
  | notText
  /-- A year before the first. -/
  | year (year : Nat)
  /-- A month that no year has. -/
  | month
  /-- A day that the month does not have. -/
  | day
  /-- An hour that no day has. -/
  | hour
  /-- A minute that no hour has. -/
  | minute
  /-- A second that no minute has. -/
  | second
  /-- An offset of at least a day from universal time, in seconds. -/
  | offset (seconds : Int)
  /-- Collections nested deeper than they can be read. -/
  | tooDeep
  deriving DecidableEq, Repr

/-- A place in a text. -/
structure Cursor where
  /-- What is still to be read. -/
  rest : List Char
  /-- How many characters have been read. -/
  index : Nat := 0
  /-- How many lines have been read. -/
  line : Nat := 0
  /-- How many characters of the line have been read. -/
  column : Nat := 0

/-- **Computations that read.** -/
abbrev Read := StateT Cursor (Except Fault)

/-- The document is unreadable. -/
def unreadable {α : Type} : Read α :=
  throw .unreadable

/-! ### Classes of characters -/

/-- Ends a line. -/
def isBreak (c : Char) : Bool :=
  c == '\n' || c == '\r' || c == '\u0085' || c == '\u2028' || c == '\u2029'

/-- Ends a line or the text. -/
def isLineEnd (c : Char) : Bool :=
  isBreak c || c == '\x00'

/-- Ends a line or the text, or is a space. -/
def isSpaceOrEnd (c : Char) : Bool :=
  isLineEnd c || c == ' '

/-- Ends a line or the text, or is a space or a tab. -/
def isGap (c : Char) : Bool :=
  isSpaceOrEnd c || c == '\t'

/-- May stand in a document. -/
def isAllowed (c : Char) : Bool :=
  let n := c.toNat
  n == 0x9 || n == 0xa || n == 0xd || (0x20 ≤ n && n ≤ 0x7e) || n == 0x85 ||
    (0xa0 ≤ n && n ≤ 0xd7ff) || (0xe000 ≤ n && n ≤ 0xfffd) || (0x10000 ≤ n && n ≤ 0x10ffff)

/-- May stand in the name of an anchor, a directive or a tag handle. -/
def isNameChar (c : Char) : Bool :=
  c.isAlphanum || c == '-' || c == '_'

/-! ### Steps -/

/-- The cursor after one character. -/
def Cursor.next (k : Cursor) : Cursor :=
  match k.rest with
  | [] => k
  | c :: rest =>
    if isBreak c && !(c == '\r' && rest.head? == some '\n') then
      ⟨rest, k.index + 1, k.line + 1, 0⟩
    else ⟨rest, k.index + 1, k.line, if c == '\ufeff' then k.column else k.column + 1⟩

/-- The cursor after some characters. -/
def Cursor.skip (k : Cursor) : Nat → Cursor
  | 0 => k
  | n + 1 => k.next.skip n

/-- The character some places ahead. -/
def Cursor.ahead (k : Cursor) (n : Nat) : Char :=
  (k.rest.drop n).headD '\x00'

/-- Whether a document marker made of this character stands here: three times, then a gap. -/
def Cursor.atMarker (k : Cursor) (c : Char) : Bool :=
  k.rest.take 3 == [c, c, c] && isGap (k.ahead 3)

/-- Whether a line here would be taken for a document marker. -/
def Cursor.atSeparator (k : Cursor) : Bool :=
  k.atMarker '-' || k.atMarker '.'

/-- The character at the cursor. -/
def peek : Read Char := do
  return (← get).ahead 0

/-- The character some places ahead of the cursor. -/
def peekAt (n : Nat) : Read Char := do
  return (← get).ahead n

/-- Reads some characters. -/
def forward (n : Nat) : Read Unit :=
  modify fun k => k.skip n

/-- Reads the characters of a class. -/
def takeWhile (p : Char → Bool) : Read (List Char) := do
  let k ← get
  let found := k.rest.takeWhile p
  forward found.length
  return found

/-- Reads a line ending, which counts as a newline unless it is a separator of its own. Empty if
there is none. -/
def lineBreak : Read (List Char) := do
  let c ← peek
  if c == '\u2028' || c == '\u2029' then
    forward 1
    return [c]
  else if isBreak c then
    forward (if c == '\r' && (← peekAt 1) == '\n' then 2 else 1)
    return ['\n']
  else return []

/-- Reads spaces and a comment up to the end of the line. -/
def ignoredLine : Read Unit := do
  let _ ← takeWhile (· == ' ')
  if (← peek) == '#' then
    let _ ← takeWhile (!isLineEnd ·)
  if !isLineEnd (← peek) then unreadable
  let _ ← lineBreak

/-- The value of some hexadecimal digits. -/
def hexValue (digits : List Char) : Nat :=
  digits.foldl (fun n c =>
    n * 16 + (if c.isDigit then c.toNat - 48 else if 'a' ≤ c then c.toNat - 87 else c.toNat - 55)) 0

/-- Whether a character is a hexadecimal digit. -/
def isHex (c : Char) : Bool :=
  c.isDigit || ('a' ≤ c && c ≤ 'f') || ('A' ≤ c && c ≤ 'F')

/-- Reads exactly so many hexadecimal digits. -/
def hexDigits (count : Nat) : Read Nat := do
  let digits := (← get).rest.take count
  if digits.length < count || !digits.all isHex then unreadable
  forward count
  return hexValue digits

end SourceAtlas.Yaml
