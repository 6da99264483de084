import SourceAtlas.Regex.Basic

/-!
# Sets of characters in patterns

A set is written in a pattern as a list of single characters, ranges and classes. What it holds
depends on two things that the place in the pattern fixes: whether case matters, and whether letters
and digits are those of all scripts or the first 128 code points alone. Code points are numbers
here, since a pattern may name one that no text can hold.
-/

namespace SourceAtlas.Regex

/-- How characters are compared at a place in a pattern. -/
structure Alphabet where
  /-- Case does not matter. -/
  ignoreCase : Bool
  /-- Letters, digits and blanks are those among the first 128 code points. -/
  ascii : Bool
  deriving DecidableEq, Repr

/-- Named classes of characters. -/
inductive CharClass where
  | digit
  | blank
  | word
  deriving DecidableEq, Repr

/-- The characters of a class. -/
def CharClass.test (ascii : Bool) : CharClass → Char → Bool
  | .digit => if ascii then Char.isDigit else Text.isDigit
  | .blank => if ascii then Text.isAsciiBlank else Text.isBlank
  | .word => if ascii then Text.isAsciiWord else Text.isWord

/-- Items of a set. -/
inductive SetItem where
  | code (n : Nat)
  | range (low high : Nat)
  | cls (c : CharClass) (negated : Bool)
  deriving DecidableEq, Repr

/-- The lower-case form of a code point, where only the English alphabet has case. -/
def asciiLower (n : Nat) : Nat :=
  if 0x41 ≤ n && n ≤ 0x5a then n + 32 else n

/-- All code points that a code point is equal to. -/
def Alphabet.variants (a : Alphabet) (n : Nat) : List Nat :=
  if a.ignoreCase then
    if a.ascii then
      if 0x41 ≤ n && n ≤ 0x5a then [n, n + 32]
      else if 0x61 ≤ n && n ≤ 0x7a then [n, n - 32]
      else [n]
    else Text.caseVariants n
  else [n]

/-- The code point that stands for all those equal to a given one. -/
def Alphabet.canonical (a : Alphabet) (n : Nat) : Nat :=
  if a.ignoreCase then if a.ascii then asciiLower n else Text.foldCode n else n

/-- The test for one code point. -/
def Alphabet.codeTest (a : Alphabet) (n : Nat) : Char → Bool :=
  let wanted := a.canonical n
  fun c => a.canonical c.toNat == wanted

/-- The test for an item of a set. -/
def SetItem.test (a : Alphabet) : SetItem → Char → Bool
  | .code n => a.codeTest n
  | .range low high => fun c => (a.variants c.toNat).any fun v => low ≤ v && v ≤ high
  | .cls k negated => fun c => k.test a.ascii c != negated

/-- **The test for a set.** -/
def setTest (a : Alphabet) (negated : Bool) (items : List SetItem) : Char → Bool :=
  let tests := items.map (SetItem.test a)
  fun c => (tests.any fun t => t c) != negated

/-- Equality of characters in a repeated group. It goes by lower case alone. -/
def Alphabet.sameRepeated (a : Alphabet) : Char → Char → Bool :=
  if a.ignoreCase then
    if a.ascii then fun x y => asciiLower x.toNat == asciiLower y.toNat
    else fun x y => Text.lower x == Text.lower y
  else fun x y => x == y

end SourceAtlas.Regex
