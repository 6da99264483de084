/-!
# Sets of code points as ranges

A character class of a standard is a set of code points. It is written as an array of closed ranges,
and membership is read off the ranges.
-/

namespace SourceAtlas.Text

/-- A set of code points, given by closed ranges. -/
abbrev Ranges := Array (Nat × Nat)

/-- Membership of a code point. -/
def Ranges.hasCode (r : Ranges) (n : Nat) : Bool :=
  r.any fun p => p.1 ≤ n && n ≤ p.2

/-- Membership of a character. -/
def Ranges.has (r : Ranges) (c : Char) : Bool :=
  r.hasCode c.toNat

end SourceAtlas.Text
