import SourceAtlas.Regex.Reading

/-!
# Scopes and parts of a pattern text

A scope is what the flags say at a place in a pattern text. A part is what has been read of it: a
pattern, its width, and faults that are reported only when the whole text has been read, so that a
mistake of notation further on comes first. A piece is a part in a sequence; it also knows whether a
repetition may stand behind it.
-/

namespace SourceAtlas.Regex.Reader

/-- What the flags say at a place in a pattern. -/
structure Scope where
  /-- How characters are compared. -/
  alphabet : Alphabet
  /-- Line anchors hold at every line. -/
  multiline : Bool
  /-- The dot matches newlines too. -/
  dotAll : Bool
  /-- Blanks and comments in the pattern are left out. -/
  verbose : Bool
  deriving DecidableEq, Repr

/-- The scope of a whole pattern with given flags. -/
def Scope.ofFlags (flags : List Flag) : Scope :=
  { alphabet := ⟨flags.contains .ignoreCase, flags.contains .ascii⟩
    multiline := flags.contains .multiline
    dotAll := flags.contains .dotAll
    verbose := flags.contains .verbose }

/-- The scope inside a group that turns flags on and off. -/
def Scope.change (s : Scope) (on off : List Flag) : Scope :=
  let update (f : Flag) (old : Bool) : Bool := (old || on.contains f) && !off.contains f
  { alphabet :=
      { ignoreCase := update .ignoreCase s.alphabet.ignoreCase
        ascii := if on.any Flag.isAlphabet then on.contains .ascii else s.alphabet.ascii }
    multiline := update .multiline s.multiline
    dotAll := update .dotAll s.dotAll
    verbose := update .verbose s.verbose }

/-! ### Parts of patterns -/

/-- A part of a pattern: its meaning, its width, and the faults to report when all is read. -/
structure Part where
  /-- The pattern. -/
  node : Regex
  /-- How many characters it matches. -/
  width : Width
  /-- Faults to report at the end. -/
  late : List Fault

/-- Roles of a part in a sequence, as far as a repetition behind it cares. -/
inductive Role where
  | item
  | anchor
  | repetition
  deriving DecidableEq, Repr

/-- A part of a sequence. -/
structure Piece extends Part where
  /-- Its role. -/
  role : Role

/-- Keeps a width within the bound. -/
def Width.bounded (w : Width) : Width :=
  ⟨min w.low limit, min w.high limit⟩

/-- The sequence of some pieces, given in reverse order. -/
def Part.ofPieces (pieces : List Piece) : Part :=
  let ps := pieces.reverse
  { node := cat (ps.map fun p => p.node)
    width := Width.bounded
      ⟨ps.foldr (fun p total => p.width.low + total) 0,
        ps.foldr (fun p total => p.width.high + total) 0⟩
    late := ps.flatMap fun p => p.late }

/-- The ordered choice of some parts. -/
def Part.ofBranches : List Part → Part
  | [] => ⟨.empty, ⟨0, 0⟩, []⟩
  | [p] => p
  | p :: ps =>
    { node := oneOf ((p :: ps).map Part.node)
      width := ps.foldl (fun w q => ⟨min w.low q.width.low, max w.high q.width.high⟩) p.width
      late := (p :: ps).flatMap Part.late }

/-- One character with a test. -/
def charPiece (test : Char → Bool) : Piece :=
  { node := .char test, width := ⟨1, 1⟩, late := [], role := .item }

/-- One given code point. -/
def codePiece (scope : Scope) (n : Nat) : Piece :=
  charPiece (scope.alphabet.codeTest n)

/-- A position test. -/
def anchorPiece (a : Anchor) : Piece :=
  { node := .anchor a, width := ⟨0, 0⟩, late := [], role := .anchor }

/-- A class of characters. -/
def classPiece (scope : Scope) (c : CharClass) (negated : Bool) : Piece :=
  charPiece (setTest scope.alphabet false [.cls c negated])

/-- A part as an item. -/
def Part.piece (p : Part) : Piece :=
  { p with role := .item }

end SourceAtlas.Regex.Reader
