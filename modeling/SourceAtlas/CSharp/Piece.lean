import SourceAtlas.CSharp.Node
import SourceAtlas.CSharp.Token

/-!
# Bracketed pieces

Between tokens and syntax trees stand pieces: a piece is a token or a whole bracketed group. A group
of braces or a conditional section also carries the declarations found in it, since groups are
closed from the inside out.

* `Piece` — a token or a group;
* `items` — the pieces of a group, cut into declarations;
* `splitType` — the longest type at the start of some pieces.
-/

namespace SourceAtlas.CSharp

/-- What encloses a group. -/
inductive Bracket where
  | brace
  | paren
  | square
  | conditional
  deriving DecidableEq, Repr

/-- The group that a token opens. -/
def Bracket.ofOpener? (t : Token) : Option Bracket :=
  if t.isSign "\x7b" then some .brace
  else if t.isSign "(" then some .paren
  else if t.isSign "[" then some .square
  else if t.kind == .condition then some .conditional
  else none

/-- Whether a token closes a group. -/
def Bracket.isClosedBy (b : Bracket) (t : Token) : Bool :=
  match b with
  | .brace => t.isSign "\x7d"
  | .paren => t.isSign ")"
  | .square => t.isSign "]"
  | .conditional => t.kind == .conditionEnd

/-- **A token or a bracketed group.** -/
inductive Piece where
  | token (t : Token)
  | group (bracket : Bracket) (before text : List Char) (inside : List Piece) (declared : List Node)

namespace Piece

/-- What stands in front of a piece. -/
def before : Piece → List Char
  | .token t => t.before
  | .group _ b _ _ _ => b

/-- A piece as written. -/
def text : Piece → List Char
  | .token t => t.text
  | .group _ _ t _ _ => t

/-- Whether a piece is the sign with this text. -/
def isSign (p : Piece) (text : String) : Bool :=
  match p with
  | .token t => t.isSign text
  | .group .. => false

/-- Whether a piece is a word. -/
def isWord : Piece → Bool
  | .token t => t.kind == .word
  | .group .. => false

/-- Whether a piece is one of these words. -/
def isOneOf (p : Piece) (words : List String) : Bool :=
  match p with
  | .token t => t.kind == .word && words.contains (String.ofList t.text)
  | .group .. => false

/-- Whether a piece opens another branch of a conditional section. -/
def isAlternative : Piece → Bool
  | .token t => t.kind == .alternative
  | .group .. => false

/-- Whether a piece is a group in these brackets. -/
def isGroup (p : Piece) (b : Bracket) : Bool :=
  match p with
  | .token _ => false
  | .group b' .. => b == b'

/-- The pieces inside a group. -/
def inside : Piece → List Piece
  | .token _ => []
  | .group _ _ _ ps _ => ps

/-- The declarations inside a group. -/
def declared : Piece → List Node
  | .token _ => []
  | .group _ _ _ _ ns => ns

end Piece

/-- The text of some pieces, with what stands in front of the first. -/
def written (ps : List Piece) : List Char :=
  ps.flatMap fun p => p.before ++ p.text

/-- **The text that some pieces cover.** -/
def covered : List Piece → String
  | [] => ""
  | p :: ps => String.ofList (p.text ++ written ps)

/-! ### Cutting a group into declarations -/

/-- Where the reader stands in a declaration. -/
inductive Stretch where
  /-- Before any value, where a body in braces ends the declaration. -/
  | head
  /-- In the name of an operator, which may hold the signs of a value. -/
  | operatorName
  /-- In a value, which only a semicolon ends. -/
  | value
  deriving DecidableEq

/-- Closes the current declaration, unless it is empty. -/
def endItem (current : List Piece) (rest : List (List Piece)) : List (List Piece) :=
  if current.isEmpty then rest else current.reverse :: rest

/-- The declarations in some pieces, after those of the current one, latest first. A semicolon ends
a declaration, and so does a body in braces, unless it stands in a value or a value follows it. -/
def itemsFrom (current : List Piece) (at_ : Stretch) : List Piece → List (List Piece)
  | [] => endItem current []
  | p :: ps =>
    if p.isSign ";" then endItem (p :: current) (itemsFrom [] .head ps)
    else if p.isAlternative then
      endItem current (itemsFrom [] .head ps)
    else if current.isEmpty && p.isGroup .conditional then [p] :: itemsFrom [] .head ps
    else
      match at_ with
      | .value => itemsFrom (p :: current) .value ps
      | .operatorName =>
        itemsFrom (p :: current) (if p.isGroup .paren then .head else .operatorName) ps
      | .head =>
        -- braces end a declaration, unless they are accessors with a value behind
        if p.isGroup .brace then
          if ps.head?.any (fun q : Piece => q.isSign "=") then itemsFrom (p :: current) .value ps
          else endItem (p :: current) (itemsFrom [] .head ps)
        else if p.isSign "=" || p.isSign "=>" then itemsFrom (p :: current) .value ps
        else if p.isOneOf ["operator"] then itemsFrom (p :: current) .operatorName ps
        else itemsFrom (p :: current) .head ps

/-- **The declarations in some pieces,** each as the pieces it is made of. -/
def items (ps : List Piece) : List (List Piece) :=
  itemsFrom [] .head ps

/-! ### Types -/

/-- Where the reader stands in a type. -/
inductive TypeState where
  /-- A name or a tuple must follow. -/
  | opens
  /-- The type is complete, though it may go on. -/
  | complete
  /-- After `delegate`. -/
  | delegateWord
  /-- After `delegate *`, where a calling convention may follow. -/
  | pointer
  deriving DecidableEq

/-- Reads one more piece of a type inside so many angle brackets, or says that the type ends
before. -/
def typeStep (depth : Nat) (s : TypeState) (p : Piece) : Option (Nat × TypeState) :=
  if p.isSign "<" && s != .opens then some (depth + 1, .complete)
  else if p.isSign ">" then if depth = 0 then none else some (depth - 1, .complete)
  else if 0 < depth then some (depth, .complete)
  else if p.isWord then
    match s with
    | .opens =>
      some (0, if p.isOneOf ["ref", "readonly", "scoped"] then .opens
        else if p.isOneOf ["delegate"] then .delegateWord else .complete)
    | .pointer => if p.isOneOf ["managed", "unmanaged"] then some (0, .complete) else none
    | _ => none
  else if p.isSign "." || p.isSign "::" then some (0, .opens)
  else if s == .delegateWord then if p.isSign "*" then some (0, .pointer) else none
  else if s == .opens then if p.isGroup .paren then some (0, .complete) else none
  else if p.isSign "?" || p.isSign "*" || p.isGroup .square then some (0, .complete)
  else none

/-- Cuts some pieces behind the type that they go on with. -/
def splitTypeFrom (depth : Nat) (s : TypeState) : List Piece → List Piece × List Piece
  | [] => ([], [])
  | p :: ps =>
    match typeStep depth s p with
    | none => ([], p :: ps)
    | some (depth', s') =>
      let (type, rest) := splitTypeFrom depth' s' ps
      (p :: type, rest)

/-- **Cuts some pieces behind the type they start with.** -/
def splitType (ps : List Piece) : List Piece × List Piece :=
  splitTypeFrom 0 .opens ps

/-- The pieces outside all angle brackets. -/
def outsideAngles (depth : Nat) : List Piece → List Piece
  | [] => []
  | p :: ps =>
    if p.isSign "<" then outsideAngles (depth + 1) ps
    else if p.isSign ">" then outsideAngles (depth - 1) ps
    else if depth = 0 then p :: outsideAngles 0 ps
    else outsideAngles depth ps

/-- Cuts the inside of a parameter list at its commas. Angle brackets hide a comma, except in a
default value, where they compare. -/
def splitCommas (depth : Nat) (inValue : Bool) (current : List Piece) :
    List Piece → List (List Piece)
  | [] => endItem current []
  | p :: ps =>
    if p.isSign "," && depth = 0 then endItem current (splitCommas 0 false [] ps)
    else if inValue then splitCommas 0 true (p :: current) ps
    else if p.isSign "=" then splitCommas 0 true (p :: current) ps
    else if p.isSign "<" then splitCommas (depth + 1) false (p :: current) ps
    else if p.isSign ">" then splitCommas (depth - 1) false (p :: current) ps
    else splitCommas depth false (p :: current) ps

end SourceAtlas.CSharp
