import SourceAtlas.Regex.Scope
import SourceAtlas.Text.Names

/-!
# Escapes and sets in a pattern text

An escape stands for a code point, a class of characters, a position test or a group, and the
readings differ inside and outside of sets. A set lists code points, ranges and classes.
-/

namespace SourceAtlas.Regex.Reader

/-- Hexadecimal digits. -/
def isHexDigit (c : Char) : Bool :=
  c.isDigit || ('a' ≤ c && c ≤ 'f') || ('A' ≤ c && c ≤ 'F')

/-- Octal digits. -/
def isOctalDigit (c : Char) : Bool :=
  '0' ≤ c && c ≤ '7'

/-- The number that digits of a base spell; digits beyond nine are letters. -/
def numberOf (base : Nat) (cs : List Char) : Nat :=
  cs.foldl (fun n c =>
    let v := c.toNat
    let d := if v < 0x3a then v - 0x30 else if v < 0x61 then v - 0x41 + 10 else v - 0x61 + 10
    base * n + d) 0

/-- Escapes for single control characters. -/
def controlCode? : Char → Option Nat
  | 'a' => some 7
  | 'f' => some 12
  | 'n' => some 10
  | 'r' => some 13
  | 't' => some 9
  | 'v' => some 11
  | '\\' => some 92
  | _ => none

/-- Escapes for classes of characters. -/
def classOf? : Char → Option (CharClass × Bool)
  | 'd' => some (.digit, false)
  | 'D' => some (.digit, true)
  | 's' => some (.blank, false)
  | 'S' => some (.blank, true)
  | 'w' => some (.word, false)
  | 'W' => some (.word, true)
  | _ => none

/-- A code point in hexadecimal digits, of which there have to be `digits` many. -/
def hexEscape (c : Char) (digits : Nat) : Reads Nat := do
  let ds ← takeWhile isHexDigit digits
  let escape := '\\' :: c :: ds
  if ds.length ≠ digits then refuse (.incompleteEscape escape) escape.length
  else
    let n := numberOf 16 ds
    if 0x10ffff < n then refuse (.badEscape escape) escape.length else return n

/-- A code point by name. -/
def namedEscape : Reads Nat := do
  if ← accept '{' then
    let n ← name '}' "character name"
    match Text.codeNamed? n with
    | some code => return code
    | none => refuse (.undefinedCharacterName n) (n.length + 4)
  else refuse (.missing "\x7b") 0

/-- Escapes for code points that are written alike inside and outside of sets. -/
def codeEscape? (c : Char) : Option (Reads Nat) :=
  if c = 'x' then some (hexEscape c 2)
  else if c = 'u' then some (hexEscape c 4)
  else if c = 'U' then some (hexEscape c 8)
  else if c = 'N' then some namedEscape
  else none

/-- An escaped character that stands for itself; letters are kept for other uses. -/
def selfEscape (c : Char) : Reads Nat :=
  if c.isAlpha then refuse (.badEscape ['\\', c]) 2 else return c.toNat

/-- An octal escape that may not exceed a byte. -/
def byteEscape (ds : List Char) : Reads Nat := do
  let n := numberOf 8 ds
  if 0o377 < n then refuse (.octalTooLarge ('\\' :: ds)) (ds.length + 1) else return n

/-- An escape inside a set. -/
def setEscape (c : Char) : Reads SetItem := do
  if c = 'b' then return .code 8
  else
    match controlCode? c with
    | some n => return .code n
    | none =>
      match classOf? c with
      | some (k, negated) => return .cls k negated
      | none =>
        match codeEscape? c with
        | some read => return .code (← read)
        | none =>
          if isOctalDigit c then return .code (← byteEscape (c :: (← takeWhile isOctalDigit 2)))
          else if c.isDigit then refuse (.badEscape ['\\', c]) 2
          else return .code (← selfEscape c)

/-- A reference to a group by number. -/
def groupReference (scope : Scope) (index back : Nat) : Reads Piece := do
  let r ← get
  if !r.isClosed index then refuse .openGroup back
  else
    requireBefore index
    return { node := .backref index scope.alphabet.sameRepeated, width := r.widthOf index,
             late := [], role := .item }

/-- An escape that starts with a digit other than zero: three octal digits, or else the number of a
group. -/
def digitEscape (scope : Scope) (c : Char) : Reads Piece := do
  let isNext (p : Char → Bool) (t : Option Token) : Bool :=
    match t with
    | some (.plain d) => p d
    | _ => false
  let second ← takeWhile Char.isDigit 1
  if isOctalDigit c && second.any isOctalDigit && isNext isOctalDigit (← get).next then
    let third ← takeWhile isOctalDigit 1
    return codePiece scope (← byteEscape (c :: second ++ third))
  else
    let ds := c :: second
    let index := numberOf 10 ds
    if index < (← get).groupCount then groupReference scope index (ds.length + 1)
    else refuse (.invalidGroupReference index) ds.length

/-- The word test of a scope. -/
def Scope.isWord (scope : Scope) : Char → Bool :=
  CharClass.word.test scope.alphabet.ascii

/-- **An escape outside of sets.** -/
def escape (scope : Scope) (c : Char) : Reads Piece := do
  match c with
  | 'A' => return anchorPiece .textStart
  | 'Z' => return anchorPiece .textEnd
  | 'b' => return anchorPiece (.wordBoundary scope.isWord)
  | 'B' => return anchorPiece (.noWordBoundary scope.isWord)
  | c =>
    match classOf? c with
    | some (k, negated) => return classPiece scope k negated
    | none =>
      match controlCode? c with
      | some n => return codePiece scope n
      | none =>
        match codeEscape? c with
        | some read => return codePiece scope (← read)
        | none =>
          if c = '0' then
            return codePiece scope (numberOf 8 (c :: (← takeWhile isOctalDigit 2)))
          else if c.isDigit then digitEscape scope c
          else return codePiece scope (← selfEscape c)

/-! ### Sets -/

/-- The items of a set up to its closing bracket; `here` is the offset of the opening one. -/
def setItems (here : Nat) (items : List SetItem) : Nat → Reads (List SetItem)
  | 0 => refuse .unexpectedEnd 0
  | n + 1 => do
    let unterminated {α : Type} : Reads α := do refuse .unterminatedSet ((← get).pos - here)
    let itemOf (t : Token) : Reads SetItem :=
      match t with
      | .escaped c => setEscape c
      | .plain c => return .code c.toNat
    match ← take with
    | none => unterminated
    | some this =>
      -- a bracket right behind the opening one stands for itself
      if this = .plain ']' && !items.isEmpty then return items
      else
        let low ← itemOf this
        if ← accept '-' then
          match ← take with
          | none => unterminated
          | some that =>
            -- a dash at the end stands for itself
            if that = .plain ']' then return items ++ [low, .code '-'.toNat]
            else
              let high ← itemOf that
              match low, high with
              | .code l, .code h =>
                if h < l then
                  refuse (.badRange this.text that.text)
                    (this.text.length + 1 + that.text.length)
                else setItems here (items ++ [.range l h]) n
              | _, _ =>
                refuse (.badRange this.text that.text) (this.text.length + 1 + that.text.length)
        else setItems here (items ++ [low]) n

/-- **A set** whose opening bracket was just taken. -/
def charSet (scope : Scope) : Reads Piece := do
  let here := (← get).pos - 1
  let negated ← accept '^'
  let items ← setItems here [] ((← get).rest.length + 3)
  return charPiece (setTest scope.alphabet negated items)

end SourceAtlas.Regex.Reader
