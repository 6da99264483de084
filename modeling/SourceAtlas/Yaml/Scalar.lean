import SourceAtlas.Yaml.Cursor

/-!
# Scalars

The four ways to write a scalar. Line endings in a plain or quoted scalar are folded: a single one
is a space, and of several all but the first are kept. A block scalar keeps its lines, or folds
those that start with text.

* `quotedScalar` — between single or double quotes;
* `plainScalar` — without quotes;
* `blockScalar` — behind a bar or an angle bracket, on the lines below.

Every loop reads at least one character a round, so the length of what is left bounds its rounds.
-/

namespace SourceAtlas.Yaml

/-- Rounds enough for every loop over what is left. -/
def fuel : Read Nat := do
  return (← get).rest.length + 2

/-! ### Quoted scalars -/

/-- What a backslash and a character stand for. -/
def escapeOf? (c : Char) : Option Char :=
  match c with
  | '0' => some '\x00'
  | 'a' => some '\x07'
  | 'b' => some '\x08'
  | 't' | '\t' => some '\t'
  | 'n' => some '\n'
  | 'v' => some '\x0b'
  | 'f' => some '\x0c'
  | 'r' => some '\r'
  | 'e' => some '\x1b'
  | ' ' | '"' | '\\' | '/' => some c
  | 'N' => some '\u0085'
  | '_' => some '\u00a0'
  | 'L' => some '\u2028'
  | 'P' => some '\u2029'
  | _ => none

/-- How many digits a character number has behind this letter. -/
def escapeWidth? (c : Char) : Option Nat :=
  match c with
  | 'x' => some 2
  | 'u' => some 4
  | 'U' => some 8
  | _ => none

/-- The character with a number. -/
def charOf (code : Nat) : Read Char :=
  if 0x7fffffff < code then throw .numberTooLarge
  else if 0x10ffff < code then throw .noSuchCharacter
  else return Char.ofNat code

/-- Empty lines in a quoted scalar. -/
def quotedBreaks : Nat → Read (List Char)
  | 0 => return []
  | n + 1 => do
    if (← get).atSeparator then unreadable
    let _ ← takeWhile fun c => c == ' ' || c == '\t'
    let ending ← lineBreak
    if ending.isEmpty then return []
    return ending ++ (← quotedBreaks n)

/-- Folds a line ending and the empty lines behind it. -/
def folded (ending breaks : List Char) : List Char :=
  if ending != ['\n'] then ending ++ breaks
  else if breaks.isEmpty then [' ']
  else breaks

/-- Blanks in a quoted scalar. -/
def quotedSpaces : Read (List Char) := do
  let blanks ← takeWhile fun c => c == ' ' || c == '\t'
  if (← peek) == '\x00' then unreadable
  let ending ← lineBreak
  if ending.isEmpty then return blanks
  return folded ending (← quotedBreaks (← fuel))

/-- Text without blanks in a quoted scalar. -/
def quotedText (isDouble : Bool) : Nat → Read (List Char)
  | 0 => return []
  | n + 1 => do
    let run ← takeWhile fun c => !isGap c && c != '\'' && c != '"' && c != '\\'
    let c ← peek
    let next ← peekAt 1
    if !isDouble && c == '\'' && next == '\'' then
      forward 2
      return run ++ '\'' :: (← quotedText isDouble n)
    else if (isDouble && c == '\'') || (!isDouble && (c == '"' || c == '\\')) then
      forward 1
      return run ++ c :: (← quotedText isDouble n)
    else if isDouble && c == '\\' then
      forward 1
      match escapeOf? next, escapeWidth? next with
      | some e, _ =>
        forward 1
        return run ++ e :: (← quotedText isDouble n)
      | none, some width =>
        forward 1
        let e ← charOf (← hexDigits width)
        return run ++ e :: (← quotedText isDouble n)
      | none, none =>
        -- an escaped line break joins two lines
        if !isBreak next then unreadable
        let _ ← lineBreak
        let breaks ← quotedBreaks (← fuel)
        return run ++ breaks ++ (← quotedText isDouble n)
    else return run

/-- The parts of a quoted scalar after its first text. -/
def quotedRest (quote : Char) : Nat → Read (List Char)
  | 0 => unreadable
  | n + 1 => do
    if (← peek) == quote then return []
    let spaces ← quotedSpaces
    let text ← quotedText (quote == '"') (← fuel)
    return spaces ++ text ++ (← quotedRest quote n)

/-- **Reads a quoted scalar.** -/
def quotedScalar : Read (List Char) := do
  let quote ← peek
  forward 1
  let first ← quotedText (quote == '"') (← fuel)
  let rest ← quotedRest quote (← fuel)
  forward 1
  return first ++ rest

/-! ### Plain scalars -/

/-- Signs that have a meaning inside brackets. -/
def isFlowSign (c : Char) : Bool :=
  c == ',' || c == '[' || c == ']' || c == '{' || c == '}'

/-- The length of a run of plain text. A colon ends it before a gap, and inside brackets before a
sign too. -/
def plainLength (inFlow : Bool) : List Char → Nat
  | [] => 0
  | c :: cs =>
    let next := cs.headD '\x00'
    if isGap c || (c == ':' && (isGap next || (inFlow && isFlowSign next))) ||
        (inFlow && (isFlowSign c || c == '?')) then 0
    else 1 + plainLength inFlow cs

/-- Empty lines in a plain scalar, or nothing if a document marker follows. -/
def plainBreaks : Nat → Read (Option (List Char))
  | 0 => return some []
  | n + 1 => do
    let c ← peek
    if c == ' ' then
      forward 1
      plainBreaks n
    else
      let ending ← lineBreak
      if ending.isEmpty then return some []
      if (← get).atSeparator then return none
      return (← plainBreaks n).map (ending ++ ·)

/-- Blanks behind plain text, and whether a line ended. -/
def plainSpaces : Read (List Char × Bool) := do
  let spaces ← takeWhile (· == ' ')
  let ending ← lineBreak
  if ending.isEmpty then return (spaces, false)
  if (← get).atSeparator then return ([], true)
  match ← plainBreaks (← fuel) with
  | none => return ([], true)
  | some breaks => return (folded ending breaks, true)

/-- The text of a plain scalar after some blanks, and whether a line ended behind it. -/
def plainText (inFlow : Bool) (indent : Int) (spaces : List Char) (ended : Bool) :
    Nat → Read (List Char × Bool)
  | 0 => return ([], ended)
  | n + 1 => do
    let k ← get
    let length := if k.ahead 0 == '#' then 0 else plainLength inFlow k.rest
    if length = 0 then return ([], ended)
    forward length
    let (behind, lineEnded) ← plainSpaces
    let text := spaces ++ k.rest.take length
    let after ← get
    if behind.isEmpty || after.ahead 0 == '#' || (!inFlow && (after.column : Int) < indent) then
      return (text, lineEnded)
    let (more, moreEnded) ← plainText inFlow indent behind lineEnded n
    return (text ++ more, moreEnded)

/-- **Reads a plain scalar,** which goes on over lines of at least this indentation. The flag says
whether a line ended behind it. -/
def plainScalar (inFlow : Bool) (indent : Int) : Read (List Char × Bool) := do
  plainText inFlow indent [] false (← fuel)

/-! ### Block scalars -/

/-- What becomes of the line endings at the end of a block scalar. -/
inductive Chomping where
  /-- One is kept. -/
  | clip
  /-- None is kept. -/
  | strip
  /-- All are kept. -/
  | keep
  deriving DecidableEq

/-- Reads an indentation from 1 to 9, if one is given. -/
def blockIncrement : Read (Option Nat) := do
  let c ← peek
  if !c.isDigit then return none
  if c == '0' then unreadable
  forward 1
  return some (c.toNat - 48)

/-- Reads a chomping sign, if one is given. -/
def blockChomping : Read (Option Chomping) := do
  let c ← peek
  if c == '+' || c == '-' then
    forward 1
    return some (if c == '+' then .keep else .strip)
  else return none

/-- Reads the header of a block scalar: chomping and indentation in either order. -/
def blockHeader : Read (Chomping × Option Nat) := do
  let first ← blockChomping
  let increment ← blockIncrement
  let second ← if first.isNone && increment.isSome then blockChomping else pure none
  if !isSpaceOrEnd (← peek) then unreadable
  ignoredLine
  return ((first.or second).getD .clip, increment)

/-- Reads spaces up to an indentation. -/
def blockSpaces (indent : Nat) : Nat → Read Unit
  | 0 => return ()
  | n + 1 => do
    let k ← get
    if k.column < indent && k.ahead 0 == ' ' then
      forward 1
      blockSpaces indent n

/-- Reads empty lines up to an indentation. -/
def blockBreaks (indent : Nat) : Nat → Read (List (List Char))
  | 0 => return []
  | n + 1 => do
    blockSpaces indent (← fuel)
    let ending ← lineBreak
    if ending.isEmpty then return []
    return ending :: (← blockBreaks indent n)

/-- Reads the empty lines before the first text, and the deepest indentation among them. -/
def blockIndentation (deepest : Nat) : Nat → Read (List (List Char) × Nat)
  | 0 => return ([], deepest)
  | n + 1 => do
    if (← peek) == ' ' then
      forward 1
      blockIndentation (max deepest (← get).column) n
    else
      let ending ← lineBreak
      if ending.isEmpty then return ([], deepest)
      let (more, depth) ← blockIndentation deepest n
      return (ending :: more, depth)

/-- What a block scalar holds so far: text, the last line ending, and the empty lines behind it. -/
structure BlockText where
  /-- The text. -/
  text : List Char := []
  /-- The last line ending. -/
  ending : List Char := []
  /-- The empty lines behind it. -/
  breaks : List (List Char) := []

/-- Reads the lines of a block scalar. -/
def blockLines (isFolded : Bool) (indent : Nat) (b : BlockText) : Nat → Read BlockText
  | 0 => return b
  | n + 1 => do
    let k ← get
    if k.column != indent || k.ahead 0 == '\x00' then return b
    let startsWithText := k.ahead 0 != ' ' && k.ahead 0 != '\t'
    let line ← takeWhile (!isLineEnd ·)
    let ending ← lineBreak
    let breaks ← blockBreaks indent (← fuel)
    let text := b.text ++ b.breaks.flatten ++ line
    let after ← get
    let next := after.ahead 0
    if after.column != indent || next == '\x00' then return ⟨text, ending, breaks⟩
    -- folding replaces a line break by a blank, unless a line starts with one
    let joint :=
      if isFolded && ending == ['\n'] && startsWithText && next != ' ' && next != '\t' then
        if breaks.isEmpty then [' '] else []
      else ending
    blockLines isFolded indent ⟨text ++ joint, ending, breaks⟩ n

/-- **Reads a block scalar** inside a block of this indentation. -/
def blockScalar (isFolded : Bool) (indent : Int) : Read (List Char) := do
  forward 1
  let (chomping, increment) ← blockHeader
  let least := max 1 (indent + 1).toNat
  let (breaks, depth) ← match increment with
    | none => do
      let (breaks, deepest) ← blockIndentation 0 (← fuel)
      pure (breaks, max least deepest)
    | some n => do
      let depth := least + n - 1
      pure (← blockBreaks depth (← fuel), depth)
  let b ← blockLines isFolded depth { breaks } (← fuel)
  return b.text ++ (if chomping == .strip then [] else b.ending) ++
    (if chomping == .keep then b.breaks.flatten else [])

end SourceAtlas.Yaml
