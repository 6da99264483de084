import SourceAtlas.Text.Utf8
import SourceAtlas.Yaml.Scalar

/-!
# Tokens

The tokens of a document, with its layout made explicit: blocks that start and end by indentation
get tokens of their own, and a key that is only recognised by the colon behind it gets its mark in
front. Tokens are appended as they are read; the marks of such keys are kept apart and put in their
places when all has been read.

* `Token` — brackets, marks, scalars and their properties;
* `Layout` — the state of reading: indentation, open brackets, and what may still turn out to be a
  key;
* `tokens` — the tokens of a document, and the fault that ended reading, if there was one.
-/

namespace SourceAtlas.Yaml

/-- **Tokens.** -/
inductive Token where
  | streamEnd
  /-- `%YAML` with the major version. -/
  | version (major : Nat)
  /-- `%TAG` with a handle and what it stands for. -/
  | handle (name meaning : List Char)
  /-- Another directive. -/
  | directive
  | documentStart
  | documentEnd
  | blockSequenceStart
  | blockMappingStart
  | blockEnd
  | flowSequenceStart
  | flowSequenceEnd
  | flowMappingStart
  | flowMappingEnd
  | blockEntry
  | flowEntry
  | key
  | value
  | alias (name : List Char)
  | anchor (name : List Char)
  /-- A tag: a handle, if it has one, and the rest. -/
  | tag (handle : Option (List Char)) (suffix : List Char)
  | scalar (text : List Char) (isPlain : Bool)
  deriving DecidableEq, Repr

/-! ### Names, tags and directives -/

/-- Reads a name that is not empty. -/
def name : Read (List Char) := do
  let found ← takeWhile isNameChar
  if found.isEmpty then unreadable
  return found

/-- Reads the name of an anchor or alias behind its sign. -/
def anchorName : Read (List Char) := do
  forward 1
  let found ← name
  let c ← peek
  if !isGap c && !"?:,]\x7d%@\x60".toList.contains c then unreadable
  return found

/-- Reads a tag handle: an exclamation mark, and a name between two of them. -/
def tagHandle : Read (List Char) := do
  if (← peek) != '!' then unreadable
  if (← peekAt 1) == ' ' then
    forward 1
    return ['!']
  forward 1
  let found ← takeWhile isNameChar
  if (← peek) != '!' then unreadable
  forward 1
  return '!' :: found ++ ['!']

/-- May stand in a tag. -/
def isTagChar (c : Char) : Bool :=
  c.isAlphanum || "-;/?:@&=+$,_.!~*'()[]".toList.contains c

/-- Reads bytes that are written as percent signs and digits. -/
def tagBytes : Nat → Read (List UInt8)
  | 0 => return []
  | n + 1 => do
    if (← peek) != '%' then return []
    forward 1
    let byte ← hexDigits 2
    return UInt8.ofNat byte :: (← tagBytes n)

/-- Reads the rest of a tag. -/
def tagText : Nat → Read (List Char)
  | 0 => return []
  | n + 1 => do
    let run ← takeWhile isTagChar
    if (← peek) != '%' then return run
    match Text.decode (← tagBytes (← fuel)) with
    | .error _ => unreadable
    | .ok text => return run ++ text ++ (← tagText n)

/-- Reads the rest of a tag, which is not empty. -/
def tagSuffix : Read (List Char) := do
  let start := (← get).index
  let text ← tagText (← fuel)
  if (← get).index == start then unreadable
  return text

/-- Whether a tag starts with a handle: another exclamation mark follows before the next space. -/
def hasHandle (cs : List Char) : Bool :=
  (cs.takeWhile (!isSpaceOrEnd ·)).contains '!'

/-- Reads a tag. -/
def tagToken : Read Token := do
  let next ← peekAt 1
  let token ←
    if next == '<' then do
      forward 2
      let suffix ← tagSuffix
      if (← peek) != '>' then unreadable
      forward 1
      pure (Token.tag none suffix)
    else if isGap next then do
      forward 1
      pure (Token.tag none ['!'])
    else if hasHandle ((← get).rest.drop 1) then do
      let handle ← tagHandle
      pure (Token.tag (some handle) (← tagSuffix))
    else do
      forward 1
      pure (Token.tag (some ['!']) (← tagSuffix))
  if !isSpaceOrEnd (← peek) then unreadable
  return token

/-- Reads a decimal number, which must not be too long. -/
def decimal : Read Nat := do
  let digits ← takeWhile Char.isDigit
  if digits.isEmpty then unreadable
  if digitLimit < digits.length then throw (.tooManyDigits digits.length)
  return digits.foldl (fun n c => n * 10 + (c.toNat - 48)) 0

/-- Reads what stands behind the name of a directive. -/
def directiveValue (directive : String) : Read Token := do
  match directive with
  | "YAML" =>
    let _ ← takeWhile (· == ' ')
    let major ← decimal
    if (← peek) != '.' then unreadable
    forward 1
    let _ ← decimal
    if !isSpaceOrEnd (← peek) then unreadable
    return .version major
  | "TAG" =>
    let _ ← takeWhile (· == ' ')
    let handle ← tagHandle
    if (← peek) != ' ' then unreadable
    let _ ← takeWhile (· == ' ')
    let meaning ← tagSuffix
    if !isSpaceOrEnd (← peek) then unreadable
    return .handle handle meaning
  | _ =>
    let _ ← takeWhile (!isLineEnd ·)
    return .directive

/-- Reads a directive. -/
def directiveToken : Read Token := do
  forward 1
  let found ← name
  if !isSpaceOrEnd (← peek) then unreadable
  let token ← directiveValue (String.ofList found)
  ignoredLine
  return token

/-! ### Layout -/

/-- What may turn out to be a key. -/
structure KeyCandidate where
  /-- How many tokens stand before it. -/
  position : Nat
  /-- Whether nothing else can stand there. -/
  isRequired : Bool
  /-- Where it starts: characters before it. -/
  index : Nat
  /-- Its line. -/
  line : Nat
  /-- Its column. -/
  column : Nat

/-- A key that was recognised: where its mark belongs, and whether it opens a block. -/
structure KeyMark where
  /-- How many tokens stand before it. -/
  position : Nat
  /-- Whether it opens a block mapping. -/
  opensBlock : Bool

/-- Adds a mark to others by its place. A key may hold other keys, so it need not be the last. -/
def noteMark (m : KeyMark) : List KeyMark → List KeyMark
  | [] => [m]
  | m' :: marks =>
    if m'.position ≤ m.position then m :: m' :: marks else m' :: noteMark m marks

/-- **The state of reading.** -/
structure Layout where
  /-- The tokens so far, latest first. -/
  tokens : List Token := []
  /-- How many they are. -/
  count : Nat := 0
  /-- The marks that belong between them, the last place first. -/
  marks : List KeyMark := []
  /-- The indentation of the innermost block. -/
  indent : Int := -1
  /-- The indentations of the blocks around it. -/
  indents : List Int := []
  /-- Whether a key may start here. -/
  allowsKey : Bool := true
  /-- What may be a key outside of all brackets. -/
  candidate : Option KeyCandidate := none
  /-- What may be a key before each of the open brackets and inside the innermost, which comes
  first; outside of all brackets there is none of them. -/
  inner : List (Option KeyCandidate) := []

/-- **Computations that read tokens.** -/
abbrev Scan := StateT Layout Read

/-- Whether a bracket is open. -/
def inFlow : Scan Bool := do
  return !(← get).inner.isEmpty

/-- Appends a token. -/
def push (t : Token) : Scan Unit :=
  modify fun s => { s with tokens := t :: s.tokens, count := s.count + 1 }

/-- What may be a key at this level of brackets. -/
def Layout.current (s : Layout) : Option KeyCandidate :=
  match s.inner with
  | [] => s.candidate
  | k :: _ => k

/-- Sets what may be a key at this level of brackets. -/
def Layout.setCurrent (s : Layout) (k : Option KeyCandidate) : Layout :=
  match s.inner with
  | [] => { s with candidate := k }
  | _ :: ks => { s with inner := k :: ks }

/-- Whether a candidate can no longer be a key: its line is over, or it is too far back. -/
def KeyCandidate.isStale (k : KeyCandidate) (c : Cursor) : Bool :=
  k.line != c.line || 1024 < c.index - k.index

/-- Drops the candidates that can no longer be keys. One that had to be a key is a fault. -/
def dropStale : Scan Unit := do
  let c ← getThe Cursor
  let s ← get
  let stale (k : Option KeyCandidate) : Bool := k.any (·.isStale c)
  if (s.candidate :: s.inner).any (fun k => stale k && k.any (·.isRequired)) then
    throw Fault.unreadable
  let keep (k : Option KeyCandidate) : Option KeyCandidate := if stale k then none else k
  set { s with candidate := keep s.candidate, inner := s.inner.map keep }

/-- Gives up the candidate at this level. One that had to be a key is a fault. -/
def dropCandidate : Scan Unit := do
  let s ← get
  if s.current.any (·.isRequired) then throw Fault.unreadable
  set (s.setCurrent none)

/-- Notes that the next token may be a key. -/
def noteCandidate : Scan Unit := do
  let s ← get
  if s.allowsKey then
    dropCandidate
    let c ← getThe Cursor
    let k : KeyCandidate :=
      { position := s.count
        isRequired := s.inner.isEmpty && s.indent == (c.column : Int)
        index := c.index, line := c.line, column := c.column }
    modify (·.setCurrent (some k))

/-- Says whether a key may start behind what was read. -/
def allowKey (allowed : Bool) : Scan Unit :=
  modify fun s => { s with allowsKey := allowed }

/-- Ends the blocks that are indented deeper. -/
def endBlocks (column : Int) : List Int → Scan Unit
  | [] => return ()
  | outer :: indents => do
    if column < (← get).indent then
      modify fun s => { s with indent := outer, indents }
      push .blockEnd
      endBlocks column indents

/-- Ends the blocks that are indented deeper than a column, unless a bracket is open. -/
def unwind (column : Int) : Scan Unit := do
  if !(← inFlow) then endBlocks column (← get).indents

/-- Opens a block at a column, unless the innermost one is as deep. -/
def openBlock (column : Int) : Scan Bool := do
  let s ← get
  if s.indent < column then
    set { s with indent := column, indents := s.indent :: s.indents }
    return true
  else return false

/-- Reads spaces, comments and line endings between tokens. -/
def toNextToken : Nat → Scan Unit
  | 0 => return ()
  | n + 1 => do
    let _ ← takeWhile (· == ' ')
    if (← peek) == '#' then
      let _ ← takeWhile (!isLineEnd ·)
    let ending ← lineBreak
    if !ending.isEmpty then
      if !(← inFlow) then allowKey true
      toNextToken n

/-! ### Reading one token -/

/-- Leaves all blocks, as the end of a document does. -/
def leaveBlocks : Scan Unit := do
  unwind (-1)
  dropCandidate
  allowKey false

/-- Reads an opening bracket. -/
def openBracket (t : Token) : Scan Unit := do
  noteCandidate
  modify fun s => { s with inner := none :: s.inner }
  allowKey true
  forward 1
  push t

/-- Reads a closing bracket. -/
def closeBracket (t : Token) : Scan Unit := do
  if !(← inFlow) then throw Fault.unreadable
  dropCandidate
  modify fun s => { s with inner := s.inner.drop 1 }
  allowKey false
  forward 1
  push t

/-- Opens a block here if a token of this kind may open one. -/
def startBlock (t : Token) : Scan Unit := do
  if !(← inFlow) then
    if !(← get).allowsKey then throw Fault.unreadable
    if ← openBlock (← getThe Cursor).column then push t

/-- Reads the dash of a sequence entry. -/
def entryToken : Scan Unit := do
  startBlock .blockSequenceStart
  allowKey true
  dropCandidate
  forward 1
  push .blockEntry

/-- Reads the question mark of a key. -/
def keyToken : Scan Unit := do
  startBlock .blockMappingStart
  allowKey (!(← inFlow))
  dropCandidate
  forward 1
  push .key

/-- Reads the colon of a value, which may make a key of what stands before it. -/
def valueToken : Scan Unit := do
  match (← get).current with
  | some k =>
    modify (·.setCurrent none)
    let opensBlock ← if ← inFlow then pure false else openBlock k.column
    modify fun s => { s with marks := noteMark ⟨k.position, opensBlock⟩ s.marks }
    allowKey false
  | none =>
    startBlock .blockMappingStart
    allowKey (!(← inFlow))
    dropCandidate
  forward 1
  push .value

/-- Reads a token that may be a key or the start of one. -/
def propertyToken (read : Read Token) : Scan Unit := do
  noteCandidate
  allowKey false
  push (← read)

/-- Whether a plain scalar may start with a character before another. -/
def startsPlain (flow : Bool) (c next : Char) : Bool :=
  (!isGap c && !"-?:,[]\x7b\x7d#&*!|>'\"%@\x60".toList.contains c) ||
    (!isGap next && (c == '-' || (!flow && (c == '?' || c == ':'))))

/-- Reads a plain scalar. -/
def plainToken : Scan Unit := do
  noteCandidate
  let (text, ended) ← plainScalar (← inFlow) ((← get).indent + 1)
  allowKey ended
  push (.scalar text true)

/-- **Reads the next token,** together with the ends of blocks before it. Says whether it was the
last one. -/
def nextToken : Scan Bool := do
  let c ← getThe Cursor
  if c.index == 0 && c.ahead 0 == '\ufeff' then forward 1
  toNextToken (← fuel)
  dropStale
  let c ← getThe Cursor
  unwind c.column
  let flow ← inFlow
  let here := c.ahead 0
  let next := c.ahead 1
  -- a null character stands behind the end of the text
  if here == '\x00' then
    leaveBlocks
    push .streamEnd
    return true
  if here == '%' && c.column == 0 then
    leaveBlocks
    push (← directiveToken)
  else if c.column == 0 && c.atMarker '-' then
    leaveBlocks
    forward 3
    push .documentStart
  else if c.column == 0 && c.atMarker '.' then
    leaveBlocks
    forward 3
    push .documentEnd
  else if here == '[' then openBracket .flowSequenceStart
  else if here == '{' then openBracket .flowMappingStart
  else if here == ']' then closeBracket .flowSequenceEnd
  else if here == '}' then closeBracket .flowMappingEnd
  else if here == ',' then
    allowKey true
    dropCandidate
    forward 1
    push .flowEntry
  else if here == '-' && isGap next then entryToken
  else if here == '?' && (flow || isGap next) then keyToken
  else if here == ':' && (flow || isGap next) then valueToken
  else if here == '*' then propertyToken (Token.alias <$> anchorName)
  else if here == '&' then propertyToken (Token.anchor <$> anchorName)
  else if here == '!' then propertyToken tagToken
  else if (here == '|' || here == '>') && !flow then
    allowKey true
    dropCandidate
    push (.scalar (← blockScalar (here == '>') (← get).indent) false)
  else if here == '\'' || here == '"' then
    propertyToken ((Token.scalar · false) <$> quotedScalar)
  else if startsPlain flow here next then plainToken
  else throw Fault.unreadable
  return false

/-! ### All tokens -/

/-- Puts marks between tokens, both latest first, behind the tokens that follow them. -/
def splice (count : Nat) (marks : List KeyMark) (after : List Token) : List Token → List Token
  | [] => after
  | t :: ts =>
    let here := marks.takeWhile (·.position + 1 == count)
    let opened := here.flatMap fun m =>
      if m.opensBlock then [Token.blockMappingStart, .key] else [.key]
    splice (count - 1) (marks.drop here.length) (opened ++ t :: after) ts

/-- The tokens of a layout, each key with its mark in front. -/
def Layout.all (s : Layout) : List Token :=
  splice s.count s.marks [] s.tokens

/-- Reads tokens until the last one or a fault. -/
def tokensFrom (s : Layout) (c : Cursor) : Nat → List Token × Option Fault
  | 0 => (s.all, some .unreadable)
  | n + 1 =>
    match (nextToken.run s).run c with
    | .error f => (s.all, some f)
    | .ok ((true, s'), _) => (s'.all, none)
    | .ok ((false, s'), c') => tokensFrom s' c' n

/-- How many characters are taken from a file at a time. -/
def blockSize : Nat := 4096

/-- How many characters have been taken before the one with this number: whole blocks, of which the
first two are taken together. -/
def takenBefore (index : Nat) : Nat :=
  if index < 2 * blockSize then 0 else index / blockSize * blockSize

/-- The tokens of a document that breaks off behind a text. -/
def tokensBefore (text : List Char) : List Token × Option Fault :=
  match tokensFrom {} { rest := text } (text.length + 2) with
  | (found, some f) => (found, some f)
  | (found, none) => (found.dropLast, some .unreadable)

/-- **The tokens of a document,** and what ended reading before its end. A character that is not
allowed is found when its block is taken, and the tokens before it are read by then. A document that
is not whole breaks off behind the text. -/
def tokens (text : List Char) (isWhole : Bool) : List Token × Option Fault :=
  match text.findIdx? (!isAllowed ·) with
  | some index => tokensBefore (text.take (takenBefore index))
  | none =>
    if isWhole then tokensFrom {} { rest := text } (text.length + 2) else tokensBefore text

end SourceAtlas.Yaml
