import SourceAtlas.Regex.Match
import SourceAtlas.Yaml.Token

/-!
# Nodes

The nodes of a document. Since an alias may lead back to any node before it, or to one around it,
nodes are kept in a list and refer to each other by number.

* `Tag.ofPlain` — what a plain scalar is, by its form;
* `Node`, `Graph` — scalars, sequences and mappings;
* `Graph.ofTokens` — the only document in some tokens.
-/

namespace SourceAtlas.Yaml

/-! ### Tags -/

/-- The kinds of value that have a meaning, and all others. -/
inductive Tag where
  | null
  | bool
  | int
  | float
  | binary
  | timestamp
  | str
  | seq
  | map
  | omap
  | pairs
  | set
  /-- The key whose value is merged into its mapping. -/
  | merge
  /-- The key whose value stands for its mapping. -/
  | default
  /-- A tag without a meaning. -/
  | unknown
  deriving DecidableEq, Repr

namespace Tag

/-- What the tags of the format are written with. -/
def family : String := "tag:yaml.org,2002:"

/-- The tags by their names in the family. -/
def table : List (String × Tag) :=
  [("null", .null), ("bool", .bool), ("int", .int), ("float", .float), ("binary", .binary),
    ("timestamp", .timestamp), ("str", .str), ("seq", .seq), ("map", .map), ("omap", .omap),
    ("pairs", .pairs), ("set", .set), ("merge", .merge), ("value", .default)]

/-- The tag with a full name. -/
def ofName (name : List Char) : Tag :=
  match table.find? fun entry => (family ++ entry.1).toList == name with
  | some (_, tag) => tag
  | none => .unknown

open Regex

/-- A character between two others. -/
def range (low high : Char) : Regex :=
  .char fun c => low ≤ c && c ≤ high

/-- A decimal digit. -/
def digit : Regex := range '0' '9'

/-- A decimal digit or an underscore. -/
def digit_ : Regex := .char fun c => c.isDigit || c == '_'

/-- One of some characters. -/
def among (cs : String) : Regex :=
  .char cs.toList.contains

/-- An optional sign. -/
def sign : Regex := opt (among "-+")

/-- A whole text, up to a newline at its end. -/
def whole (r : Regex) : Regex :=
  cat [r, .anchor .lastLineEnd]

/-- An exponent with a sign. -/
def exponent : Regex :=
  opt (cat [among "eE", among "-+", plus digit])

/-- A further place of a number to the base sixty. -/
def sixtieth : Regex :=
  cat [lit ':', opt (range '0' '5'), digit]

/-- Floating point numbers. -/
def floatForm : Regex :=
  oneOf [
    cat [sign, digit, star digit_, lit '.', star digit_, exponent],
    cat [lit '.', digit, star digit_, exponent],
    cat [sign, digit, star digit_, plus sixtieth, lit '.', star digit_],
    cat [sign, lit '.', oneOf [text "inf", text "Inf", text "INF"]],
    cat [lit '.', oneOf [text "nan", text "NaN", text "NAN"]]]

/-- Integers in four bases, and to the base sixty. -/
def intForm : Regex :=
  oneOf [
    cat [sign, text "0b", plus (among "01_")],
    cat [sign, lit '0', plus (among "01234567_")],
    cat [sign, oneOf [lit '0', cat [range '1' '9', star digit_]]],
    cat [sign, text "0x", plus (.char fun c => isHex c || c == '_')],
    cat [sign, range '1' '9', star digit_, plus sixtieth]]

/-- A day: year, month and day with two digits each, or with one or two. -/
def dayForm (isLoose : Bool) : Regex :=
  let two := if isLoose then cat [digit, opt digit] else cat [digit, digit]
  cat [digit, digit, digit, digit, lit '-', two, lit '-', two]

/-- A time of day behind a day, with an optional offset. -/
def timeForm : Regex :=
  cat [oneOf [among "Tt", plus (among " \t")], digit, opt digit, lit ':', digit, digit, lit ':',
    digit, digit, opt (cat [lit '.', star digit]),
    opt (cat [star (among " \t"),
      oneOf [lit 'Z', cat [among "-+", digit, opt digit, opt (cat [lit ':', digit, digit])]]])]

/-- Days, and times of a day. -/
def timestampForm : Regex :=
  oneOf [dayForm false, cat [dayForm true, timeForm]]

/-- Truth values. -/
def boolForm : Regex :=
  oneOf ((["yes", "Yes", "YES", "no", "No", "NO", "true", "True", "TRUE", "false", "False", "FALSE",
    "on", "On", "ON", "off", "Off", "OFF"]).map text)

/-- Nothing. -/
def nullForm : Regex :=
  oneOf [lit '~', text "null", text "Null", text "NULL", .empty]

/-- The forms that give a plain scalar its tag, the first that fits. -/
def forms : List (Tag × Regex) :=
  [(.bool, boolForm), (.float, floatForm), (.int, intForm), (.merge, text "<<"), (.null, nullForm),
    (.timestamp, timestampForm), (.default, lit '='), (.unknown, among "!&*")]

/-- Whether a form is tried on a text: nothing but an empty text may be nothing by a newline
alone. -/
def applies (tag : Tag) (cs : List Char) : Bool :=
  !(tag == .null && cs.head? == some '\n')

/-- **What a plain scalar is,** by its form; a text if it has no other. -/
def ofPlain (cs : List Char) : Tag :=
  match forms.find? fun (tag, form) => applies tag cs && (whole form).matchesStart cs with
  | some (tag, _) => tag
  | none => .str

end Tag

/-! ### Nodes -/

/-- **A node.** Others are referred to by number. -/
inductive Node where
  | scalar (tag : Tag) (text : List Char)
  | sequence (tag : Tag) (items : List Nat)
  | mapping (tag : Tag) (entries : List (Nat × Nat))

/-- The tag of a node. -/
def Node.tag : Node → Tag
  | .scalar t _ => t
  | .sequence t _ => t
  | .mapping t _ => t

/-- **The nodes of a document** by number. -/
abbrev Graph := Array Node

/-- What a reader of nodes keeps. -/
structure Build where
  /-- The tokens that are left. -/
  tokens : List Token
  /-- What ended the tokens. -/
  ending : Option Fault
  /-- The nodes so far. -/
  graph : Graph := #[]
  /-- The nodes that have names. -/
  anchors : List (List Char × Nat) := []
  /-- What tag handles stand for. -/
  handles : List (List Char × List Char) := []
  /-- At which level reading is. -/
  level : Nat := 0

/-- **Computations that read nodes.** -/
abbrev Compose := StateT Build (Except Fault)

/-- What every document may use as handles. -/
def defaultHandles : List (List Char × List Char) :=
  [(['!'], ['!']), (['!', '!'], Tag.family.toList)]

/-- The next token. Reading past the last one meets what ended the tokens. -/
def current : Compose Token := do
  match (← get).tokens with
  | t :: _ => return t
  | [] => throw ((← get).ending.getD .unreadable)

/-- Goes on to the token after the next. -/
def advance : Compose Unit :=
  modify fun b => { b with tokens := b.tokens.drop 1 }

/-- Whether the next token is one of these. -/
def atOneOf (ts : List Token) : Compose Bool := do
  return ts.contains (← current)

/-- Goes on over a token if it is the next. -/
def accept (t : Token) : Compose Bool := do
  if (← current) == t then
    advance
    return true
  else return false

/-- Goes on over a token that has to be the next. -/
def expect (t : Token) : Compose Unit := do
  if !(← accept t) then throw Fault.unreadable

/-- Adds a node. -/
def addNode (n : Node) : Compose Nat := do
  let b ← get
  set { b with graph := b.graph.push n }
  return b.graph.size

/-- Adds an empty plain scalar. -/
def emptyNode : Compose Nat :=
  addNode (.scalar .null [])

/-- Gives a node its name. A name that is taken is a fault. -/
def nameNode (anchor : Option (List Char)) (n : Nat) : Compose Unit := do
  match anchor with
  | none => return ()
  | some a => modify fun b => { b with anchors := (a, n) :: b.anchors }

/-- What stands before a node: a name and a tag. -/
structure Properties where
  /-- The name. -/
  anchor : Option (List Char) := none
  /-- The full tag. -/
  tag : Option (List Char) := none

/-- The tag of a node, unless it is left to its form. -/
def Properties.tagOr (p : Properties) (fallback : Tag) : Tag :=
  match p.tag with
  | some t => if t == ['!'] then fallback else Tag.ofName t
  | none => fallback

/-- Reads a name, if there is one. -/
def readAnchor : Compose (Option (List Char)) := do
  match ← current with
  | .anchor a =>
    advance
    return some a
  | _ => return none

/-- Reads a tag, if there is one, and puts in what its handle stands for. -/
def readTag : Compose (Option (List Char)) := do
  match ← current with
  | .tag handle suffix =>
    advance
    match handle with
    | none => return some suffix
    | some h =>
      match (← get).handles.find? (·.1 == h) with
      | some (_, meaning) => return some (meaning ++ suffix)
      | none => throw Fault.unreadable
  | _ => return none

/-- Reads a name and a tag in either order. -/
def readProperties : Compose Properties := do
  let anchor ← readAnchor
  let tag ← readTag
  if anchor.isSome || tag.isNone then return { anchor, tag }
  return { anchor := ← readAnchor, tag }

/-- Where a node stands. -/
inductive Place where
  /-- Inside brackets. -/
  | flow
  /-- In a block. -/
  | block
  /-- In a mapping, where a sequence need not be indented. -/
  | inMapping
  deriving DecidableEq

/-- Refuses a name that is taken. -/
def refuseTaken (anchor : Option (List Char)) : Compose Unit := do
  match anchor with
  | some a => if (← get).anchors.any (·.1 == a) then throw Fault.unreadable
  | none => return ()

/-- Adds a collection. It has its number and its name before it is read, so that what is in it may
refer to it. What is in it is read two levels deeper. -/
def addCollection {α : Type} (p : Properties) (node : List α → Node) (read : Compose (List α)) :
    Compose Nat := do
  refuseTaken p.anchor
  let id ← addNode (node [])
  nameNode p.anchor id
  let level := (← get).level
  if levelLimit < level + 2 then throw Fault.tooDeep
  modify fun b => { b with level := level + 2 }
  let found ← read
  modify fun b => { b with graph := b.graph.setIfInBounds id (node found), level }
  return id

/-- Adds a scalar. -/
def addScalar (p : Properties) (fallback : Tag) (text : List Char) : Compose Nat := do
  refuseTaken p.anchor
  let id ← addNode (.scalar (p.tagOr fallback) text)
  nameNode p.anchor id
  return id

mutual

/-- **Reads a node.** -/
def readNode (place : Place) : Nat → Compose Nat
  | 0 => throw Fault.unreadable
  | n + 1 => do
    if let .alias name ← current then
      advance
      match (← get).anchors.find? (·.1 == name) with
      | some (_, target) => return target
      | none => throw Fault.unreadable
    let p ← readProperties
    let sequence := Node.sequence (p.tagOr .seq)
    let mapping := Node.mapping (p.tagOr .map)
    match ← current with
    | .scalar text isPlain =>
      advance
      addScalar p (if isPlain || p.tag.isSome then Tag.ofPlain text else .str) text
    | .flowSequenceStart =>
      advance
      addCollection p sequence (readFlowItems true n)
    | .flowMappingStart =>
      advance
      addCollection p mapping (readFlowEntries true n)
    | t =>
      -- a list may stand in a mapping without being indented
      if t == .blockEntry && place == .inMapping then
        addCollection p sequence (readLooseItems n)
      else if t == .blockSequenceStart && place != .flow then do
        advance
        addCollection p sequence (readBlockItems n)
      else if t == .blockMappingStart && place != .flow then do
        advance
        addCollection p mapping (readBlockEntries n)
      -- properties of nothing are properties of an empty scalar
      else if p.anchor.isSome || p.tag.isSome then addScalar p .null []
      else throw Fault.unreadable

/-- Reads a node, or an empty one if one of these tokens follows. -/
def readUnless (stops : List Token) (place : Place) : Nat → Compose Nat
  | 0 => throw Fault.unreadable
  | n + 1 => do
    if ← atOneOf stops then emptyNode else readNode place n

/-- Reads the value behind a key, or an empty one. -/
def readValue (stops : List Token) (place : Place) : Nat → Compose Nat
  | 0 => throw Fault.unreadable
  | n + 1 => do
    if ← accept .value then readUnless stops place n else emptyNode

/-- Reads the items of an indented sequence. -/
def readBlockItems : Nat → Compose (List Nat)
  | 0 => throw Fault.unreadable
  | n + 1 => do
    if ← accept .blockEntry then
      let item ← readUnless [.blockEntry, .blockEnd] .block n
      return item :: (← readBlockItems n)
    expect .blockEnd
    return []

/-- Reads the items of a sequence that is not indented. -/
def readLooseItems : Nat → Compose (List Nat)
  | 0 => throw Fault.unreadable
  | n + 1 => do
    if ← accept .blockEntry then
      let item ← readUnless [.blockEntry, .key, .value, .blockEnd] .block n
      return item :: (← readLooseItems n)
    return []

/-- Reads the entries of an indented mapping. -/
def readBlockEntries : Nat → Compose (List (Nat × Nat))
  | 0 => throw Fault.unreadable
  | n + 1 => do
    if ← accept .key then
      let stops : List Token := [.key, .value, .blockEnd]
      let key ← readUnless stops .inMapping n
      let value ← readValue stops .inMapping n
      return (key, value) :: (← readBlockEntries n)
    expect .blockEnd
    return []

/-- Reads the items of a sequence in brackets. A key among them opens a mapping of one entry. -/
def readFlowItems (isFirst : Bool) : Nat → Compose (List Nat)
  | 0 => throw Fault.unreadable
  | n + 1 => do
    if ← accept .flowSequenceEnd then return []
    if !isFirst then expect .flowEntry
    if ← accept .flowSequenceEnd then return []
    let stops : List Token := [.flowEntry, .flowSequenceEnd]
    let item ←
      if ← accept .key then do
        let key ← readUnless (.value :: stops) .flow n
        let value ← readValue stops .flow n
        addNode (.mapping .map [(key, value)])
      else readNode .flow n
    return item :: (← readFlowItems false n)

/-- Reads the entries of a mapping in braces. -/
def readFlowEntries (isFirst : Bool) : Nat → Compose (List (Nat × Nat))
  | 0 => throw Fault.unreadable
  | n + 1 => do
    if ← accept .flowMappingEnd then return []
    if !isFirst then expect .flowEntry
    if ← accept .flowMappingEnd then return []
    let stops : List Token := [.flowEntry, .flowMappingEnd]
    let entry ←
      if ← accept .key then do
        let key ← readUnless (.value :: stops) .flow n
        let value ← readValue stops .flow n
        pure (key, value)
      else do
        let key ← readNode .flow n
        let value ← emptyNode
        pure (key, value)
    return entry :: (← readFlowEntries false n)

end

/-! ### Documents -/

/-- Reads directives, from the handles that were given so far and whether a version was. -/
def readDirectives (hasVersion : Bool) : Nat → Compose Unit
  | 0 => throw Fault.unreadable
  | n + 1 => do
    match ← current with
    | .version major =>
      if hasVersion || major != 1 then throw Fault.unreadable
      advance
      readDirectives true n
    | .handle name meaning =>
      if (← get).handles.any (·.1 == name) then throw Fault.unreadable
      modify fun b => { b with handles := b.handles ++ [(name, meaning)] }
      advance
      readDirectives hasVersion n
    | .directive =>
      advance
      readDirectives hasVersion n
    | _ => modify fun b => { b with handles := b.handles ++ defaultHandles }

/-- Goes on over ends of documents. -/
def skipEnds : Nat → Compose Unit
  | 0 => return ()
  | n + 1 => do
    if ← accept .documentEnd then skipEnds n

/-- Whether a token starts what stands before a document. -/
def Token.isDirective : Token → Bool
  | .version _ | .handle .. | .directive => true
  | _ => false

/-- Reads the document, if there is one, by the number of its root. -/
def readDocument (n : Nat) : Compose (Option Nat) := do
  let t ← current
  if !t.isDirective && t != .documentStart && t != .streamEnd then
    modify fun b => { b with handles := defaultHandles }
    return some (← readNode .block n)
  skipEnds n
  if (← current) == .streamEnd then return none
  readDirectives false n
  expect .documentStart
  let t ← current
  if t.isDirective || [.documentStart, .documentEnd, .streamEnd].contains t then
    return some (← emptyNode)
  return some (← readNode .block n)

/-- Reads the only document and the end behind it. -/
def readStream (n : Nat) : Compose (Option Nat) := do
  let root ← readDocument n
  skipEnds n
  if (← current) != .streamEnd then throw Fault.unreadable
  return root

/-- **The only document in a text:** its nodes and the number of its root, or nothing if there is no
document. A document that is not whole breaks off behind the text. -/
def Graph.ofText (text : List Char) (isWhole : Bool := true) :
    Except Fault (Option (Graph × Nat)) := do
  let (found, ending) := tokens text isWhole
  let (root, b) ← (readStream (4 * found.length + 8)).run { tokens := found, ending }
  return root.map fun id => (b.graph, id)

end SourceAtlas.Yaml
