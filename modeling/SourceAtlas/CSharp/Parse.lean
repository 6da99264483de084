import SourceAtlas.CSharp.Piece

/-!
# Reading C#

From pieces to syntax trees. A declaration is told by its first word after attributes and modifiers;
bodies of members and values are never looked into, for no type or method is declared there.

* `declaration` — the node of one declaration;
* `parse` — the syntax tree of a source.
-/

namespace SourceAtlas.CSharp

/-- The modifiers of declarations. -/
def modifierWords : List String :=
  ["abstract", "async", "const", "extern", "file", "fixed", "internal", "new", "override",
    "partial", "private", "protected", "public", "readonly", "required", "sealed", "static",
    "unsafe", "virtual", "volatile"]

/-- The modifiers of parameters. -/
def parameterWords : List String :=
  ["this", "scoped", "ref", "out", "in", "readonly", "params"]

/-- Attributes and modifiers from these words. -/
def isLead (words : List String) (p : Piece) : Bool :=
  p.isGroup .square || p.isGroup .conditional || p.isOneOf words

/-- The modifiers among some pieces. -/
def modifierNodes (lead : List Piece) : List Node :=
  lead.filterMap fun p =>
    if p.isWord then some (.mk .modifier none (String.ofList p.text) []) else none

/-- A node for a name. -/
def nameNode (p : Piece) : Node :=
  .mk .name (some .name) (String.ofList p.text) []

/-- The body in braces, if there is one among some pieces. -/
def bodyNodes (ps : List Piece) : List Node :=
  match ps.find? (·.isGroup .brace) with
  | some p => [.mk .declarations (some .body) (String.ofList p.text) p.declared]
  | none => []

/-- The pieces of a declaration before its body. -/
def header (ps : List Piece) : List Piece :=
  ps.takeWhile fun p => !p.isGroup .brace && !p.isSign ";"

/-! ### Namespaces and types -/

/-- A namespace, from the pieces behind the keyword. -/
def namespaceNode (item rest : List Piece) : Node :=
  let name := Node.mk .name (some .name) (covered (header rest)) []
  let body := bodyNodes rest
  .mk (if body.isEmpty then .fileNamespace else .blockNamespace) none (covered item) (name :: body)

/-- The list of base types in a header: from the colon up to the constraints. -/
def baseNodes (ps : List Piece) : List Node :=
  match ps.dropWhile fun p => !p.isSign ":" && !p.isOneOf ["where"] with
  | [] => []
  | p :: ps =>
    if p.isSign ":" then
      [.mk .bases none (covered (p :: ps.takeWhile fun q => !q.isOneOf ["where"])) []]
    else []

/-- A type, from its modifiers and the pieces behind the keyword. -/
def typeNode (kind : NodeKind) (item lead rest : List Piece) : Node :=
  .mk kind none (covered item)
    (modifierNodes lead ++ (rest.take 1).map nameNode ++ baseNodes (header rest) ++ bodyNodes rest)

/-! ### Methods -/

/-- A parameter, from its pieces. An array of arguments is none. -/
def parameterNode (ps : List Piece) : Option Node :=
  let lead := ps.takeWhile (isLead parameterWords)
  let (type, rest) := splitType (ps.drop lead.length)
  if lead.any (·.isOneOf ["params"]) then none
  else some (.mk .parameter none (covered ps)
    (modifierNodes lead ++ [.mk .type (some .type) (covered type) []] ++
      ((rest.take 1).filter Piece.isWord).map nameNode))

/-- A parameter list. -/
def parametersNode (p : Piece) : Node :=
  .mk .parameters (some .parameters) (String.ofList p.text)
    ((splitCommas 0 false [] p.inside).filterMap parameterNode)

/-- A member of a type. It is a method if a type, a name and a parameter list follow each other; of
a name with the interface it implements only the last part is the method's. -/
def memberNode (item lead rest : List Piece) : Node :=
  let (type, rest) := splitType rest
  let (qualified, rest) := splitType rest
  match (outsideAngles 0 qualified).getLast?, rest with
  | some name, parameters :: _ =>
    if name.isWord && parameters.isGroup .paren then
      .mk .method none (covered item)
        (modifierNodes lead ++
          [.mk .type (some .returns) (covered type) [], nameNode name, parametersNode parameters])
    else .mk .other none (covered item) []
  | _, _ => .mk .other none (covered item) []

/-! ### Declarations -/

/-- **The node of a declaration.** -/
def declaration (item : List Piece) : Node :=
  let lead := item.takeWhile (isLead modifierWords)
  match item.drop lead.length with
  | [] =>
    -- modifiers and nothing else, or a conditional section by itself
    match item with
    | [p] =>
      .mk (if p.isGroup .conditional then .conditional else .other) none (covered item) p.declared
    | _ => .mk .other none (covered item) []
  | p :: rest =>
    if p.isOneOf ["namespace"] then namespaceNode item rest
    else if p.isOneOf ["class"] then typeNode .cls item lead rest
    else if p.isOneOf ["struct", "interface"] then typeNode .container item lead rest
    else if p.isOneOf ["record"] then
      typeNode .container item lead (rest.dropWhile (·.isOneOf ["class", "struct"]))
    else if p.isOneOf ["enum", "event", "using"] then .mk .other none (covered item) []
    else if p.isOneOf ["delegate"] && !(rest.take 1).any (·.isSign "*") then
      .mk .other none (covered item) []
    else
      -- `ref struct` starts a type, any other `ref` the type of a member
      match p.isOneOf ["ref"], rest.dropWhile (·.isOneOf modifierWords) with
      | true, q :: rest' =>
        if q.isOneOf ["struct"] then typeNode .container item lead rest'
        else memberNode item lead (p :: rest)
      | _, _ => memberNode item lead (p :: rest)

/-- The declarations in some pieces. -/
def declarations (ps : List Piece) : List Node :=
  (items ps).map declaration

/-! ### Groups -/

/-- A group that was opened and not yet closed, with the pieces before it, latest first. -/
structure Opened where
  /-- The brackets. -/
  bracket : Bracket
  /-- The opening token. -/
  opener : Token
  /-- The pieces in front of the group. -/
  earlier : List Piece

/-- Closes a group around the pieces read in it. -/
def Opened.close (o : Opened) (inside : List Piece) (closer : List Char) : Piece :=
  .group o.bracket o.opener.before (o.opener.text ++ written inside ++ closer) inside
    (match o.bracket with
      | .brace | .conditional => declarations inside
      | .paren | .square => [])

/-- Closes every open group at the end of a source. -/
def closeAll (read : List Piece) : List Opened → List Piece
  | [] => read.reverse
  | o :: os => closeAll (o.close read.reverse [] :: o.earlier) os

/-- The pieces of a source, from the pieces just read, latest first, and the groups that are
open. -/
def piecesFrom (read : List Piece) (opened : List Opened) : List Token → List Piece
  | [] => closeAll read opened
  | t :: ts =>
    match Bracket.ofOpener? t, opened with
    | some b, _ => piecesFrom [] (⟨b, t, read⟩ :: opened) ts
    | none, o :: os =>
      if o.bracket.isClosedBy t then
        piecesFrom (o.close read.reverse (t.before ++ t.text) :: o.earlier) os ts
      else piecesFrom (.token t :: read) (o :: os) ts
    | none, [] => piecesFrom (.token t :: read) [] ts

/-- **The syntax tree of a source.** -/
def parse (source : List Char) : Node :=
  .mk .file none (String.ofList source) (declarations (piecesFrom [] [] (tokens source)))

end SourceAtlas.CSharp
