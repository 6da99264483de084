import SourceAtlas.Regex.Match

/-!
# Entity patterns

A script dialect is described by an ordered table of named patterns. Each pattern says what it looks
for (its role) and which of its groups hold the name, the parameters, the base and the modifiers of
what was found. Extractors go through the patterns of the role they need in table order.
-/

namespace SourceAtlas

/-- What a pattern looks for. -/
inductive Role where
  | function
  | cls
  | classMember
  | component
  | hook
  | props
  | marker
  | part
  | name
  | member
  deriving DecidableEq, Repr

/-- The word for a role. -/
def Role.label : Role → String
  | .function => "function"
  | .cls => "class"
  | .classMember => "class_member"
  | .component => "component"
  | .hook => "hook"
  | .props => "props"
  | .marker => "marker"
  | .part => "section"
  | .name => "name"
  | .member => "member"

/-- **A pattern of a dialect.** -/
structure Pattern where
  /-- The name of the pattern in its table. -/
  key : String
  /-- What it looks for. -/
  role : Role
  /-- The pattern itself. -/
  regex : Regex
  /-- Groups that may hold the name; the first that took part in the match counts. -/
  nameGroups : List Nat := [1]
  /-- Groups that may hold the raw parameters. -/
  paramGroups : List Nat := []
  /-- The group that holds the base, if the pattern has one. -/
  baseGroup : Option Nat := none
  /-- The group that holds leading modifiers, if the pattern has one. -/
  modifierGroup : Option Nat := none
  /-- Whether a body follows what was found. -/
  resolvesBody : Bool := true

namespace Pattern

open Regex (Match)

/-- The text of the first of some groups that took part in a match. -/
def firstGroup (m : Match) (groups : List Nat) : List Char :=
  (groups.findSome? m.group?).getD []

/-- The name that a match reports. -/
def nameOf (p : Pattern) (m : Match) : List Char :=
  Text.trim (firstGroup m p.nameGroups)

/-- The raw parameters that a match reports. -/
def paramsOf (p : Pattern) (m : Match) : List Char :=
  firstGroup m p.paramGroups

/-- The base that a match reports. -/
def baseOf (p : Pattern) (m : Match) : Option (List Char) :=
  p.baseGroup.bind m.group?

/-- The modifiers that a match reports. -/
def modifiersOf (p : Pattern) (m : Match) : List (List Char) :=
  Text.fields ((p.modifierGroup.bind m.group?).getD [])

/-- The patterns of one role, in table order. -/
def ofRole (table : List Pattern) (role : Role) : List Pattern :=
  table.filter (·.role == role)

/-- All matches of a pattern in a text. -/
def findAll (p : Pattern) (text : List Char) : List Match :=
  p.regex.findAll text

/-- The first match of a pattern in a text. -/
def search (p : Pattern) (text : List Char) : Option Match :=
  p.regex.search text

end Pattern

/-! ### Identifiers of the script dialects -/

/-- Characters that open a script identifier. -/
def isScriptOpener (c : Char) : Bool :=
  c.isAlpha || c == '_' || c == '$'

/-- Characters that continue a script identifier. -/
def isScriptContinuer (c : Char) : Bool :=
  c.isAlphanum || c == '_' || c == '$'

namespace Regex

/-- A script identifier. -/
def ident : Regex :=
  .seq (.char isScriptOpener) (star (.char isScriptContinuer))

/-- A script identifier with a capital letter at its start. -/
def capitalIdent : Regex :=
  .seq (.char Char.isUpper) (star (.char isScriptContinuer))

/-- A parenthesis, anything up to the next closing one, which is remembered, and that one. -/
def parameters (index : Nat) : Regex :=
  cat [lit '(', .group index (star (notChar ')')), lit ')']

/-- A parenthesis and anything up to and including the next closing one. -/
def parenthesized : Regex :=
  cat [lit '(', star (notChar ')'), lit ')']

/-- One of several words. -/
def words (ws : List String) : Regex :=
  oneOf (ws.map text)

end Regex

end SourceAtlas
