import SourceAtlas.Component.Attributes
import SourceAtlas.Entity.Basic

/-!
# Components of React

The component patterns are tried in table order: functions, arrow functions, classes. A name that an
earlier match of the same file gave is passed over. Class components report neither props nor hooks.
-/

namespace SourceAtlas.Extract.React

open Pattern

/-- What one match of a component pattern gives. -/
def componentOf (source : List Char) (filePath : String) (p : Pattern) (m : Regex.Match) :
    ComponentEntity :=
  let attributes : Component.Attributes :=
    if p.resolvesBody then Component.attributes source m.endPos (p.paramsOf m) else {}
  { name := String.ofList (p.nameOf m)
    filePath
    props := attributes.props
    hooks := attributes.hooks }

/-- Whether a name starts with a capital letter. The patterns only match names that start with one
of the letters from A to Z, so capital letters of other scripts need not be known. -/
def isComponentName (name : List Char) : Bool :=
  name.head?.any Char.isUpper

/-- Every match of every component pattern, in table order. -/
def matched (source : List Char) : List (Pattern × Regex.Match) :=
  (ofRole React.table .component).flatMap fun p => (p.findAll source).map fun m => (p, m)

/-- Keeps the first match of each name, where names are component names. -/
def firstOfEachName (seen : List (List Char)) :
    List (Pattern × Regex.Match) → List (Pattern × Regex.Match)
  | [] => []
  | (p, m) :: rest =>
    let name := p.nameOf m
    if !isComponentName name || seen.contains name then firstOfEachName seen rest
    else (p, m) :: firstOfEachName (name :: seen) rest

/-- **The components of a source.** -/
def components (source : List Char) (filePath : String) : List ComponentEntity :=
  (firstOfEachName [] (matched source)).map fun (p, m) => componentOf source filePath p m

/-- **All entities of a source.** -/
def entities (source : List Char) (filePath : String) : List Entity :=
  (components source filePath).map Entity.component

end SourceAtlas.Extract.React
