import SourceAtlas.Block
import SourceAtlas.Entity.Basic
import SourceAtlas.Pattern.JavaScript

/-!
# Functions and classes of JavaScript

Every function pattern goes over the whole file by itself, so one function is often found more than
once; whoever merges the discoveries keeps the first. Names that are control words are no functions.
A class reports the methods of the first brace block behind it, the first of each name.
-/

namespace SourceAtlas.Extract.JavaScript

open Pattern

/-- The name of a function without a name. -/
def anonymous : String := "<anonymous>"

/-- Parameters as a list. -/
def parameterList (params : List Char) : List String :=
  (Block.splitParameters params).map String.ofList

/-- What one match of a function pattern gives. -/
def functionOf (filePath : String) (p : Pattern) (m : Regex.Match) : Option FunctionEntity :=
  let found := String.ofList (p.nameOf m)
  let name := if found = "" then anonymous else found
  if JavaScript.controlWords.contains name then none
  else some { name, filePath, parameters := parameterList (p.paramsOf m) }

/-- **The functions of a source,** pattern by pattern. -/
def functions (source : List Char) (filePath : String) : List FunctionEntity :=
  (ofRole JavaScript.table .function).flatMap fun p =>
    (p.findAll source).filterMap (functionOf filePath p)

/-- What one match of a method pattern gives. -/
def methodOf (p : Pattern) (m : Regex.Match) : Option Method :=
  let name := String.ofList (p.nameOf m)
  if name = "" ∨ JavaScript.controlWords.contains name then none
  else some
    { name
      isPublic := !(p.nameOf m).head?.any (· == '#')
      isStatic := (p.modifiersOf m).contains "static".toList
      parameters := parameterList (p.paramsOf m) }

/-- Keeps the first method of each name. -/
def firstOfEachName (seen : List String) : List Method → List Method
  | [] => []
  | m :: ms =>
    if seen.contains m.name then firstOfEachName seen ms
    else m :: firstOfEachName (m.name :: seen) ms

/-- **The methods of a class body.** -/
def methods (body : List Char) : List Method :=
  firstOfEachName [] ((ofRole JavaScript.table .classMember).flatMap fun p =>
    (p.findAll body).filterMap (methodOf p))

/-- What one match of a class pattern gives. -/
def classOf (source : List Char) (filePath : String) (p : Pattern) (m : Regex.Match) :
    ClassEntity where
  name := String.ofList (p.nameOf m)
  filePath := filePath
  baseClass := (p.baseOf m).map String.ofList
  methods :=
    match Block.braceContents? source m.endPos with
    | some body => methods body
    | none => []

/-- **The classes of a source.** -/
def classes (source : List Char) (filePath : String) : List ClassEntity :=
  (ofRole JavaScript.table .cls).flatMap fun p =>
    (p.findAll source).map (classOf source filePath p)

/-- **All entities of a source,** functions before classes. -/
def entities (source : List Char) (filePath : String) : List Entity :=
  (functions source filePath).map Entity.function ++ (classes source filePath).map Entity.cls

end SourceAtlas.Extract.JavaScript
