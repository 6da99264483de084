import SourceAtlas.CSharp.Parse
import SourceAtlas.Entity.Basic
import SourceAtlas.Text.Blank

/-!
# Namespaces and classes of C#

A walk over the syntax tree reports every namespace and every class, each class under the innermost
namespace in scope. A block namespace is in scope for its body; a file namespace for what follows
it. Structs, records and interfaces are entered for the classes in them; conditional sections are
not. A class reports the methods declared anywhere below it, those of nested types included.
-/

namespace SourceAtlas.Extract.CSharp

open SourceAtlas.CSharp

/-- The namespace of a class outside all namespaces. -/
def globalNamespace : String := "Global"

/-- A parameter as `type name`. -/
def parameterText (n : Node) : String :=
  String.ofList (Text.trim (n.textOf .type ++ " " ++ n.textOf .name).toList)

/-- The parameters of a method. -/
def parameterTexts (n : Node) : List String :=
  match n.child? .parameters with
  | none => []
  | some list => (list.children.filter (·.kind == .parameter)).map parameterText

/-- The method that a node declares. Where nothing is marked as what it returns, a type is taken for
it. -/
def methodOf (n : Node) : Method :=
  let modifiers := (n.children.filter (·.kind == .modifier)).map Node.text
  { name := n.textOf .name
    returnType := (((n.child? .returns).or (n.child? .type)).map Node.text).getD ""
    isPublic := modifiers.contains "public"
    isStatic := modifiers.contains "static"
    parameters := parameterTexts n }

/-- A list of base types without its colon. -/
def withoutColon (text : String) : String :=
  String.ofList (Text.trim (text.toList.dropWhile (· == ':')))

/-- The class that a node declares. -/
def classOf (n : Node) (filePath space : String) : ClassEntity :=
  { name := n.textOf .name
    filePath
    namespaceName := space
    baseClass := (n.children.find? (·.kind == .bases)).map fun b => withoutColon b.text
    methods := (n.descendants .method).map methodOf }

/-- **The walk** over nodes with a namespace in scope. -/
def walk (filePath : String) (space : String) : List Node → List Entity
  | [] => []
  | n :: rest =>
    match n.kind with
    | .blockNamespace =>
      let name := n.textOf .name
      .space { name, filePath } :: (body name n ++ walk filePath space rest)
    | .fileNamespace =>
      let name := n.textOf .name
      .space { name, filePath } :: (walk filePath name n.children ++ walk filePath name rest)
    | .cls =>
      .cls (classOf n filePath space) :: (body space n ++ walk filePath space rest)
    | .container => body space n ++ walk filePath space rest
    | .declarations => walk filePath space n.children ++ walk filePath space rest
    | _ => walk filePath space rest
termination_by ns => Node.sizes ns + 1
decreasing_by all_goals (simp only [Node.sizes, Node.size_eq]; omega)
where
  /-- The walk over the body of a declaration, if it has one. -/
  body (space : String) (n : Node) : List Entity :=
    match _h : n.child? .body with
    | none => []
    | some b => walk filePath space b.children
  termination_by n.size
  decreasing_by
    have := Node.size_lt_of_child? _h
    have := Node.size_eq b
    omega

/-- **All entities of a source,** in source order. -/
def entities (source : List Char) (filePath : String) : List Entity :=
  walk filePath globalNamespace (parse source).children

end SourceAtlas.Extract.CSharp
