/-!
# Entities

What an extractor recovers from a source file: functions, classes with their methods, namespaces and
user-interface components. Every entity has a name and the path of its file.

* `Entity.key` — two entities with the same key are the same discovery;
* `Entity.sortKey` — the order in which entities are listed;
* `Entity.searchable` — the strings a search looks at, the name first.
-/

namespace SourceAtlas

/-- A method of a class. -/
structure Method where
  /-- The name. -/
  name : String
  /-- The return type as written. -/
  returnType : String := ""
  /-- Whether it is public. -/
  isPublic : Bool := true
  /-- Whether it is static. -/
  isStatic : Bool := false
  /-- The parameters as written. -/
  parameters : List String := []
  deriving DecidableEq, Repr

/-- A free function, an arrow function bound to a name, or a method of an object. -/
structure FunctionEntity where
  /-- The name. -/
  name : String
  /-- The path of the file. -/
  filePath : String
  /-- The parameters as written. -/
  parameters : List String := []
  deriving DecidableEq, Repr

/-- A class and the methods found in its body. -/
structure ClassEntity where
  /-- The name. -/
  name : String
  /-- The path of the file. -/
  filePath : String
  /-- The namespace, where the language has namespaces. -/
  namespaceName : String := ""
  /-- The inheritance clause as written. -/
  baseClass : Option String := none
  /-- The methods. -/
  methods : List Method := []
  deriving DecidableEq, Repr

/-- A namespace that a file declares, even if it holds no class. -/
structure NamespaceEntity where
  /-- The name. -/
  name : String
  /-- The path of the file. -/
  filePath : String
  deriving DecidableEq, Repr

/-- A user-interface component. -/
structure ComponentEntity where
  /-- The name. -/
  name : String
  /-- The path of the file. -/
  filePath : String
  /-- The props. -/
  props : List String := []
  /-- The hooks it calls. -/
  hooks : List String := []
  /-- The fields of its data object. -/
  data : List String := []
  /-- The methods. -/
  methods : List String := []
  /-- The computed properties. -/
  computedProperties : List String := []
  /-- Whether it is written in the short form. -/
  isAlternateSyntax : Bool := false
  deriving DecidableEq, Repr

/-- **Entities.** -/
inductive Entity where
  | function (f : FunctionEntity)
  | cls (c : ClassEntity)
  | space (n : NamespaceEntity)
  | component (c : ComponentEntity)
  deriving DecidableEq, Repr

namespace Entity

/-- The word for the kind of an entity. -/
def kind : Entity → String
  | .function _ => "function"
  | .cls _ => "class"
  | .space _ => "namespace"
  | .component _ => "component"

/-- The name of an entity. -/
def name : Entity → String
  | .function f => f.name
  | .cls c => c.name
  | .space n => n.name
  | .component c => c.name

/-- The path of the file an entity was found in. -/
def filePath : Entity → String
  | .function f => f.filePath
  | .cls c => c.filePath
  | .space n => n.filePath
  | .component c => c.filePath

/-- What makes two discoveries the same: kind, name and file. -/
def key (e : Entity) : String × String × String :=
  (e.kind, e.name, e.filePath)

/-- What entities are ordered by: kind first, then for classes the namespace, then name and file. -/
def sortKey : Entity → List String
  | .cls c => ["class", c.namespaceName, c.name, c.filePath]
  | e => [e.kind, e.name, e.filePath]

end Entity

/-- The strings of a function that a search looks at. -/
def FunctionEntity.searchable (f : FunctionEntity) : List String :=
  f.name :: f.parameters

/-- The strings of a class that a search looks at. -/
def ClassEntity.searchable (c : ClassEntity) : List String :=
  c.name :: c.methods.map Method.name

/-- The strings of a namespace that a search looks at. -/
def NamespaceEntity.searchable (n : NamespaceEntity) : List String :=
  [n.name]

/-- The strings of a component that a search looks at. -/
def ComponentEntity.searchable (c : ComponentEntity) : List String :=
  c.name :: (c.props ++ c.hooks ++ c.data ++ c.methods ++ c.computedProperties)

/-- **The strings that a search looks at.** -/
def Entity.searchable : Entity → List String
  | .function f => f.searchable
  | .cls c => c.searchable
  | .space n => n.searchable
  | .component c => c.searchable

/-! ### Entities by kind -/

/-- The functions among some entities. -/
def Entity.functions (entities : List Entity) : List FunctionEntity :=
  entities.filterMap fun
    | .function f => some f
    | _ => none

/-- The classes among some entities. -/
def Entity.classes (entities : List Entity) : List ClassEntity :=
  entities.filterMap fun
    | .cls c => some c
    | _ => none

/-- The names of the namespaces among some entities. -/
def Entity.spaces (entities : List Entity) : List String :=
  entities.filterMap fun
    | .space n => some n.name
    | _ => none

/-- The components among some entities. -/
def Entity.components (entities : List Entity) : List ComponentEntity :=
  entities.filterMap fun
    | .component c => some c
    | _ => none

end SourceAtlas
