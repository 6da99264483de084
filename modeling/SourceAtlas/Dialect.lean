import SourceAtlas.Path

/-!
# Dialects

The four kinds of source that are understood, in the order in which they are analysed, and how a
file is recognised as one of them.
-/

namespace SourceAtlas

/-- **Dialects.** -/
inductive Dialect where
  | csharp
  | javascript
  | react
  | vue
  deriving DecidableEq, Repr

namespace Dialect

/-- All dialects in the order of analysis. -/
def all : List Dialect :=
  [.csharp, .javascript, .react, .vue]

/-- The key of a dialect. -/
def key : Dialect → String
  | .csharp => "csharp"
  | .javascript => "javascript"
  | .react => "react"
  | .vue => "vue"

/-- The name of a dialect in messages. -/
def label : Dialect → String
  | .csharp => "C#"
  | .javascript => "JavaScript"
  | .react => "React"
  | .vue => "Vue component"

/-- The file extensions of a dialect. -/
def extensions : Dialect → List String
  | .csharp => [".cs"]
  | .javascript => [".js"]
  | .react => [".jsx", ".tsx"]
  | .vue => [".vue"]

/-- **The dialect of a file,** by its extension in lower case. -/
def ofPath? (p : Path) : Option Dialect :=
  all.find? fun d => d.extensions.contains (Text.lowerString p.suffix)

end Dialect

end SourceAtlas
