import SourceAtlas.Dialect
import SourceAtlas.Extract.CSharp
import SourceAtlas.Extract.JavaScript
import SourceAtlas.Extract.React
import SourceAtlas.Extract.Vue

/-!
# Extraction by dialect

Every dialect has an extractor, from the text of a file and its path to entities in the order of
their discovery, possibly with repetitions.
-/

namespace SourceAtlas.Dialect

/-- **The entities of a source** in a dialect. -/
def extract (d : Dialect) (source : List Char) (filePath : String) : List Entity :=
  match d with
  | .csharp => Extract.CSharp.entities source filePath
  | .javascript => Extract.JavaScript.entities source filePath
  | .react => Extract.React.entities source filePath
  | .vue => Extract.Vue.entities source filePath

end SourceAtlas.Dialect
