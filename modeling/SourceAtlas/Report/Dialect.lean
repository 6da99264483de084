import SourceAtlas.Dialect
import SourceAtlas.Report.Basic

/-!
# The report of one dialect

The merged entities of a dialect are sorted by type and become the report of that dialect among the
findings. The other dialects are left as they are.
-/

namespace SourceAtlas.Findings

/-- **Adds the report of a dialect** on some entities. -/
def report (r : Findings) (d : Dialect) (entities : List Entity) (f : Filter) :
    Logged Findings :=
  match d with
  | .csharp => do
    let csharp ← CSharpReport.build (Entity.classes entities) (Entity.spaces entities) f
    return { r with csharp }
  | .javascript => do
    let javascript ← JavaScriptReport.build (Entity.functions entities)
      (Entity.classes entities) f
    return { r with javascript }
  | .react => do
    let react ← ComponentReport.build "React" (Entity.components entities) f
    return { r with react }
  | .vue => do
    let vue ← ComponentReport.build "Vue" (Entity.components entities) f
    return { r with vue }

/-- **Notes that a dialect could not be searched,** because the search pattern did not compile. -/
def refuse (r : Findings) : Dialect → Findings
  | .csharp => { r with csharp := { status := .invalidPattern } }
  | .javascript => { r with javascript := { status := .invalidPattern } }
  | .react => { r with react := { status := .invalidPattern } }
  | .vue => { r with vue := { status := .invalidPattern } }

end SourceAtlas.Findings
