import SourceAtlas.Log
import SourceAtlas.Search.Filter
import SourceAtlas.Distinct

/-!
# Reports

What an analysis found, dialect by dialect, each with a status that tells an empty list apart from
one that the filter emptied. A report is built from entities and a filter; refiltering builds it
again from what a report lists, and highlighting makes a copy for display.

* `CSharpReport.build`, `JavaScriptReport.build`, `ComponentReport.build` — reports from entities;
* `Findings.refilter` — another filter on the same findings;
* `Findings.highlight` — a copy with matches marked.
-/

namespace SourceAtlas

/-- Namespaces and classes of C#. -/
structure CSharpReport where
  /-- Namespaces in order, each with the names of its listed classes in order. -/
  namespaces : List (String × List String) := []
  /-- The classes. -/
  classes : List ClassEntity := []
  /-- What the report looks like. -/
  status : Status := .empty
  deriving DecidableEq, Repr

/-- Functions and classes of JavaScript. -/
structure JavaScriptReport where
  /-- The functions. -/
  functions : List FunctionEntity := []
  /-- The classes. -/
  classes : List ClassEntity := []
  /-- What the report looks like. -/
  status : Status := .empty
  deriving DecidableEq, Repr

/-- Components of React or Vue. -/
structure ComponentReport where
  /-- The components. -/
  components : List ComponentEntity := []
  /-- What the report looks like. -/
  status : Status := .empty
  deriving DecidableEq, Repr

/-- **What was found in all four dialects.** -/
structure Findings where
  /-- C#. -/
  csharp : CSharpReport := {}
  /-- JavaScript. -/
  javascript : JavaScriptReport := {}
  /-- React. -/
  react : ComponentReport := {}
  /-- Vue. -/
  vue : ComponentReport := {}
  deriving DecidableEq, Repr

/-- Reports that a list is empty, or that a filter emptied it. -/
def reportStatus (what : String) : Status → Logged Unit
  | .empty => info ("No " ++ what ++ " were found in the analyzed files.")
  | .noMatches => info ("No " ++ what ++ " matched the search criteria.")
  | _ => pure ()

namespace CSharpReport

/-- The namespaces to list: all of them, or those that match or hold a class that was kept. -/
def listed (f : Filter) (spaces : List String) (kept : List ClassEntity) : List String :=
  if f.isActive then
    spaces.filter fun n => kept.any (·.namespaceName == n) || f.matchesText n
  else spaces

/-- The distinct names of the classes in a namespace, in order. -/
def classNames (kept : List ClassEntity) (space : String) : List String :=
  sortedDistinct ((kept.filter (·.namespaceName == space)).map ClassEntity.name)

/-- The status of a report. -/
def statusOf (f : Filter) (classes : List ClassEntity) (spaces : List String)
    (kept : List ClassEntity) (shown : List String) : Status :=
  if classes.isEmpty && spaces.isEmpty then .empty
  else if f.isActive && kept.isEmpty && shown.isEmpty then .noMatches
  else .ok

/-- **The report on some classes and declared namespaces.** A class counts as declaring its
namespace. -/
def build (classes : List ClassEntity) (declared : List String) (f : Filter) :
    Logged CSharpReport := do
  let spaces := sortedDistinct (declared ++ classes.map ClassEntity.namespaceName)
  let kept := (f.keep ClassEntity.searchable classes).1
  let shown := listed f spaces kept
  let status := statusOf f classes spaces kept shown
  reportStatus "C# classes" status
  return { namespaces := shown.map fun n => (n, classNames kept n), classes := kept, status }

end CSharpReport

namespace JavaScriptReport

/-- **The report on some functions and classes.** -/
def build (functions : List FunctionEntity) (classes : List ClassEntity) (f : Filter) :
    Logged JavaScriptReport := do
  let (kept, status) :=
    f.keep Entity.searchable (functions.map Entity.function ++ classes.map Entity.cls)
  reportStatus "JavaScript functions or classes" status
  return { functions := Entity.functions kept, classes := Entity.classes kept, status }

end JavaScriptReport

namespace ComponentReport

/-- **The report on some components** of a dialect. -/
def build (dialect : String) (components : List ComponentEntity) (f : Filter) :
    Logged ComponentReport := do
  let (kept, status) := f.keep ComponentEntity.searchable components
  reportStatus (dialect ++ " components") status
  return { components := kept, status }

end ComponentReport

namespace Findings

/-- **Applies another filter** to what is listed. -/
def refilter (r : Findings) (f : Filter) : Logged Findings := do
  let csharp ← CSharpReport.build r.csharp.classes (r.csharp.namespaces.map (·.1)) f
  let javascript ← JavaScriptReport.build r.javascript.functions r.javascript.classes f
  let react ← ComponentReport.build "React" r.react.components f
  let vue ← ComponentReport.build "Vue" r.vue.components f
  return { csharp, javascript, react, vue }

/-- **A copy for display** with the matches of a filter marked. -/
def highlight (r : Findings) (f : Filter) : Findings :=
  if !f.isActive then r
  else
    { csharp := { r.csharp with classes := r.csharp.classes.map f.highlightClass }
      javascript :=
        { r.javascript with
          functions := r.javascript.functions.map f.highlightFunction
          classes := r.javascript.classes.map f.highlightClass }
      react := { r.react with components := r.react.components.map f.highlightComponent }
      vue := { r.vue with components := r.vue.components.map f.highlightComponent } }

end Findings

end SourceAtlas
