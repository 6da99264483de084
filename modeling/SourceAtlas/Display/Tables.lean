import SourceAtlas.Analysis
import SourceAtlas.Display.Table

/-!
# Analyses as tables

A table of extensions, then one for every dialect that has files, or a sentence where there is
nothing to show, and last the files that could not be read.
-/

namespace SourceAtlas.Display

/-- Names in one cell. -/
def commaList (names : List String) : String :=
  Text.joinWith ", " names

/-- The name of a file without its directories. -/
def fileName (path : String) : String :=
  (Path.ofString path).name

/-- How many files there are of every extension. -/
def fileTypesTable (a : Analysis) : Table where
  title := "File Types"
  columns := [{ heading := "Extension" }, { heading := "Count", isRight := true }]
  rows := a.fileTypes.map fun (e, n) => [e, toString n]

/-- The classes of C#. -/
def csharpTable (r : CSharpReport) : Table where
  title := "C# Classes"
  columns := leftColumns ["Namespace", "Class", "Methods", "File"]
  rows := r.classes.map fun c =>
    [c.namespaceName, c.name, commaList (c.methods.map Method.name), fileName c.filePath]

/-- The functions and classes of JavaScript. -/
def javascriptTable (r : JavaScriptReport) : Table where
  title := "JavaScript"
  columns := leftColumns ["Kind", "Name", "Members", "File"]
  rows :=
    (r.functions.map fun f => ["function", f.name, commaList f.parameters, fileName f.filePath]) ++
    (r.classes.map fun c =>
      ["class", c.name, commaList (c.methods.map Method.name), fileName c.filePath])

/-- The components of React. -/
def reactTable (r : ComponentReport) : Table where
  title := "React Components"
  columns := leftColumns ["Name", "Props", "Hooks", "File"]
  rows := r.components.map fun c =>
    [c.name, commaList c.props, commaList c.hooks, fileName c.filePath]

/-- The components of Vue. -/
def vueTable (r : ComponentReport) : Table where
  title := "Vue Components"
  columns := leftColumns ["Name", "Props", "Data", "Methods", "Computed", "Setup", "File"]
  rows := r.components.map fun c =>
    [c.name, commaList c.props, commaList c.data, commaList c.methods,
      commaList c.computedProperties, if c.isAlternateSyntax then "yes" else "",
        fileName c.filePath]

/-- A table, or why there is none. -/
def tableOr (t : Table) (status : Status) (what : String) : String :=
  match status with
  | .ok => t.render
  | .empty => "No " ++ what ++ " found.\n"
  | .noMatches => "No " ++ what ++ " matched the search criteria.\n"
  | .invalidPattern =>
    "Search pattern is not a valid regular expression; " ++ what ++ " skipped.\n"

/-- The section of a dialect. -/
def dialectSection (a : Analysis) : Dialect → String
  | .csharp => tableOr (csharpTable a.findings.csharp) a.findings.csharp.status "C# classes"
  | .javascript =>
    tableOr (javascriptTable a.findings.javascript) a.findings.javascript.status
      "JavaScript functions or classes"
  | .react => tableOr (reactTable a.findings.react) a.findings.react.status "React components"
  | .vue => tableOr (vueTable a.findings.vue) a.findings.vue.status "Vue components"

/-- The files that could not be read. -/
def failedSection (a : Analysis) : String :=
  if a.failedFiles.isEmpty then ""
  else "Failed files:\n" ++ String.join (a.failedFiles.map fun path =>
    "  " ++ String.ofList (shown path.toList) ++ "\n")

/-- **An analysis as tables.** -/
def tables (a : Analysis) : String :=
  (fileTypesTable a).render ++
    String.join ((Dialect.all.filter (·.isPresent a.fileTypes)).map (dialectSection a)) ++
    failedSection a

end SourceAtlas.Display
