import SourceAtlas.Analysis
import SourceAtlas.Display.Json

/-!
# Analyses as JSON

Every part of an analysis as a JSON value, fields in the order in which the parts are defined.
-/

namespace SourceAtlas

/-- A method. -/
def Method.toJson (m : Method) : JsonValue :=
  .obj [("name", .str m.name), ("return_type", .str m.returnType), ("is_public", .bool m.isPublic),
    ("is_static", .bool m.isStatic), ("parameters", .strs m.parameters)]

/-- A function. -/
def FunctionEntity.toJson (f : FunctionEntity) : JsonValue :=
  .obj [("name", .str f.name), ("file_path", .str f.filePath), ("parameters", .strs f.parameters)]

/-- A class. -/
def ClassEntity.toJson (c : ClassEntity) : JsonValue :=
  .obj [("name", .str c.name), ("file_path", .str c.filePath), ("namespace", .str c.namespaceName),
    ("base_class", (c.baseClass.map .str).getD .null),
      ("methods", .arr (c.methods.map Method.toJson))]

/-- A component. -/
def ComponentEntity.toJson (c : ComponentEntity) : JsonValue :=
  .obj [("name", .str c.name), ("file_path", .str c.filePath), ("props", .strs c.props),
    ("hooks", .strs c.hooks), ("data", .strs c.data), ("methods", .strs c.methods),
    ("computed_properties", .strs c.computedProperties),
    ("is_alternate_syntax", .bool c.isAlternateSyntax)]

/-- A status. -/
def Status.toJson (s : Status) : JsonValue :=
  .str s.label

/-- A report on C#. -/
def CSharpReport.toJson (r : CSharpReport) : JsonValue :=
  .obj [("namespaces", .obj (r.namespaces.map fun (n, names) => (n, .strs names))),
    ("classes", .arr (r.classes.map ClassEntity.toJson)), ("status", r.status.toJson)]

/-- A report on JavaScript. -/
def JavaScriptReport.toJson (r : JavaScriptReport) : JsonValue :=
  .obj [("functions", .arr (r.functions.map FunctionEntity.toJson)),
    ("classes", .arr (r.classes.map ClassEntity.toJson)), ("status", r.status.toJson)]

/-- A report on components. -/
def ComponentReport.toJson (r : ComponentReport) : JsonValue :=
  .obj [("components", .arr (r.components.map ComponentEntity.toJson)), ("status", r.status.toJson)]

namespace Outline

mutual

/-- An outline. -/
def toJson : Outline → JsonValue
  | .node name files subdirectories =>
    .obj [("name", .str name), ("files", .strs files),
      ("subdirectories", .arr (allToJson subdirectories))]

/-- Several outlines. -/
def allToJson : List Outline → List JsonValue
  | [] => []
  | o :: os => o.toJson :: allToJson os

end

end Outline

/-- **An analysis.** -/
def Analysis.toJson (a : Analysis) : JsonValue :=
  .obj [("file_types", .obj (a.fileTypes.map fun (e, n) => (e, .int n))),
    ("directory_tree", a.outline.toJson), ("csharp", a.findings.csharp.toJson),
    ("javascript", a.findings.javascript.toJson), ("react", a.findings.react.toJson),
    ("vue", a.findings.vue.toJson), ("failed_files", .strs a.failedFiles)]

end SourceAtlas
