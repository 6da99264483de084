import SourceAtlas.CommandLine

/-!
# Tools

Two tools for programs that talk to this one: the first analyses a directory, the second narrows the
last analysis with another term. They share one session. What goes wrong is told in the answer,
except for a tool that does not exist and a search pattern that cannot be compiled for reasons of
size.

* `ToolCall` — a call with its arguments;
* `ToolCall.run` — the answer and the session as it is then;
* `catalog` — what the tools say about themselves.
-/

namespace SourceAtlas

/-- The arguments of a call. -/
structure ToolArguments where
  /-- The directory. -/
  root : Option String := none
  /-- The query. -/
  query : Query := {}
  /-- The extension filter. -/
  extensions : String := ""
  /-- The exclusion pattern. -/
  exclude : String := ""

/-- **A call of a tool.** -/
structure ToolCall where
  /-- The name of the tool. -/
  tool : String
  /-- The arguments. -/
  arguments : ToolArguments := {}

namespace ToolCall

/-- The name of the tool that analyses. -/
def analyzeTool : String := "codescout_analyze"

/-- The name of the tool that searches. -/
def searchTool : String := "codescout_search"

/-- The text of an analysis, its matches marked as the session says. -/
def answer (s : Session) (a : Analysis) (q : Query) : String :=
  (a.marked q s.marker).toJson.render

/-- Analyses a directory. A failure is an answer. -/
def analyze (s : Session) (d : Disk) (arguments : ToolArguments) : Logged (String × Session) := do
  match arguments.root with
  | none => return ("Unexpected error: " ++ (Failure.missingArgument "root").message, s)
  | some root =>
    let request : Request :=
      { query := arguments.query, extensions := arguments.extensions, exclude := arguments.exclude }
    match ← (s.analyze d (Path.ofString root) request none).run with
    | .error (.projectNotFound path) =>
      return ("Error: " ++ (Failure.projectNotFound path).message, s)
    | .error f => return ("Unexpected error: " ++ f.message, s)
    | .ok (a, s') => return (answer s' a arguments.query, s')

/-- Narrows the last analysis. -/
def search (s : Session) (q : Query) : Run String :=
  ExceptT.mk do
    match ← (s.refilter q).run with
    | .error .sessionEmpty => return .ok (Failure.message .sessionEmpty)
    | .error (.invalidPattern term fault) =>
      return .ok ("Error: " ++ (Failure.invalidPattern term fault).message)
    | .error f => return .error f
    | .ok a => return .ok (answer s a q)

/-- **Runs a call.** -/
def run (s : Session) (d : Disk) (c : ToolCall) : Run (String × Session) := do
  if c.tool = analyzeTool then analyze s d c.arguments
  else if c.tool = searchTool then return (← search s c.arguments.query, s)
  else throw (Failure.unknownTool c.tool)

end ToolCall

/-! ### What the tools say about themselves -/

/-- A tool: its name, what it does, and the schema of its arguments. -/
structure ToolDescription where
  /-- The name. -/
  name : String
  /-- What it does. -/
  description : String
  /-- The schema of its arguments. -/
  schema : JsonValue

/-- The schema of one argument. -/
def argumentSchema (type description : String) : JsonValue :=
  .obj [("type", .str type), ("description", .str description)]

/-- The schemas of the arguments that make a query. -/
def querySchemas : List (String × JsonValue) :=
  [("search_term", argumentSchema "string"
      "Only keep entities whose name or attributes match this term"),
    ("use_regex", argumentSchema "boolean" "Treat the search term as a regular expression"),
    ("case_sensitive", argumentSchema "boolean" "Honor case when matching"),
    ("highlight_matches", argumentSchema "boolean" "Wrap matched text in highlight markers")]

/-- The schema of an object with some arguments. -/
def objectSchema (properties : List (String × JsonValue)) (required : List String) : JsonValue :=
  .obj [("type", .str "object"), ("properties", .obj properties), ("required", .strs required)]

/-- **The tools.** -/
def catalog : List ToolDescription :=
  [{ name := ToolCall.analyzeTool
     description := "Analyze a codebase and extract its structure: file type counts, the " ++
       "directory tree, C# namespaces and classes, JavaScript functions and " ++
       "classes, React components (props, hooks) and Vue components (props, " ++
       "data, methods, computed). Optionally filter everything by a search term."
     schema := objectSchema
       ([("root", argumentSchema "string" "Directory to analyze")] ++ querySchemas ++
        [("extensions", argumentSchema "string"
            "Comma-separated file extensions to count (e.g. '.cs,.js')"),
         ("exclude", argumentSchema "string"
            "Exclude paths matching this pattern (e.g. '*/bin/*')")])
       ["root"] },
   { name := ToolCall.searchTool
     description := "Search the most recent codescout_analyze result with a new term. " ++
       "Does not rescan the codebase."
     schema := objectSchema querySchemas ["search_term"] }]

end SourceAtlas
