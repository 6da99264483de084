import SourceAtlas.Entity.Aggregate
import SourceAtlas.Extract.Dialect
import SourceAtlas.Failure
import SourceAtlas.Inventory
import SourceAtlas.Report.Dialect
import SourceAtlas.Settings

/-!
# Analyses

An analysis of a directory: its histogram, its outline and, dialect by dialect, what the extractors
find. A dialect is looked at if the histogram counts one of its extensions. Files are read
independently; one that is not text is noted as failed and changes nothing else.

* `Analysis` — the result;
* `Reading.ofFile` — what one file gives;
* `analyze` — the analysis of a directory.
-/

namespace SourceAtlas

/-- **What an analysis found.** -/
structure Analysis where
  /-- How many files there are of every extension. -/
  fileTypes : List (String × Nat)
  /-- The tree of names. -/
  outline : Outline
  /-- What was found in every dialect. -/
  findings : Findings := {}
  /-- The files that could not be read, in order. -/
  failedFiles : List String := []

/-! ### Reading files -/

/-- What reading one file gives. -/
structure Reading where
  /-- The path of the file. -/
  path : String
  /-- Its entities, or why it is not text. -/
  outcome : Except Text.Utf8Fault (List Entity)

namespace Reading

/-- **Reads a file** and extracts what is in it. -/
def ofFile (d : Dialect) (root : Path) (f : FileAt) : Reading :=
  let path := (f.pathIn root).toString
  { path
    outcome := (Text.decodeMarked f.bytes).map fun text => d.extract (Text.unixLines text) path }

/-- The entities of a file that could be read. -/
def entities? (r : Reading) : Option (List Entity) :=
  r.outcome.toOption

/-- What is reported of a file that could not be read. -/
def report? (r : Reading) : Option String :=
  match r.outcome with
  | .ok _ => none
  | .error fault => some ("Error analyzing file: " ++ r.path ++ ": " ++ fault.message)

/-- Whether a file could not be read. -/
def isFailed (r : Reading) : Bool :=
  r.report?.isSome

end Reading

/-- **Reads some files.** Failures are reported in the order of their wording. -/
def readFiles (d : Dialect) (root : Path) (files : List FileAt) : Logged (List Reading) := do
  let readings := files.map (Reading.ofFile d root)
  for message in (readings.filterMap Reading.report?).mergeSort stringLe do
    record .error message
  return readings

/-! ### Batches -/

/-- What is to be analysed, and how. -/
structure Request where
  /-- What to search for. -/
  query : Query := {}
  /-- The extension filter. -/
  extensions : String := ""
  /-- The exclusion pattern. -/
  exclude : String := ""

/-- Whether a dialect is looked at: the histogram counts one of its extensions. -/
def Dialect.isPresent (d : Dialect) (fileTypes : List (String × Nat)) : Bool :=
  fileTypes.any fun (e, _) => d.extensions.contains e

/-- The entities of some files, merged, and the paths of those that failed. There have to be workers
if there are files. -/
def extractFiles (d : Dialect) (root : Path) (files : List FileAt) (maxWorkers : Int) :
    Run (List Entity × List String) := do
  if files.isEmpty then return ([], [])
  if maxWorkers < 1 then throw Failure.noWorkers
  let readings ← readFiles d root files
  return (aggregate (readings.filterMap Reading.entities?),
    (readings.filter Reading.isFailed).map Reading.path)

/-- **Looks at one dialect.** A search pattern that does not compile ends it before any file is
read. -/
def runBatch (entry : Entry) (root : Path) (request : Request) (settings : Settings)
    (findings : Findings) (d : Dialect) : Run (Findings × List String) := do
  match Filter.compile request.query settings.highlightMarker with
  | .error (.invalidPattern term fault) =>
    record .warning ("Error compiling search regular expression for " ++ d.label ++ ": " ++
      (Failure.invalidPattern term fault).message)
    return (findings.refuse d, [])
  | .error f => throw f
  | .ok filter =>
    let files := Inventory.sources (entry.walk settings.skipDirectories) d.extensions
      request.exclude
    info ("Processing " ++ toString files.length ++ " " ++ d.label ++ " files...")
    let (entities, failed) ← extractFiles d root files settings.maxWorkers
    return (← findings.report d entities filter, failed)

/-- Looks at some dialects one after the other. -/
def runBatches (entry : Entry) (root : Path) (request : Request) (settings : Settings)
    (findings : Findings) : List Dialect → Run (Findings × List String)
  | [] => return (findings, [])
  | d :: ds => do
    let (findings, failed) ← runBatch entry root request settings findings d
    let (findings, more) ← runBatches entry root request settings findings ds
    return (findings, failed ++ more)

/-! ### Analyses -/

/-- Reports what is going to be analysed. -/
def announce (root : Path) (request : Request) : Logged Unit := do
  info ("Starting code analysis of directory: " ++ root.toString)
  let q := request.query
  infoIf (q.term != "") ("Using search filter: " ++ q.term)
  infoIf (q.term != "" && q.useRegex) "Using regular expression search"
  infoIf (q.term != "" && q.caseSensitive) "Search is case sensitive"
  infoIf (request.extensions != "") ("Filtering by file extensions: " ++ request.extensions)
  infoIf (request.exclude != "") ("Excluding patterns: " ++ request.exclude)

/-- The analysis of a directory with its full path. -/
def analyzeEntry (d : Disk) (root : Path) (entry : Entry) (request : Request)
    (settings : Settings) : Run Analysis := do
  announce root request
  let fileTypes := Inventory.histogram (entry.walk []) request.extensions request.exclude
  let outline ← d.outline root settings.skipDirectories
  let present := Dialect.all.filter (·.isPresent fileTypes)
  let (findings, failed) ← runBatches entry root request settings {} present
  return { fileTypes, outline, findings, failedFiles := sortedDistinct failed }

/-- The settings that are given, or those of a directory. -/
def settingsOr (given : Option Settings) (d : Disk) (p : Path) : Except Failure Settings :=
  match given with
  | some s => .ok s
  | none => (Settings.load d p).mapError Failure.settings

/-- **Analyses the directory at a path.** -/
def analyze (d : Disk) (p : Path) (request : Request) (given : Option Settings) :
    Run Analysis := do
  match d.directory? p with
  | none => throw (Failure.projectNotFound p.toString)
  | some (root, entry) =>
    let settings ← settingsOr given d root
    analyzeEntry d root entry request settings

/-- Applies another filter to an analysis. -/
def Analysis.refilter (a : Analysis) (f : Filter) : Logged Analysis := do
  return { a with findings := ← a.findings.refilter f }

/-- A copy of an analysis for display, with the matches of a filter marked. -/
def Analysis.highlight (a : Analysis) (f : Filter) : Analysis :=
  { a with findings := a.findings.highlight f }

end SourceAtlas
