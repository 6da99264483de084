import SourceAtlas.Analysis

/-!
# Sessions

A session remembers its last analysis, unfiltered, so that later queries narrow it without reading
any file again. An analysis that fails, or whose search pattern does not compile, leaves the session
as it was.
-/

namespace SourceAtlas

/-- What a session remembers of an analysis. -/
structure Remembered where
  /-- The directory, as it was asked for. -/
  root : Path
  /-- The query. -/
  query : Query
  /-- The analysis without any filter. -/
  result : Analysis
  /-- What is put around matches. -/
  marker : String

/-- **A session:** nothing, or the last analysis. -/
structure Session where
  /-- The last analysis. -/
  last : Option Remembered := none

namespace Session

/-- The query of the last analysis. -/
def query (s : Session) : Query :=
  (s.last.map Remembered.query).getD {}

/-- What is put around matches. -/
def marker (s : Session) : String :=
  (s.last.map Remembered.marker).getD defaultMarker

/-- Settings and filter of an analysis, or why there are none. -/
def prepare (d : Disk) (p : Path) (request : Request) (given : Option Settings) :
    Except Failure (Settings × Except Failure Filter) := do
  let settings ← settingsOr given d p
  match Filter.compile request.query settings.highlightMarker with
  | .ok f => return (settings, .ok f)
  | .error (.invalidPattern term fault) => return (settings, .error (.invalidPattern term fault))
  | .error f => throw f

/-- **Analyses a directory** and remembers the result. Returns it under the query, with the session
as it is then. -/
def analyze (s : Session) (d : Disk) (p : Path) (request : Request) (given : Option Settings) :
    Run (Analysis × Session) := do
  match ← prepare d p request given with
  | (settings, .error _) =>
    return (← SourceAtlas.analyze d p request (some settings), s)
  | (settings, .ok filter) =>
    let result ← SourceAtlas.analyze d p { request with query := {} } (some settings)
    let session : Session :=
      { last := some
          { root := p, query := request.query, result, marker := settings.highlightMarker } }
    return (← result.refilter filter, session)

/-- **The last analysis,** which there has to be. -/
def require (s : Session) : Except Failure Remembered :=
  match s.last with
  | some r => .ok r
  | none => .error .sessionEmpty

/-- **Narrows the last analysis** with a query. The session stays as it is. -/
def refilter (s : Session) (q : Query) : Run Analysis := do
  let r ← s.require
  let filter ← Filter.compile q r.marker
  info ("Refiltering last analysis of " ++ r.root.toString ++ " with '" ++ q.term ++ "'")
  r.result.refilter filter

end Session

end SourceAtlas
