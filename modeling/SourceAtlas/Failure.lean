import SourceAtlas.Log
import SourceAtlas.Search.Filter
import SourceAtlas.Yaml.Literal

/-!
# Failures

Why an operation has no result, with one wording for each cause. `Run` is the monad of operations
that report their progress and may fail; what was reported before a failure stays reported.
-/

namespace SourceAtlas

/-- **Why an operation has no result.** -/
inductive Failure where
  /-- The search pattern is not one. -/
  | invalidPattern (term : String) (fault : Regex.Fault)
  /-- The search pattern repeats something more often than can be counted. -/
  | repetitionTooLarge
  /-- The search pattern asks for two alphabets. -/
  | contradictoryFlags
  /-- There is no such directory. -/
  | projectNotFound (path : String)
  /-- Nothing has been analysed yet. -/
  | sessionEmpty
  /-- There is no worker to read files. -/
  | noWorkers
  /-- A scalar of the settings has no value. A number with too many digits and too deep nesting are
  the same failure in a search pattern. -/
  | settings (fault : Yaml.Fault)
  /-- There is no such tool. -/
  | unknownTool (name : String)
  /-- An argument of a tool is missing. -/
  | missingArgument (name : String)
  deriving DecidableEq, Repr

namespace Failure

/-- The failure that a fault in a search pattern is. -/
def ofFault (term : String) : Regex.Fault → Failure
  | .countTooLarge => .repetitionTooLarge
  | .countTooLong digits => .settings (.tooManyDigits digits)
  | .flagsContradict => .contradictoryFlags
  | .tooDeep => .settings .tooDeep
  | f => .invalidPattern term f

/-- **The wording of a failure.** -/
def message : Failure → String
  | .invalidPattern term fault =>
    "Invalid search pattern '" ++ term ++ "': " ++ fault.message term.toList
  | .repetitionTooLarge => Regex.Fault.message [] .countTooLarge
  | .contradictoryFlags => Regex.Fault.message [] .flagsContradict
  | .projectNotFound path => "Directory not found: " ++ path
  | .sessionEmpty => "No code analysis result available. Please analyze a codebase first."
  | .noWorkers => "max_workers must be greater than 0"
  | .settings fault => fault.message
  | .unknownTool name => "Unknown tool: " ++ name
  | .missingArgument name => String.ofList (Text.quoted name.toList)

end Failure

/-- **Operations that report their progress and may fail.** -/
abbrev Run := ExceptT Failure Logged

/-- Compiles a query, or fails. -/
def Filter.compile (q : Query) (marker : String) : Except Failure Filter :=
  (Filter.ofQuery q marker).mapError (Failure.ofFault q.term)

end SourceAtlas
