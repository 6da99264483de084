import SourceAtlas.Display.Analysis
import SourceAtlas.Display.Tables
import SourceAtlas.Session

/-!
# The command line

The command line has one command, which analyses a directory, and an option that shows the version.
Options may stand anywhere among the arguments of the command; two dashes end them. What an option
sets last counts, and what none sets comes from the settings of the project.

The command that serves the tools to another program is left out. It decides nothing: it hands on
calls and answers, and the calls are those of `Tools`. Its name counts as a wrong argument here.

* `Command.parse?` — what some arguments ask for, or nothing if they are wrong;
* `Command.run` — what is printed, and the exit code.
-/

namespace SourceAtlas

/-- The options of an analysis. -/
structure Options where
  /-- What to search for. -/
  search : String := ""
  /-- Whether the term is a pattern. -/
  regex : Option Bool := none
  /-- Whether case matters. -/
  caseSensitive : Option Bool := none
  /-- Whether matches are marked. -/
  highlight : Option Bool := none
  /-- The extension filter. -/
  extensions : String := ""
  /-- The exclusion pattern. -/
  exclude : String := ""
  /-- Whether the result is printed as JSON. -/
  asJson : Bool := false
  /-- Whether progress is printed. -/
  isVerbose : Bool := false
  deriving DecidableEq, Repr

/-- What an option does. -/
inductive Switch where
  /-- It stands alone. -/
  | flag (set : Options → Options)
  /-- It takes the next argument. -/
  | valued (set : String → Options → Options)

namespace Options

/-- The long options. -/
def long? : String → Option Switch
  | "--search" => some (.valued fun v o => { o with search := v })
  | "--regex" => some (.flag fun o => { o with regex := some true })
  | "--no-regex" => some (.flag fun o => { o with regex := some false })
  | "--case-sensitive" => some (.flag fun o => { o with caseSensitive := some true })
  | "--ignore-case" => some (.flag fun o => { o with caseSensitive := some false })
  | "--highlight" => some (.flag fun o => { o with highlight := some true })
  | "--no-highlight" => some (.flag fun o => { o with highlight := some false })
  | "--extensions" => some (.valued fun v o => { o with extensions := v })
  | "--exclude" => some (.valued fun v o => { o with exclude := v })
  | "--json" => some (.flag fun o => { o with asJson := true })
  | "--verbose" => some (.flag fun o => { o with isVerbose := true })
  | _ => none

/-- What a short option sets; all of them take a value. -/
def short? : Char → Option (String → Options → Options)
  | 's' => some fun v o => { o with search := v }
  | 'e' => some fun v o => { o with extensions := v }
  | 'x' => some fun v o => { o with exclude := v }
  | _ => none

/-- An argument cut at its first equals sign. -/
def cutAtEquals (arg : List Char) : String × Option String :=
  let name := arg.takeWhile (· != '=')
  (String.ofList name,
    if name.length < arg.length then some (String.ofList (arg.drop (name.length + 1))) else none)

/-- An option, and the argument that it has to take next, if any. A short option may have its value
right behind it. -/
inductive Read where
  /-- It is complete. -/
  | done (set : Options → Options)
  /-- It takes the next argument. -/
  | needs (set : String → Options → Options)

/-- Reads an argument that is an option. -/
def readOption? (arg : List Char) : Option Read :=
  match arg with
  | '-' :: '-' :: _ =>
    match cutAtEquals arg with
    | (name, value) =>
      match long? name, value with
      | some (.flag set), none => some (.done set)
      | some (.valued set), some v => some (.done (set v))
      | some (.valued set), none => some (.needs set)
      | _, _ => none
  | '-' :: c :: rest =>
    (short? c).map fun set =>
      if rest.isEmpty then .needs set else .done (set (String.ofList rest))
  | _ => none

/-- Reads the arguments of the command: options, and what else there is in order. `pending` is an
option that waits for its value. -/
def readAll (pending : Option (String → Options → Options)) (o : Options) (others : List String) :
    List String → Option (Options × List String)
  | [] => if pending.isSome then none else some (o, others.reverse)
  | arg :: args =>
    match pending with
    | some set => readAll none (set arg o) others args
    | none =>
      if arg = "--" then some (o, others.reverse ++ args)
      else if arg.length ≤ 1 || arg.toList.head? != some '-' then
        readAll none o (arg :: others) args
      else
        match readOption? arg.toList with
        | some (.done set) => readAll none (set o) others args
        | some (.needs set) => readAll (some set) o others args
        | none => none

end Options

/-- **What some arguments ask for.** -/
inductive Command where
  /-- Nothing at all. -/
  | idle
  /-- The version. -/
  | version
  /-- The analysis of a directory. -/
  | analyze (root : String) (options : Options)
  deriving DecidableEq, Repr

namespace Command

/-- The arguments of the analysis command, which takes one directory. -/
def analyze? (args : List String) : Option Command :=
  match Options.readAll none {} [] args with
  | some (o, [root]) => some (.analyze root o)
  | _ => none

/-- The command of a name with its arguments. No name asks for nothing. -/
def named? : List String → Option Command
  | [] => some .idle
  | name :: args => if name = "analyze" then analyze? args else none

/-- Whether an argument asks for the version, perhaps several times over. -/
def asksVersion (arg : String) : Bool :=
  arg == "--version" || (1 < arg.length && arg.toList.head? == some '-' &&
    (arg.toList.drop 1).all (· == 'v'))

/-- **Reads the arguments,** from whether the version was asked for already. It is shown whatever
command follows, but options before the command have to be right. -/
def parseFrom (wantsVersion : Bool) : List String → Option Command
  | [] => if wantsVersion then some .version else none
  | arg :: args =>
    if arg = "--" then if wantsVersion then some .version else named? args
    else if asksVersion arg then parseFrom true args
    else if 1 < arg.length && arg.toList.head? == some '-' then none
    else if wantsVersion then some .version
    else named? (arg :: args)

/-- **What some arguments ask for,** or nothing if they are wrong. -/
def parse? (args : List String) : Option Command :=
  parseFrom false args

end Command

/-! ### Running a command -/

/-- **What running a command shows.** -/
structure Outcome where
  /-- The exit code. -/
  exitCode : Nat
  /-- What is printed. -/
  output : String := ""
  /-- What is printed about errors. -/
  errors : String := ""
  /-- The failure that ended the program, if it was not dealt with. -/
  unhandled : Option Failure := none
  deriving DecidableEq, Repr

/-- The number of this version. -/
def versionNumber : String := "0.1.0"

/-- The query that options make under the settings of a project. -/
def Options.query (o : Options) (s : Settings) : Query :=
  { term := o.search
    useRegex := o.regex.getD s.useRegex
    caseSensitive := o.caseSensitive.getD s.caseSensitive
    highlightMatches := o.highlight.getD s.highlightMatches }

/-- An analysis with the matches of a query marked, if that is asked for. A query that does not
compile marks nothing. -/
def Analysis.marked (a : Analysis) (q : Query) (marker : String) : Analysis :=
  if q.term != "" && q.highlightMatches then
    match Filter.compile q marker with
    | .ok f => a.highlight f
    | .error _ => a
  else a

/-- What is printed of an analysis. -/
def Options.print (o : Options) (a : Analysis) : String :=
  if o.asJson then a.toJson.render ++ "\n" else Display.tables a

/-- **Analyses a directory** and prints the result. -/
def Options.run (o : Options) (d : Disk) (root : Path) : Logged Outcome := do
  match settingsOr none d root with
  | .error f => return { exitCode := 1, unhandled := some f }
  | .ok settings =>
    let query := o.query settings
    let request : Request := { query, extensions := o.extensions, exclude := o.exclude }
    match ← (Session.analyze {} d root request (some settings)).run with
    | .error (.projectNotFound path) =>
      return { exitCode := 1
               errors := "Error: " ++ (Failure.projectNotFound path).message ++ "\n" }
    | .error f => return { exitCode := 2, errors := "Error: " ++ f.message ++ "\n" }
    | .ok (a, _) =>
      return { exitCode := 0, output := o.print (a.marked query settings.highlightMarker) }

/-- **Runs what some arguments ask for.** Wrong arguments have an exit code of their own. -/
def Command.run (d : Disk) (args : List String) : Logged Outcome :=
  match Command.parse? args with
  | none => return { exitCode := 2 }
  | some .idle => return { exitCode := 0 }
  | some .version =>
    return { exitCode := 0, output := "codescout version " ++ versionNumber ++ "\n" }
  | some (.analyze root o) => o.run d (Path.ofString root)

end SourceAtlas
