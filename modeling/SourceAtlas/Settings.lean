import SourceAtlas.Disk.Basic
import SourceAtlas.Search.Filter
import SourceAtlas.Yaml.File

/-!
# Settings

What a project may set in a file of its own: how many workers read files, which directories are
skipped, and how searches behave unless a query says otherwise. Every setting is taken by itself:
one that has the wrong shape has its default, whatever the others are.

The file is read by a reader of documents, and how documents are written is its business. What it
takes for a fault of the file sets nothing; what it fails with otherwise is handed on.

* `Settings` — the six settings;
* `Settings.ofValue` — the settings that a document makes;
* `Settings.loadBy` — the settings of a directory, by any reader;
* `Settings.load` — the settings of a directory, by the reader of this library.
-/

namespace SourceAtlas

/-- **The settings of a project.** -/
structure Settings where
  /-- How many workers read files. -/
  maxWorkers : Int := 8
  /-- The names of directories that are skipped. -/
  skipDirectories : List String := ["bin", "obj"]
  /-- Whether case matters. -/
  caseSensitive : Bool := false
  /-- Whether terms are patterns. -/
  useRegex : Bool := false
  /-- Whether matches are marked for display. -/
  highlightMatches : Bool := true
  /-- What is put around matches. -/
  highlightMarker : String := defaultMarker
  deriving DecidableEq, Repr

namespace Settings

open Yaml (Value)

/-- The name of the file. -/
def fileName : String := ".codescout"

/-- What a document says at a key of a section. -/
def lookup (v : Value) (section_ key : String) : Option Value :=
  (v.get? section_).bind (·.get? key)

/-- A positive integer. -/
def positive? : Value → Option Int
  | .int n => if 1 ≤ n then some n else none
  | _ => none

/-- A truth value. -/
def flag? : Value → Option Bool
  | .bool b => some b
  | _ => none

/-- A text. -/
def text? : Value → Option String
  | .str s => some s
  | _ => none

/-- A list of texts. -/
def texts? : Value → Option (List String)
  | .seq items => items.mapM text?
  | _ => none

/-- **The settings that a document makes.** -/
def ofValue (v : Value) : Settings :=
  let fallback : Settings := {}
  { maxWorkers := ((lookup v "analysis" "max_workers").bind positive?).getD fallback.maxWorkers
    skipDirectories :=
      ((lookup v "analysis" "skip_directories").bind texts?).getD fallback.skipDirectories
    caseSensitive := ((lookup v "search" "case_sensitive").bind flag?).getD fallback.caseSensitive
    useRegex := ((lookup v "search" "use_regex").bind flag?).getD fallback.useRegex
    highlightMatches :=
      ((lookup v "search" "highlight_matches").bind flag?).getD fallback.highlightMatches
    highlightMarker :=
      ((lookup v "search" "highlight_marker").bind text?).getD fallback.highlightMarker }

/-- **The settings that reading a file makes.** A file that cannot be had, that is no text or that
is no document sets nothing; any other fault is handed on. -/
def ofReading {ε : Type} : Except (Yaml.Refusal ε) Value → Except ε Settings
  | .ok v => .ok (ofValue v)
  | .error .inaccessible | .error .undecodable | .error .malformed => .ok {}
  | .error (.other fault) => .error fault

/-- **The settings of the directory at a path,** by a reader of documents. Without a file nothing is
set. -/
def loadBy {ε : Type} (read : List UInt8 → Except (Yaml.Refusal ε) Value) (d : Disk) (p : Path) :
    Except ε Settings :=
  match d.content? (p.child fileName) with
  | none => .ok {}
  | some bytes => ofReading (read bytes)

/-- **The settings of the directory at a path.** -/
def load (d : Disk) (p : Path) : Except Yaml.Fault Settings :=
  loadBy Value.ofBytes d p

/-- A file with a document sets what the document says. -/
theorem load_of_ofText {d : Disk} {p : Path} {bytes : List UInt8} {text : List Char} {v : Value}
    (hcontent : d.content? (p.child fileName) = some bytes) (hdecode : Text.decode bytes = .ok text)
    (hv : Value.ofText (Text.unixLines text) = .ok v) : load d p = .ok (ofValue v) := by
  have hread : Value.ofBytes bytes = .ok v := by
    simp only [Value.ofBytes, hdecode, hv]
    rfl
  rw [load, loadBy, hcontent]
  exact congrArg ofReading hread

end Settings

end SourceAtlas
