import SourceAtlas.Entity.Basic
import SourceAtlas.Regex.Parse
import SourceAtlas.Regex.Match
import SourceAtlas.Text.Split

/-!
# Searching and highlighting

A query is a term with three options. A filter is what a query compiles to: it decides which texts
and entities match, and it can show a text with a marker on both sides of every match. Stored
entities are never changed; highlighting makes copies for display.

* `Filter.ofQuery` — compiles a query, or says what is wrong with its pattern;
* `Filter.matchesText`, `Filter.matchesEntity` — inclusion; an entity matches if any of its
  searchable strings does;
* `Filter.highlight` — a text with its matches marked.
-/

namespace SourceAtlas

/-- What to search for, and how. -/
structure Query where
  /-- The term; the empty term matches everything. -/
  term : String := ""
  /-- Whether the term is a pattern. -/
  useRegex : Bool := false
  /-- Whether case matters. -/
  caseSensitive : Bool := false
  /-- Whether matches are to be marked for display. -/
  highlightMatches : Bool := true
  deriving DecidableEq, Repr

/-- The marker put around matches unless another is chosen. -/
def defaultMarker : String := "**"

/-- What a filter looks for. -/
inductive Criterion where
  /-- Nothing; everything matches. -/
  | everything
  /-- The characters of a term as they stand. -/
  | exactly (term : List Char)
  /-- The characters of a term up to case. -/
  | upToCase (term : List Char)
  /-- A pattern. -/
  | pattern (regex : Regex)

/-- **A compiled query.** -/
structure Filter where
  /-- What it looks for. -/
  criterion : Criterion
  /-- What is put on both sides of a match. -/
  marker : String

/-- What a list of entities looks like after filtering, and why. -/
inductive Status where
  /-- There is something to show. -/
  | ok
  /-- There was nothing to begin with. -/
  | empty
  /-- The filter removed everything. -/
  | noMatches
  /-- The search pattern did not compile. -/
  | invalidPattern
  deriving DecidableEq, Repr

/-- The word for a status. -/
def Status.label : Status → String
  | .ok => "ok"
  | .empty => "empty"
  | .noMatches => "no_matches"
  | .invalidPattern => "invalid_pattern"

namespace Filter

/-- The filter that everything passes. -/
def all (marker : String) : Filter :=
  ⟨.everything, marker⟩

/-- **Compiles a query.** -/
def ofQuery (q : Query) (marker : String) : Except Regex.Fault Filter :=
  if q.term = "" then .ok (all marker)
  else if q.useRegex then do
    return ⟨.pattern (← Regex.parse (!q.caseSensitive) q.term.toList), marker⟩
  else if q.caseSensitive then .ok ⟨.exactly q.term.toList, marker⟩
  else .ok ⟨.upToCase q.term.toList, marker⟩

/-- Whether the filter looks for anything. -/
def isActive (f : Filter) : Bool :=
  match f.criterion with
  | .everything => false
  | _ => true

/-- The pattern whose matches are marked. -/
def regex? (f : Filter) : Option Regex :=
  match f.criterion with
  | .everything => none
  | .exactly term => some (Regex.cat (term.map Regex.lit))
  | .upToCase term => some (Regex.cat (term.map Regex.litFold))
  | .pattern r => some r

/-- **Whether a text matches.** -/
def matchesText (f : Filter) (s : String) : Bool :=
  match f.criterion with
  | .everything => true
  | .exactly term => Text.occursIn term s.toList
  | .upToCase term => ((Regex.cat (term.map Regex.litFold)).search s.toList).isSome
  | .pattern r => (r.search s.toList).isSome

/-- Whether any of some texts matches. -/
def matchesAny (f : Filter) (texts : List String) : Bool :=
  texts.any f.matchesText

/-- **Whether an entity matches.** -/
def matchesEntity (f : Filter) (e : Entity) : Bool :=
  f.matchesAny e.searchable

/-- **Keeps what matches,** and says why the list looks the way it does. -/
def keep {α : Type} (f : Filter) (searchable : α → List String) (items : List α) :
    List α × Status :=
  if items.isEmpty then ([], .empty)
  else if !f.isActive then (items, .ok)
  else
    let kept := items.filter fun a => f.matchesAny (searchable a)
    (kept, if kept.isEmpty then .noMatches else .ok)

/-! ### Highlighting -/

/-- Rebuilds a text from some spans in order, with a marker around each span that is not empty.
`pos` is the offset of `rest` in the text. -/
def markSpans (marker : List Char) : List (Nat × Nat) → Nat → List Char → List Char
  | [], _, rest => rest
  | (start, stop) :: spans, pos, rest =>
    if start = stop then markSpans marker spans pos rest
    else
      rest.take (start - pos) ++ marker ++ (rest.drop (start - pos)).take (stop - start) ++
        marker ++ markSpans marker spans stop (rest.drop (stop - pos))

/-- The spans of all matches of a pattern. -/
def spans (r : Regex) (text : List Char) : List (Nat × Nat) :=
  (r.findAll text).map fun m => (m.startPos, m.endPos)

/-- **A text with its matches marked.** -/
def highlight (f : Filter) (s : String) : String :=
  match f.regex? with
  | none => s
  | some r => String.ofList (markSpans f.marker.toList (spans r s.toList) 0 s.toList)

/-- A method with its name marked. -/
def highlightMethod (f : Filter) (m : Method) : Method :=
  { m with name := f.highlight m.name }

/-- A function with its searchable strings marked. -/
def highlightFunction (f : Filter) (e : FunctionEntity) : FunctionEntity :=
  { e with name := f.highlight e.name, parameters := e.parameters.map f.highlight }

/-- A class with its searchable strings marked. -/
def highlightClass (f : Filter) (e : ClassEntity) : ClassEntity :=
  { e with name := f.highlight e.name, methods := e.methods.map f.highlightMethod }

/-- A namespace with its name marked. -/
def highlightNamespace (f : Filter) (e : NamespaceEntity) : NamespaceEntity :=
  { e with name := f.highlight e.name }

/-- A component with its searchable strings marked. -/
def highlightComponent (f : Filter) (e : ComponentEntity) : ComponentEntity :=
  { e with
    name := f.highlight e.name
    props := e.props.map f.highlight
    hooks := e.hooks.map f.highlight
    data := e.data.map f.highlight
    methods := e.methods.map f.highlight
    computedProperties := e.computedProperties.map f.highlight }

/-- **An entity with its searchable strings marked.** -/
def highlightEntity (f : Filter) : Entity → Entity
  | .function e => .function (f.highlightFunction e)
  | .cls e => .cls (f.highlightClass e)
  | .space e => .space (f.highlightNamespace e)
  | .component e => .component (f.highlightComponent e)

end Filter

end SourceAtlas
