import SourceAtlas.Yaml.Literal

/-!
# Values

The value of a document. Nodes are valued breadth first: a collection takes its place at once and
its members follow when all collections before it are done. So of several scalars without a value
the one in the outermost collection is the fault.

* `Value` — what a document says, with all that nobody asks for as `other`;
* `Graph.flatten` — a mapping with what it merges put in front;
* `Value.ofText` — the value of the document in a text.
-/

namespace SourceAtlas.Yaml

/-- **Values.** -/
inductive Value where
  | null
  | bool (b : Bool)
  | int (n : Int)
  | str (s : String)
  /-- Numbers with a point, dates, bytes and sets. -/
  | other
  | seq (items : List Value)
  | map (entries : List (Value × Value))

/-- **What a mapping says at a key** that is a text; of equal keys the last one counts. Nothing if
the key is missing or the value is no mapping. -/
def Value.get? (v : Value) (key : String) : Option Value :=
  match v with
  | .map entries =>
    (entries.reverse.find? fun
      | (.str s, _) => s == key
      | _ => false).map (·.2)
  | _ => none

/-- A node by number. -/
def Graph.node (g : Graph) (id : Nat) : Node :=
  g.getD id (.scalar .null [])

/-! ### Merging -/

/-- **Computations on the nodes of a document.** -/
abbrev Construct := StateT Graph (Except Fault)

mutual

/-- **The entries of a mapping** with those that it merges in front. They take the place of its
entries. -/
def flatten (id : Nat) : Nat → Construct (List (Nat × Nat))
  | 0 => throw Fault.unreadable
  | n + 1 => do
    match (← get).node id with
    | .mapping tag entries =>
      let (merged, own) ← flattenEntries entries n
      modify (·.setIfInBounds id (.mapping tag (merged ++ own)))
      return merged ++ own
    | _ => throw Fault.unreadable

/-- Tells the entries that are merged from those that are a mapping's own. -/
def flattenEntries : List (Nat × Nat) → Nat → Construct (List (Nat × Nat) × List (Nat × Nat))
  | _, 0 => throw Fault.unreadable
  | [], _ => return ([], [])
  | (key, value) :: rest, n + 1 => do
    match ((← get).node key).tag with
    | .merge =>
      let here ← merges value n
      let (merged, own) ← flattenEntries rest n
      return (here ++ merged, own)
    -- the sign for a default value is an ordinary key here
    | .default =>
      match (← get).node key with
      | .scalar _ text => modify (·.setIfInBounds key (.scalar .str text))
      | .sequence _ items => modify (·.setIfInBounds key (.sequence .str items))
      | .mapping _ entries => modify (·.setIfInBounds key (.mapping .str entries))
      let (merged, own) ← flattenEntries rest n
      return (merged, (key, value) :: own)
    | _ =>
      let (merged, own) ← flattenEntries rest n
      return (merged, (key, value) :: own)

/-- The entries that a merged value gives: those of a mapping, or those of several mappings, the
last one first. -/
def merges (value : Nat) : Nat → Construct (List (Nat × Nat))
  | 0 => throw Fault.unreadable
  | n + 1 => do
    match (← get).node value with
    | .mapping .. => flatten value n
    | .sequence _ items => mergesAll items n
    | .scalar .. => throw Fault.unreadable

/-- The entries of several mappings, the last one first. -/
def mergesAll : List Nat → Nat → Construct (List (Nat × Nat))
  | _, 0 => throw Fault.unreadable
  | [], _ => return []
  | item :: items, n + 1 => do
    match (← get).node item with
    | .mapping .. =>
      let here ← flatten item n
      return (← mergesAll items n) ++ here
    | _ => throw Fault.unreadable

end

/-- The number of entries and items of all nodes, which bounds how deep merging goes. -/
def Graph.extent (g : Graph) : Nat :=
  g.foldl (fun n node =>
    n + 2 + match node with
      | .scalar .. => 0
      | .sequence _ items => items.length
      | .mapping _ entries => entries.length) 2

/-! ### Scalars -/

/-- The text of a node under a tag for scalars. A mapping stands for the value of its default
key. -/
def scalarText (g : Graph) : Nat → Nat → Except Fault (List Char)
  | 0, _ => .error .unreadable
  | n + 1, id =>
    match g.node id with
    | .scalar _ text => .ok text
    | .sequence .. => .error .unreadable
    | .mapping _ entries =>
      match entries.find? fun (key, _) => (g.node key).tag == .default with
      | some (_, value) => scalarText g n value
      | none => .error .unreadable

/-- The value of a scalar under a tag. -/
def scalarValue (tag : Tag) (text : List Char) : Except Fault Value :=
  match tag with
  | .null => .ok .null
  | .bool => Value.bool <$> truth text
  | .int => Value.int <$> integer text
  | .float => (fun _ => Value.other) <$> checkFloat text
  | .binary => (fun _ => Value.other) <$> checkBinary text
  | .timestamp => (fun _ => Value.other) <$> checkTimestamp text
  | .str => .ok (.str (String.ofList text))
  | _ => .error .unreadable

/-- Whether a tag is one for collections. -/
def Tag.isCollection : Tag → Bool
  | .seq | .map | .omap | .pairs | .set => true
  | _ => false

/-! ### Breadth first -/

/-- Whether a node is a scalar. -/
def Node.isScalar : Node → Bool
  | .scalar .. => true
  | _ => false

/-- Checks that a node has a value; a collection among these nodes is left for later. Nothing but a
scalar is a date, whatever it stands for. -/
def checkNode (g : Graph) (id : Nat) : Except Fault (List Nat) := do
  let tag := (g.node id).tag
  if tag.isCollection then return [id]
  let text ← scalarText g g.size id
  if tag == .timestamp && !(g.node id).isScalar then throw .notText
  let _ ← scalarValue tag text
  return []

/-- Checks the nodes of an entry, whose key must not be a collection. -/
def checkEntry (g : Graph) (entry : Nat × Nat) : Except Fault (List Nat) := do
  let _ ← checkNode g entry.1
  if (g.node entry.1).tag.isCollection then throw .unreadable
  checkNode g entry.2

/-- Checks the items of an ordered mapping, each a mapping of one entry. -/
def checkPair (g : Graph) (id : Nat) : Except Fault (List Nat) := do
  match g.node id with
  | .mapping _ [(key, value)] => return (← checkNode g key) ++ (← checkNode g value)
  | _ => throw .unreadable

/-- Checks one after the other, and gives the collections among them. -/
def gather {α : Type} (check : α → Except Fault (List Nat)) (xs : List α) :
    Except Fault (List Nat) := do
  return (← xs.mapM check).flatten

/-- Checks the members of a collection, and gives the collections among them. -/
def checkCollection (id : Nat) : Construct (List Nat) := do
  let g ← get
  match (g.node id).tag, g.node id with
  | .seq, .sequence _ items => gather (checkNode g) items
  | .omap, .sequence _ items | .pairs, .sequence _ items => gather (checkPair g) items
  | .map, .mapping .. | .set, .mapping .. =>
    let entries ← flatten id (4 * g.extent)
    gather (checkEntry (← get)) entries
  | _, _ => throw Fault.unreadable

/-- Checks collections in the order in which they were met. -/
def checkAll (seen : List Nat) : List Nat → Nat → Construct Unit
  | [], _ => return ()
  | _, 0 => throw Fault.unreadable
  | id :: pending, n + 1 => do
    if seen.contains id then checkAll seen pending n
    else
      let found ← checkCollection id
      checkAll (id :: seen) (pending ++ found) n

/-- The value of a node, unfolded so many levels deep. -/
def unfold (g : Graph) : Nat → Nat → Value
  | 0, _ => .other
  | n + 1, id =>
    match (g.node id).tag, g.node id with
    | .seq, .sequence _ items => .seq (items.map (unfold g n))
    | .omap, .sequence _ items | .pairs, .sequence _ items => .seq (items.map fun _ => .other)
    | .map, .mapping _ entries =>
      .map (entries.map fun (key, value) => (unfold g n key, unfold g n value))
    | tag, _ =>
      match (scalarText g g.size id).bind (scalarValue tag) with
      | .ok v => v
      | .error _ => .other

/-- How deep values are unfolded; nobody asks deeper. -/
def depth : Nat := 5

/-- **The value of the document in a text.** No document at all says nothing. -/
def Value.ofText (text : List Char) : Except Fault Value := do
  match ← Graph.ofText text with
  | none => return .null
  | some (g, root) =>
    let found ← checkNode g root
    let (_, g') ← (checkAll [] found (2 * g.extent * g.extent)).run g
    return unfold g' depth root

end SourceAtlas.Yaml
