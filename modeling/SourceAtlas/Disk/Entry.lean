import SourceAtlas.Distinct

/-!
# Files and directories

A snapshot of part of a file system as a tree. The order in which a directory lists its entries
carries no meaning; whoever shows entries orders them by name first.

Links are part of the tree by what they lead to. A link to a file is a file with the bytes of that
file. A link to a directory is a directory with the entries of that directory, and it is marked as a
link: some go through links and some do not. A link that leads nowhere, or in a circle for too long,
is listed as a file. A file that cannot be opened, such a link included, has no bytes. Who follows a
path through a link keeps the names that the path has.

* `Entry` — a file with its bytes, or a directory with its entries;
* `Entry.ordered` — the same tree with every directory in name order;
* `Entry.put`, `Entry.erase` — a tree with one entry changed.
-/

namespace SourceAtlas

/-- **A file or a directory,** under the name by which it is listed. -/
inductive Entry where
  | file (name : String) (bytes : List UInt8)
  /-- A directory, or a link to one. -/
  | directory (name : String) (entries : List Entry) (isLink : Bool := false)

namespace Entry

/-- The name under which an entry is listed. -/
def name : Entry → String
  | .file n _ => n
  | .directory n _ _ => n

/-- What a directory lists; nothing for a file. -/
def entries : Entry → List Entry
  | .file .. => []
  | .directory _ es _ => es

/-- Whether an entry is a link to a directory. -/
def isLink : Entry → Bool
  | .file .. => false
  | .directory _ _ link => link

/-- Name order on entries. -/
def nameLe (a b : Entry) : Bool :=
  stringLe a.name b.name

/-- Whether a name is hidden. -/
def isHidden (name : String) : Bool :=
  name.toList.head? == some '.'

mutual

/-- **The same tree in name order.** -/
def ordered : Entry → Entry
  | .file n bytes => .file n bytes
  | .directory n es link => .directory n ((orderedAll es).mergeSort nameLe) link

/-- The same trees, each in name order. -/
def orderedAll : List Entry → List Entry
  | [] => []
  | e :: es => e.ordered :: orderedAll es

end

/-! ### Changing a tree -/

/-- Entries without the one of this name. -/
def without (name : String) (es : List Entry) : List Entry :=
  es.filter (·.name != name)

/-- The directory of this name among some entries, or else an empty one. -/
def subdirectory (name : String) (es : List Entry) : Entry :=
  (es.find? (·.name == name)).getD (.directory name [])

/-- **Puts an entry at a path** below some entries, making directories on the way. A directory that
is put where there is one leaves it as it is. -/
def put (leaf : String → Entry) : List String → List Entry → List Entry
  | [], es => es
  | [n], es =>
    match leaf n, es.find? (·.name == n) with
    | .directory .., some (.directory ..) => es
    | e, _ => without n es ++ [e]
  | n :: rest, es =>
    let way := subdirectory n es
    without n es ++ [.directory n (put leaf rest way.entries) way.isLink]

/-- **Takes away what is at a path,** a directory with all that is in it. -/
def erase : List String → List Entry → List Entry
  | [], es => es
  | [n], es => without n es
  | n :: rest, es =>
    es.map fun
      | .directory m sub link => .directory m (if m = n then erase rest sub else sub) link
      | .file m bytes => .file m bytes

end Entry

end SourceAtlas
