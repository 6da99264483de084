import SourceAtlas.Proofs.Disk.Walk

/-!
# Changing the content of files

A disk on which the content of a file is another has the same directories, and they list the same
names. So every path leads to the same place, every walk finds the same files in the same order, and
all that can differ is the bytes of the file that was changed. The content of every file is changed
here at once, as a function of its full path and of what it was; the change of a single file is the
case of a function that leaves the others alone.

* `Disk.mapContents`, `Disk.rewrite` — a disk with the content of files changed;
* `Disk.directory?_mapContents` — paths lead to the same directories;
* `Entry.walk_mapContents` — walks find the same files, with changed bytes;
* `Disk.content?_child_mapContents` — a file of a directory is found with its bytes changed.
-/

namespace SourceAtlas

/-- How the content of files changes: by the full path of the file and what it was. -/
abbrev Change := List String → List UInt8 → List UInt8

/-- A file of a walk with its content changed, `place` being where the walk began. -/
def FileAt.mapContent (change : Change) (place : List String) (f : FileAt) : FileAt :=
  { f with bytes := change (place ++ f.parts) f.bytes }

section MapContent

variable (change : Change) (place : List String) (f : FileAt)

/-- A file keeps its place when its content changes, and all that is read off the place. -/
@[simp] theorem FileAt.relative_mapContent :
    (f.mapContent change place).relative = f.relative := rfl

@[simp] theorem FileAt.suffix_mapContent :
    (f.mapContent change place).suffix = f.suffix := rfl

@[simp] theorem FileAt.extension_mapContent :
    (f.mapContent change place).extension = f.extension := rfl

@[simp] theorem FileAt.pathText_mapContent (root : Path) :
    (f.mapContent change place).pathText root = f.pathText root := rfl

end MapContent

namespace Entry

mutual

/-- **A tree with the content of its files changed.** The names lead to the entry, its own the
last. -/
def mapContents (change : Change) (place : List String) : Entry → Entry
  | .file n bytes => .file n (change place bytes)
  | .directory n es link => .directory n (mapContentsAll change place es) link

/-- Trees, each with the content of its files changed, that a directory lists. -/
def mapContentsAll (change : Change) (place : List String) : List Entry → List Entry
  | [] => []
  | e :: es => e.mapContents change (place ++ [e.name]) :: mapContentsAll change place es

end

variable {change : Change}

theorem mapContentsAll_eq_map (place : List String) (es : List Entry) :
    mapContentsAll change place es = es.map fun e => e.mapContents change (place ++ [e.name]) := by
  induction es with
  | nil => rw [mapContentsAll, List.map_nil]
  | cons e es ih => rw [mapContentsAll, ih, List.map_cons]

/-- A change of contents keeps names. -/
@[simp] theorem name_mapContents (place : List String) (e : Entry) :
    (e.mapContents change place).name = e.name := by
  cases e with
  | file n bytes => rw [mapContents, name, name]
  | directory n es link => rw [mapContents, name, name]

/-- A change of contents goes through a directory entry by entry. -/
theorem entries_mapContents (place : List String) (e : Entry) :
    (e.mapContents change place).entries = mapContentsAll change place e.entries := by
  cases e with
  | file n bytes => rw [mapContents, entries, entries, mapContentsAll]
  | directory n es link => rw [mapContents, entries, entries]

/-! ### Walks -/

mutual

/-- Name order is an order of names. -/
theorem ordered_mapContents (place : List String) :
    ∀ e : Entry, (e.mapContents change place).ordered = e.ordered.mapContents change place
  | .file n bytes => by
    rw [mapContents, ordered, ordered, mapContents]
  | .directory n es link => by
    rw [mapContents, ordered, ordered, mapContents, orderedAll_mapContentsAll place es,
      mapContentsAll_eq_map, mapContentsAll_eq_map]
    congr 1
    refine (List.map_mergeSort fun a _ b _ => ?_).symm
    rw [nameLe, nameLe, name_mapContents, name_mapContents]

/-- Sorting is by names, so it commutes with a change of contents. -/
theorem orderedAll_mapContentsAll (place : List String) :
    ∀ es : List Entry,
      orderedAll (mapContentsAll change place es) = mapContentsAll change place (orderedAll es)
  | [] => by
    rw [mapContentsAll, orderedAll, mapContentsAll]
  | e :: es => by
    rw [mapContentsAll, orderedAll, orderedAll, mapContentsAll,
      ordered_mapContents (place ++ [e.name]) e, orderedAll_mapContentsAll place es, name_ordered]

end

/-- The files right in a directory, after a change of contents. -/
theorem filesAt_mapContentsAll (place parts : List String) (es : List Entry) :
    filesAt parts (mapContentsAll change (place ++ parts) es) =
      (filesAt parts es).map (FileAt.mapContent change place) := by
  rw [mapContentsAll_eq_map, filesAt, filesAt, List.filterMap_map, List.map_filterMap]
  congr 1
  funext e
  cases e with
  | file n bytes => simp [mapContents, FileAt.mapContent, name, List.append_assoc]
  | directory n es link => simp [mapContents]

mutual

/-- **A walk finds the same files with other contents,** below an entry. -/
theorem filesBelow_mapContents (skip place parts : List String) :
    ∀ e : Entry, filesBelow skip parts (e.mapContents change (place ++ parts ++ [e.name])) =
      (filesBelow skip parts e).map (FileAt.mapContent change place)
  | .file n bytes => by
    rw [mapContents, filesBelow, filesBelow, List.map_nil]
  | .directory n es link => by
    rw [mapContents, filesBelow, filesBelow, name]
    split
    · rw [List.map_nil]
    · rw [List.append_assoc place, filesAt_mapContentsAll,
        filesBelowAll_mapContentsAll skip place (parts ++ [n]) es, List.map_append]

theorem filesBelowAll_mapContentsAll (skip place parts : List String) :
    ∀ es : List Entry, filesBelowAll skip parts (mapContentsAll change (place ++ parts) es) =
      (filesBelowAll skip parts es).map (FileAt.mapContent change place)
  | [] => by
    rw [mapContentsAll, filesBelowAll, List.map_nil]
  | e :: es => by
    rw [mapContentsAll, filesBelowAll, filesBelowAll, List.map_append,
      filesBelow_mapContents skip place parts e, filesBelowAll_mapContentsAll skip place parts es]

end

/-- **Walks find the same files,** with changed bytes. -/
theorem walk_mapContents (skip place : List String) (e : Entry) :
    (e.mapContents change place).walk skip =
      (e.walk skip).map (FileAt.mapContent change place) := by
  -- the walk starts at the entry itself, with no names behind `place` yet
  have hat : filesAt [] (mapContentsAll change (place ++ []) e.ordered.entries) = _ :=
    filesAt_mapContentsAll place [] e.ordered.entries
  have hbelow : filesBelowAll skip [] (mapContentsAll change (place ++ []) e.ordered.entries) = _ :=
    filesBelowAll_mapContentsAll skip place [] e.ordered.entries
  rw [List.append_nil] at hat hbelow
  unfold walk
  rw [ordered_mapContents, entries_mapContents, hat, hbelow, List.map_append]

end Entry

/-! ### Disks -/

namespace Disk

variable {change : Change} {d : Disk}

/-- **A disk with the content of its files changed.** -/
def mapContents (change : Change) (d : Disk) : Disk :=
  { d with entries := Entry.mapContentsAll change [] d.entries }

/-- **A disk with the content of the file at a place replaced.** Where there is no file, nothing
changes. -/
def rewrite (d : Disk) (place : List String) (bytes : List UInt8) : Disk :=
  d.mapContents fun names old => if names = place then bytes else old

/-- The entries on the way to a place, with the content of their files changed. -/
def mapTrail (change : Change) : List Entry → List Entry
  | [] => []
  | e :: outer => e.mapContents change (fullPath (e :: outer)).parts :: mapTrail change outer

/-- A path leads through the same names. -/
theorem map_name_mapTrail (trail : List Entry) :
    (mapTrail change trail).map Entry.name = trail.map Entry.name := by
  induction trail with
  | nil => rfl
  | cons e outer ih => rw [mapTrail, List.map_cons, List.map_cons, ih, Entry.name_mapContents]

/-- The full path of a place does not depend on contents. -/
theorem fullPath_mapTrail (trail : List Entry) :
    fullPath (mapTrail change trail) = fullPath trail := by
  have hnames : ∀ t : List Entry,
      (t.reverse.drop 1).map Entry.name = ((t.map Entry.name).reverse).drop 1 := by
    intro t
    rw [List.map_drop, List.map_reverse]
  unfold fullPath
  rw [hnames, hnames, map_name_mapTrail]

theorem isEmpty_mapTrail (trail : List Entry) :
    (mapTrail change trail).isEmpty = trail.isEmpty := by
  cases trail with
  | nil => rfl
  | cons e outer => rfl

/-- What a directory lists under a name does not depend on contents. -/
theorem find?_mapContentsAll (place : List String) (es : List Entry) (name : String) :
    (Entry.mapContentsAll change place es).find? (·.name == name) =
      (es.find? (·.name == name)).map fun e => e.mapContents change (place ++ [e.name]) := by
  rw [Entry.mapContentsAll_eq_map, List.find?_map]
  congr 2
  funext e
  rw [Function.comp_apply, Entry.name_mapContents]

/-- **Paths lead to the same places.** -/
theorem follow_mapTrail (trail : List Entry) (names : List String) :
    follow (mapTrail change trail) names = (follow trail names).map (mapTrail change) := by
  induction names generalizing trail with
  | nil => rfl
  | cons name names ih =>
    match trail with
    | [] => rfl
    | .file n bytes :: outer =>
      rw [mapTrail, Entry.mapContents]
      rfl
    | .directory n es link :: outer =>
      have hne : Entry.directory n es link :: outer ≠ [] := List.cons_ne_nil _ _
      have hhead : mapTrail change (.directory n es link :: outer) =
          .directory n (Entry.mapContentsAll change
            (fullPath (.directory n es link :: outer)).parts es) link :: mapTrail change outer := by
        rw [mapTrail, Entry.mapContents]
      rw [hhead]
      simp only [follow]
      split
      · -- two dots: one step out, or none at the root
        rw [isEmpty_mapTrail]
        split
        · rw [← hhead]
          exact ih _
        · exact ih outer
      · rw [find?_mapContentsAll]
        cases es.find? (·.name == name) with
        | none => rfl
        | some e =>
          have hnext := ih (e :: .directory n es link :: outer)
          rw [mapTrail, parts_fullPath_cons hne, hhead] at hnext
          exact hnext

/-- **Finding a path does not look at contents.** -/
theorem find_mapContents (p : Path) :
    (d.mapContents change).find p = (d.find p).map (mapTrail change) := by
  have hroot : [Entry.directory "" (d.mapContents change).entries] =
      mapTrail change [.directory "" d.entries] := by
    rw [mapTrail, Entry.mapContents]
    rfl
  unfold find
  rw [hroot, follow_mapTrail]
  rfl

/-- **Paths lead to the same directories.** -/
theorem directory?_mapContents {p root : Path} {entry : Entry}
    (h : d.directory? p = some (root, entry)) :
    (d.mapContents change).directory? p = some (root, entry.mapContents change root.parts) := by
  obtain ⟨m, es, link, outer, hp, rfl, rfl⟩ := find_of_directory h
  have hfind : (d.mapContents change).find p =
      .ok (mapTrail change (.directory m es link :: outer)) := by
    rw [find_mapContents, hp]
    rfl
  have hpath : fullPath (mapTrail change (.directory m es link :: outer)) = _ := fullPath_mapTrail _
  rw [mapTrail, Entry.mapContents] at hfind hpath
  unfold directory?
  rw [hfind]
  simp only [hpath, Entry.mapContents]

/-- A file has its bytes. -/
theorem content?_of_file {p : Path} {n : String} {bytes : List UInt8} {outer : List Entry}
    (h : d.find p = .ok (.file n bytes :: outer)) : d.content? p = some bytes := by
  unfold content? Disk.entry
  rw [h]

theorem content?_of_directory {p : Path} {n : String} {es outer : List Entry} {link : Bool}
    (h : d.find p = .ok (.directory n es link :: outer)) : d.content? p = none := by
  unfold content? Disk.entry
  rw [h]

theorem content?_of_error {p : Path} {t : Trouble} (h : d.find p = .error t) :
    d.content? p = none := by
  unfold content? Disk.entry
  rw [h]

/-- **A file of a directory is found with its bytes changed.** -/
theorem content?_child_mapContents {p root : Path} {entry : Entry}
    (h : d.directory? p = some (root, entry)) {name : String} (hname : name ≠ "..") :
    (d.mapContents change).content? (root.child name) =
      (d.content? (root.child name)).map (change (root.parts ++ [name])) := by
  obtain ⟨m, es, link, outer, hp, rfl, rfl⟩ := find_of_directory h
  have hne : Entry.directory m es link :: outer ≠ [] := List.cons_ne_nil _ _
  have hchild : d.find ((fullPath (.directory m es link :: outer)).child name) =
      follow (.directory m es link :: outer) [name] := by
    rw [find_child, (Chain.of_find hp).find_fullPath]
    rfl
  have hchange : (d.mapContents change).find
    ((fullPath (.directory m es link :: outer)).child name) =
      (follow (.directory m es link :: outer) [name]).map (mapTrail change) := by
    rw [find_mapContents, hchild]
  -- the directory lists the same names on both disks
  cases hes : es.find? (·.name == name) with
  | none =>
    have hmissing : follow (.directory m es link :: outer) [name] = .error .missing := by
      simp only [follow, if_neg hname, hes]
    rw [hmissing] at hchild hchange
    rw [content?_of_error hchild, content?_of_error hchange]
    rfl
  | some e =>
    obtain rfl : e.name = name := by simpa using List.find?_some hes
    have hmapped : (follow (.directory m es link :: outer) [e.name]).map (mapTrail change) =
        .ok (e.mapContents change ((fullPath (.directory m es link :: outer)).parts ++ [e.name]) ::
          mapTrail change (.directory m es link :: outer)) := by
      rw [follow_singleton hes hname, ← parts_fullPath_cons hne]
      rfl
    rw [follow_singleton hes hname] at hchild
    rw [hmapped] at hchange
    cases e with
    | file n bytes =>
      rw [Entry.mapContents] at hchange
      rw [content?_of_file hchild, content?_of_file hchange]
      rfl
    | directory n es' link' =>
      rw [Entry.mapContents] at hchange
      rw [content?_of_directory hchild, content?_of_directory hchange]
      rfl

end Disk

end SourceAtlas
