import SourceAtlas.Proofs.Disk.Walk
import SourceAtlas.Proofs.Order

/-!
# The outline lists the walk, and what is behind links

The walk and the outline go over the same tree, each with tests of its own for what is not shown:
the walk lists files and only stays out of directories, the outline keeps a tree and leaves hidden
files out of it. They differ in links to directories, which the walk does not enter and the outline
does. Read from top to bottom, files before subdirectories, the outline gives the paths of the walk
over the tree in which links are followed, without the hidden files, in the same order
(`shownPaths_filesBelow`); and the walk over the tree itself is a part of it
(`sublist_walk_followed`).

What the views show is said here without them: a file lies below a directory at a path, with or
without links on it (`Entry.LiesBelow`), and it is found if no directory on that path, above the
file, is hidden or skipped. That the file's own name is not tested by the walk is part of the
statement.

Neither view depends on the order in which the directories list their entries. A file system may
list the same tree in many orders (`Entry.Relisted`); all of them have one and the same tree in name
order, because names are distinct in a directory (`Entry.WellFormed.ordered_eq`).

* `Entry.followed` — a tree in which links are the directories they lead to;
* `Entry.WellFormed.mem_walk_iff` — the files that a walk finds;
* `Disk.Relisted.entry` — paths lead to the same entry, relisted;
* `outline_lists_walk_and_links` — all of this for the directory at a path of a disk;
* `link_outlined_but_not_walked` — the two views are not the same.
-/

namespace SourceAtlas

/-! ### What the two views show -/

/-- Whether the name of a file is hidden. -/
def FileAt.isHidden (f : FileAt) : Bool :=
  f.parts.getLast?.any Entry.isHidden

/-- The paths of the files that are not hidden. -/
def shownPaths (fs : List FileAt) : List (List String) :=
  (fs.filter fun f => !f.isHidden).map FileAt.parts

theorem shownPaths_append (fs gs : List FileAt) :
    shownPaths (fs ++ gs) = shownPaths fs ++ shownPaths gs := by
  rw [shownPaths, List.filter_append, List.map_append]
  rfl

/-- A path is shown just when a file has it and its name is not hidden. -/
theorem mem_shownPaths_iff {fs : List FileAt} {parts : List String} :
    parts ∈ shownPaths fs ↔
      (∃ f ∈ fs, f.parts = parts) ∧ ∀ n ∈ parts.getLast?, Entry.isHidden n = false := by
  have hshown : ∀ f : FileAt,
      (!f.isHidden) = true ↔ ∀ n ∈ f.parts.getLast?, Entry.isHidden n = false := by
    intro f
    rw [FileAt.isHidden]
    cases f.parts.getLast? <;> simp
  rw [shownPaths, List.mem_map]
  constructor
  · rintro ⟨f, hf, rfl⟩
    obtain ⟨hmem, hf⟩ := List.mem_filter.mp hf
    exact ⟨⟨f, hmem, rfl⟩, (hshown f).mp hf⟩
  · rintro ⟨⟨f, hmem, rfl⟩, hf⟩
    exact ⟨f, List.mem_filter.mpr ⟨hmem, (hshown f).mpr hf⟩, rfl⟩

/-- Files apart from each other have paths that are shown once. -/
theorem nodup_shownPaths {fs : List FileAt} (h : fs.Pairwise Entry.Apart) :
    (shownPaths fs).Nodup :=
  List.pairwise_map.mpr (h.filter _)

/-! ### Following links -/

namespace Entry

mutual

/-- **A tree in which links are the directories they lead to.** -/
def followed : Entry → Entry
  | .file n bytes => .file n bytes
  | .directory n es _ => .directory n (followedAll es)

/-- Trees that a directory lists, each with its links followed. -/
def followedAll : List Entry → List Entry
  | [] => []
  | e :: es => e.followed :: followedAll es

end

theorem followedAll_eq_map (es : List Entry) : followedAll es = es.map followed := by
  induction es with
  | nil => rw [followedAll, List.map_nil]
  | cons e es ih => rw [followedAll, ih, List.map_cons]

/-- A link keeps its name when it is followed. -/
@[simp] theorem name_followed (e : Entry) : e.followed.name = e.name := by
  cases e with
  | file n bytes => rw [followed]
  | directory n es link => rw [followed, name, name]

/-- Following links goes through a directory entry by entry. -/
theorem entries_followed (e : Entry) : e.followed.entries = followedAll e.entries := by
  cases e with
  | file n bytes => rw [followed, entries, followedAll]
  | directory n es link => rw [followed, entries, entries]

/-- Names that are distinct stay distinct when links are followed. -/
theorem WellFormed.followed {e : Entry} (h : e.WellFormed) : e.followed.WellFormed := by
  induction h with
  | file =>
    rw [Entry.followed]
    exact .file
  | @directory n es link distinct plain inner ih =>
    rw [Entry.followed, followedAll_eq_map]
    refine .directory ?_ ?_ ?_
    · simpa [Function.comp_def] using distinct
    · intro e he
      obtain ⟨e', he', rfl⟩ := List.mem_map.mp he
      rw [name_followed]
      exact plain e' he'
    · intro e he
      obtain ⟨e', he', rfl⟩ := List.mem_map.mp he
      exact ih e' he'

mutual

/-- Name order is the same with links followed. -/
theorem ordered_followed : ∀ e : Entry, e.followed.ordered = e.ordered.followed
  | .file n bytes => by
    rw [followed, ordered, followed]
  | .directory n es link => by
    rw [followed, ordered, ordered, followed, orderedAll_followedAll es, followedAll_eq_map,
      followedAll_eq_map]
    congr 1
    refine (List.map_mergeSort fun a _ b _ => ?_).symm
    rw [nameLe, nameLe, name_followed, name_followed]

/-- Sorting is by names, so it does not matter whether links are followed before or after it. -/
theorem orderedAll_followedAll :
    ∀ es : List Entry, orderedAll (followedAll es) = followedAll (orderedAll es)
  | [] => by
    rw [followedAll, orderedAll, followedAll]
  | e :: es => by
    rw [followedAll, orderedAll, orderedAll, followedAll, ordered_followed e,
      orderedAll_followedAll es]

end

/-- The files right in a directory are the same: a link to a directory is no file either way. -/
theorem filesAt_followedAll (parts : List String) (es : List Entry) :
    filesAt parts (followedAll es) = filesAt parts es := by
  rw [followedAll_eq_map, filesAt, filesAt, List.filterMap_map]
  congr 1
  funext e
  cases e with
  | file n bytes => rw [Function.comp_apply, followed]
  | directory n es link => rw [Function.comp_apply, followed]

mutual

/-- **The walk finds a part of what there is with links followed,** below an entry. -/
theorem sublist_filesBelow_followed (skip parts : List String) :
    ∀ e : Entry, (filesBelow skip parts e).Sublist (filesBelow skip parts e.followed)
  | .file n bytes => by
    rw [followed]
  | .directory n es link => by
    rw [followed, filesBelow, filesBelow]
    cases link with
    | true => exact List.nil_sublist _
    | false =>
      split
      · exact List.nil_sublist _
      · rw [filesAt_followedAll]
        exact (sublist_filesBelowAll_followed skip (parts ++ [n]) es).append_left _

/-- Following links only adds files to a walk. -/
theorem sublist_filesBelowAll_followed (skip parts : List String) :
    ∀ es : List Entry,
      (filesBelowAll skip parts es).Sublist (filesBelowAll skip parts (followedAll es))
  | [] => by
    rw [followedAll]
  | e :: es => by
    rw [followedAll, filesBelowAll, filesBelowAll]
    exact (sublist_filesBelow_followed skip parts e).append
      (sublist_filesBelowAll_followed skip parts es)

end

/-- **The walk is a part of the walk with links followed,** in the same order. -/
theorem sublist_walk_followed (skip : List String) (e : Entry) :
    (e.walk skip).Sublist (e.followed.walk skip) := by
  unfold walk
  rw [ordered_followed, entries_followed, filesAt_followedAll]
  exact (sublist_filesBelowAll_followed skip [] e.ordered.entries).append_left _

end Entry

/-! ### Outlines -/

namespace Outline

mutual

/-- **The paths of an outline from top to bottom:** the files of a directory, then its
subdirectories in order. The names lead to the directory. -/
def paths (parts : List String) : Outline → List (List String)
  | .node _ files subdirectories =>
    files.map (fun n => parts ++ [n]) ++ pathsAll parts subdirectories

/-- The paths of outlines that a directory lists. -/
def pathsAll (parts : List String) : List Outline → List (List String)
  | [] => []
  | o :: os => o.paths (parts ++ [o.name]) ++ pathsAll parts os

end

/-- The files of a directory that are shown are those that are not hidden. -/
theorem map_shownFiles (parts : List String) (es : List Entry) :
    (shownFiles es).map (fun n => parts ++ [n]) = shownPaths (Entry.filesAt parts es) := by
  induction es with
  | nil => rfl
  | cons e es ih =>
    cases e with
    | directory n sub link => exact ih
    | file n bytes =>
      -- the name is the last part of the path, so both tests are of the same name
      have hlast : FileAt.isHidden ⟨parts ++ [n], bytes⟩ = Entry.isHidden n := by
        rw [FileAt.isHidden, List.getLast?_concat, Option.any_some]
      have hfiles : Entry.filesAt parts (.file n bytes :: es) =
          ⟨parts ++ [n], bytes⟩ :: Entry.filesAt parts es := rfl
      have hshown : shownFiles (.file n bytes :: es) =
          if Entry.isHidden n then shownFiles es else n :: shownFiles es := by
        simp only [shownFiles, List.filterMap_cons]
        cases Entry.isHidden n <;> rfl
      rw [hfiles, hshown, shownPaths, List.filter_cons, hlast]
      cases Entry.isHidden n with
      | true => exact ih
      | false => exact congrArg (List.cons (parts ++ [n])) ih

mutual

/-- **Below an entry, the outline has the paths of the walk** with links followed. -/
theorem shownPaths_filesBelow (skip parts : List String) :
    ∀ e : Entry, pathsAll parts (ofEntry skip e) = shownPaths (e.followed.filesBelow skip parts)
  | .file n bytes => by
    rw [ofEntry, pathsAll, Entry.followed, Entry.filesBelow]
    rfl
  | .directory n es link => by
    rw [ofEntry, Entry.followed, Entry.filesBelow, Bool.false_or]
    split
    · rw [pathsAll]
      rfl
    · rw [pathsAll, pathsAll, List.append_nil, paths, name, map_shownFiles,
        shownPaths_filesBelowAll skip (parts ++ [n]) es, Entry.filesAt_followedAll,
        shownPaths_append]

/-- **The outline shows what a walk finds that follows links,** below a list of entries. -/
theorem shownPaths_filesBelowAll (skip parts : List String) :
    ∀ es : List Entry, pathsAll parts (ofEntries skip es) =
      shownPaths (Entry.filesBelowAll skip parts (Entry.followedAll es))
  | [] => by
    rw [ofEntries, pathsAll, Entry.followedAll, Entry.filesBelowAll]
    rfl
  | e :: es => by
    have happend : ∀ os os' : List Outline,
        pathsAll parts (os ++ os') = pathsAll parts os ++ pathsAll parts os' := by
      intro os os'
      induction os with
      | nil => rw [pathsAll, List.nil_append, List.nil_append]
      | cons o os ih => rw [List.cons_append, pathsAll, pathsAll, ih, List.append_assoc]
    rw [ofEntries, Entry.followedAll, Entry.filesBelowAll, happend, shownPaths_append,
      shownPaths_filesBelow skip parts e, shownPaths_filesBelowAll skip parts es]

end

/-- **The outline has the paths of the walk with links followed,** without those of hidden files. -/
theorem paths_ofDirectory {skip : List String} {n : String} (hn : Entry.isSkipped skip n = false)
    (e : Entry) : (ofDirectory skip n e).paths [] = shownPaths (e.followed.walk skip) := by
  rw [ofDirectory, if_neg (Bool.eq_false_iff.mp hn), paths, map_shownFiles,
    shownPaths_filesBelowAll, ← shownPaths_append, Entry.walk, Entry.ordered_followed,
    Entry.entries_followed, Entry.filesAt_followedAll]

end Outline

/-! ### What the walk finds -/

namespace Entry

theorem isSkipped_eq_false_iff {skip : List String} {n : String} :
    isSkipped skip n = false ↔ isHidden n = false ∧ n ∉ skip := by
  rw [isSkipped, Bool.or_eq_false_iff, List.contains_eq_mem, decide_eq_false_iff_not]

/-- **A file lies below a directory** at a path: the directory lists it, or lists a directory that
it lies below. Only with `links` the path may lead through links. -/
inductive LiesBelow (links : Bool) : Entry → List String → List UInt8 → Prop
  | listed {m n : String} {es : List Entry} {link : Bool} {bytes : List UInt8}
      (listed : .file n bytes ∈ es) : LiesBelow links (.directory m es link) [n] bytes
  | deeper {m n : String} {es sub : List Entry} {link link' : Bool} {parts : List String}
      {bytes : List UInt8} (listed : .directory n sub link' ∈ es)
        (way : link' = true → links = true)
      (below : LiesBelow links (.directory n sub link') parts bytes) :
      LiesBelow links (.directory m es link) (n :: parts) bytes

/-- A file below a directory has a name at least. -/
theorem LiesBelow.ne_nil {links : Bool} {e : Entry} {parts : List String} {bytes : List UInt8}
    (h : LiesBelow links e parts bytes) : parts ≠ [] := by
  cases h with
  | listed => exact List.cons_ne_nil _ _
  | deeper => exact List.cons_ne_nil _ _

/-- No directory on a path, above the file, is hidden or skipped. -/
def Entered (skip parts : List String) : Prop :=
  ∀ n ∈ parts.dropLast, isHidden n = false ∧ n ∉ skip

/-- Directories on the way to a file, one at a time. -/
theorem entered_cons_iff {skip parts : List String} (hne : parts ≠ []) {n : String} :
    Entered skip (n :: parts) ↔ isSkipped skip n = false ∧ Entered skip parts := by
  rw [Entered, List.dropLast_cons_of_ne_nil hne, List.forall_mem_cons, isSkipped_eq_false_iff]
  rfl

/-- The files of a directory and those below its entries. -/
def filesUnder (skip parts : List String) (e : Entry) : List FileAt :=
  filesAt parts e.entries ++ filesBelowAll skip parts e.entries

variable {e : Entry} {skip parts : List String} {f : FileAt}

/-- The files right in a directory. -/
theorem mem_filesAt_iff {es : List Entry} :
    f ∈ filesAt parts es ↔ ∃ n, .file n f.bytes ∈ es ∧ f.parts = parts ++ [n] := by
  constructor
  · intro h
    obtain ⟨e, he, hf⟩ := List.mem_filterMap.mp h
    cases e with
    | file n bytes =>
      obtain rfl := Option.some.inj hf
      exact ⟨n, he, rfl⟩
    | directory n sub link => cases hf
  · rintro ⟨n, hn, hparts⟩
    refine List.mem_filterMap.mpr ⟨_, hn, ?_⟩
    show some (⟨parts ++ [n], f.bytes⟩ : FileAt) = some f
    rw [← hparts]

/-- The files below an entry: it has to be a directory that is not skipped. -/
theorem mem_filesBelow_iff :
    f ∈ filesBelow skip parts e ↔ ∃ n sub, e = .directory n sub ∧ isSkipped skip n = false ∧
      f ∈ filesUnder skip (parts ++ [n]) e := by
  cases e with
  | file n bytes => exact iff_of_false List.not_mem_nil fun ⟨_, _, h, _⟩ => by cases h
  | directory n sub link =>
    rw [filesBelow]
    split
    · next hskipped =>
      -- a link or a skipped directory has nothing below it
      refine iff_of_false List.not_mem_nil ?_
      rintro ⟨n', sub', heq, hn, -⟩
      cases heq
      rw [hn] at hskipped
      cases hskipped
    · next hentered =>
      obtain ⟨rfl, hn⟩ := Bool.or_eq_false_iff.mp (Bool.eq_false_iff.mpr hentered)
      constructor
      · exact fun h => ⟨n, sub, rfl, hn, h⟩
      · rintro ⟨n', sub', heq, -, h⟩
        cases heq
        exact h

/-- The files under a directory are those right in it and those below its entries. -/
theorem mem_filesUnder_iff :
    f ∈ filesUnder skip parts e ↔ f ∈ filesAt parts e.entries ∨
      ∃ e' ∈ e.entries, f ∈ filesBelow skip parts e' := by
  rw [filesUnder, List.mem_append, filesBelowAll_eq_flatMap, List.mem_flatMap]

/-- What is found below a directory lies there, on a path that was entered. -/
theorem WellFormed.liesBelow_of_mem_filesUnder (h : e.WellFormed)
    (hf : f ∈ filesUnder skip parts e) :
    ∃ rest, f.parts = parts ++ rest ∧ LiesBelow false e rest f.bytes ∧ Entered skip rest := by
  induction h generalizing parts with
  | file => cases hf
  | @directory m es link distinct plain inner ih =>
    rcases mem_filesUnder_iff.mp hf with hf | ⟨e, he, hf⟩
    · obtain ⟨n, hn, hparts⟩ := mem_filesAt_iff.mp hf
      exact ⟨[n], hparts, .listed hn, fun _ hx => by cases hx⟩
    · obtain ⟨n, sub, rfl, hn, hf⟩ := mem_filesBelow_iff.mp hf
      obtain ⟨rest, hparts, hbelow, hentered⟩ := ih _ he hf
      refine ⟨n :: rest, ?_, .deeper he id hbelow,
        (entered_cons_iff hbelow.ne_nil).mpr ⟨hn, hentered⟩⟩
      rw [hparts, List.append_assoc]
      rfl

/-- What lies below a directory, on a path that is entered, is found. -/
theorem LiesBelow.mem_filesUnder {rest : List String} {bytes : List UInt8}
    (h : LiesBelow false e rest bytes) (hentered : Entered skip rest) :
    ⟨parts ++ rest, bytes⟩ ∈ filesUnder skip parts e := by
  induction h generalizing parts with
  | @listed m n es link bytes hn =>
    exact mem_filesUnder_iff.mpr (.inl (mem_filesAt_iff.mpr ⟨n, hn, rfl⟩))
  | @deeper m n es sub link link' rest bytes hn way below ih =>
    obtain rfl : link' = false := Bool.eq_false_iff.mpr fun hlink => Bool.noConfusion (way hlink)
    obtain ⟨hskip, hentered⟩ := (entered_cons_iff below.ne_nil).mp hentered
    refine mem_filesUnder_iff.mpr (.inr ⟨_, hn, mem_filesBelow_iff.mpr ⟨n, sub, rfl, hskip, ?_⟩⟩)
    have hfound := @ih (parts ++ [n]) hentered
    rwa [List.append_assoc] at hfound

/-- Only a file is a file when links are followed. -/
theorem eq_file_of_followed {n : String} {bytes : List UInt8} (h : e.followed = .file n bytes) :
    e = .file n bytes := by
  cases e with
  | file n' bytes' => rwa [followed] at h
  | directory n' es link =>
    rw [followed] at h
    cases h

/-- Only a directory is a directory when links are followed: it may have been a link, and what it
lists has its links followed. -/
theorem eq_directory_of_followed {n : String} {es : List Entry} {link : Bool}
    (h : e.followed = .directory n es link) :
    ∃ es' link', e = .directory n es' link' ∧ es = es'.map followed := by
  cases e with
  | file n' bytes =>
    rw [followed] at h
    cases h
  | directory n' es' link' =>
    rw [followed, followedAll_eq_map] at h
    obtain ⟨rfl, rfl, -⟩ := Entry.directory.inj h
    exact ⟨es', link', rfl, rfl⟩

/-- **With links followed, the files lie where they lay** with links on the path. -/
theorem liesBelow_followed_iff {rest : List String} {bytes : List UInt8} :
    LiesBelow false e.followed rest bytes ↔ LiesBelow true e rest bytes := by
  constructor
  · intro h
    -- on the path; the tree it lies in is taken back to the one with links, level by level
    generalize hfollowed : e.followed = e' at h
    induction h generalizing e with
    | @listed m n es link bytes hn =>
      obtain ⟨es', link', rfl, rfl⟩ := eq_directory_of_followed hfollowed
      obtain ⟨x, hx, heq⟩ := List.mem_map.mp hn
      obtain rfl := eq_file_of_followed heq
      exact .listed hx
    | @deeper m n es sub link link' rest bytes hn way below ih =>
      obtain ⟨es', link'', rfl, rfl⟩ := eq_directory_of_followed hfollowed
      obtain ⟨x, hx, heq⟩ := List.mem_map.mp hn
      -- the directory on the path may be a link, which the path may lead through
      obtain ⟨sub', mark, rfl, -⟩ := eq_directory_of_followed heq
      exact .deeper hx (fun _ => rfl) (ih heq)
  · intro h
    induction h with
    | @listed m n es link bytes hn =>
      rw [followed, followedAll_eq_map]
      have hlisted := List.mem_map_of_mem (f := followed) hn
      rw [followed] at hlisted
      exact .listed hlisted
    | @deeper m n es sub link link' rest bytes hn way below ih =>
      rw [followed] at ih
      rw [followed, followedAll_eq_map]
      have hlisted := List.mem_map_of_mem (f := followed) hn
      rw [followed] at hlisted
      exact .deeper hlisted id ih

/-! ### The same tree, listed in another order -/

/-- **The same tree, listed in another order:** each entry of a directory is listed again, relisted
itself, and in any place. -/
inductive Relisted : Entry → Entry → Prop
  | file {n : String} {bytes : List UInt8} : Relisted (.file n bytes) (.file n bytes)
  | directory {n : String} {es es' : List Entry} {link : Bool} (again : Entry → Entry)
      (inner : ∀ e ∈ es, Relisted e (again e)) (listed : (es.map again).Perm es') :
      Relisted (.directory n es link) (.directory n es' link)

theorem Relisted.name_eq {e' : Entry} (h : Relisted e e') : e'.name = e.name := by
  cases h <;> rfl

/-- The order as it is is one of the orders. -/
theorem WellFormed.relisted_self (h : e.WellFormed) : Relisted e e := by
  induction h with
  | file => exact .file
  | directory distinct plain inner ih => exact .directory id ih (by rw [List.map_id])

/-- And name order is another. -/
theorem WellFormed.relisted_ordered (h : e.WellFormed) : Relisted e e.ordered := by
  induction h with
  | file => exact .file
  | @directory n es link distinct plain inner ih =>
    refine .directory Entry.ordered ih ?_
    rw [← orderedAll_eq_map]
    exact (List.mergeSort_perm _ _).symm

/-- The same files lie below it. -/
theorem Relisted.liesBelow_iff {e' : Entry} (h : Relisted e e') {links : Bool}
    {rest : List String} {bytes : List UInt8} :
    LiesBelow links e rest bytes ↔ LiesBelow links e' rest bytes := by
  induction h generalizing rest with
  | file => exact Iff.rfl
  | @directory m es es' link again inner listed ih =>
    constructor
    · -- an entry is listed again, as a file with its bytes or as a directory relisted
      rintro (hn | ⟨hn, hway, hbelow⟩)
      · have hagain := listed.mem_iff.mp (List.mem_map_of_mem hn)
        have hrelisted := inner _ hn
        generalize again _ = e' at hagain hrelisted
        cases hrelisted
        exact .listed hagain
      · have hagain := listed.mem_iff.mp (List.mem_map_of_mem hn)
        have hrelisted := inner _ hn
        have hbelow' := (ih _ hn).mp hbelow
        generalize again _ = e' at hagain hrelisted hbelow'
        cases hrelisted
        exact .deeper hagain hway hbelow'
    · rintro (hn | ⟨hn, hway, hbelow⟩)
      · obtain ⟨e, he, heq⟩ := List.mem_map.mp (listed.mem_iff.mpr hn)
        have hrelisted := inner e he
        rw [heq] at hrelisted
        cases hrelisted
        exact .listed he
      · obtain ⟨e, he, heq⟩ := List.mem_map.mp (listed.mem_iff.mpr hn)
        have hrelisted := inner e he
        have hbelow' := (ih e he).mpr (heq ▸ hbelow)
        rw [heq] at hrelisted
        cases hrelisted with
        | directory => exact .deeper he hway hbelow'

/-- Entries with distinct names have one name order. -/
theorem mergeSort_eq_of_perm {es es' : List Entry} (hperm : es.Perm es')
    (distinct : (es.map Entry.name).Nodup) : es.mergeSort nameLe = es'.mergeSort nameLe := by
  have hsorted : ∀ {l : List Entry}, (l.map Entry.name).Nodup →
      (l.mergeSort nameLe).Pairwise fun a b => CodeLt a.name b.name := by
    intro l hl
    have htrans : ∀ a b c : Entry, nameLe a b = true → nameLe b c = true → nameLe a c = true :=
      fun a b c => stringLe_trans a.name b.name c.name
    have htotal : ∀ a b : Entry, (nameLe a b || nameLe b a) = true :=
      fun a b => stringLe_total a.name b.name
    refine pairwise_mergeSort_of_strict htrans htotal ((List.pairwise_map.mp hl).imp ?_)
    intro a b hab
    exact ⟨fun h => ((stringLe_iff _ _).mp h).resolve_left hab,
      fun h => ((stringLe_iff _ _).mp h).resolve_left (Ne.symm hab)⟩
  refine eq_of_pairwise_of_mem_iff (fun _ _ => CodeLt.asymm) (hsorted distinct)
    (hsorted ((hperm.map Entry.name).nodup_iff.mp distinct)) fun e => ?_
  rw [List.mem_mergeSort, List.mem_mergeSort, hperm.mem_iff]

/-- **All orders of a tree have the same name order.** -/
theorem WellFormed.ordered_eq {e' : Entry} (h : e.WellFormed) (hr : Relisted e e') :
    e'.ordered = e.ordered := by
  induction hr with
  | file => rfl
  | @directory n es es' link again inner listed ih =>
    cases h with
    | directory distinct plain hinner =>
      have hsame : (es.map again).map Entry.ordered = es.map Entry.ordered := by
        rw [List.map_map]
        exact List.map_congr_left fun e he => ih e he (hinner e he)
      have hperm : (es.map Entry.ordered).Perm (es'.map Entry.ordered) :=
        hsame ▸ listed.map Entry.ordered
      have hnames : ((es.map Entry.ordered).map Entry.name).Nodup := by
        simpa [Function.comp_def] using distinct
      rw [Entry.ordered, Entry.ordered, orderedAll_eq_map, orderedAll_eq_map,
        mergeSort_eq_of_perm hperm hnames]

/-- **A walk does not depend on the order in which entries are listed,** if their names are
distinct. -/
theorem WellFormed.walk_eq {e' : Entry} (h : e.WellFormed) (hr : Relisted e e')
    (skip : List String) : e'.walk skip = e.walk skip := by
  rw [walk, h.ordered_eq hr, walk]

/-- **The files that a walk finds:** those that lie below, on a path without links that is
entered. -/
theorem WellFormed.mem_walk_iff (h : e.WellFormed) :
    f ∈ e.walk skip ↔ LiesBelow false e f.parts f.bytes ∧ Entered skip f.parts := by
  have hwalk : e.walk skip = filesUnder skip [] e.ordered := rfl
  rw [hwalk, h.relisted_ordered.liesBelow_iff]
  constructor
  · intro hf
    obtain ⟨rest, hparts, hbelow, hentered⟩ := h.ordered.liesBelow_of_mem_filesUnder hf
    obtain rfl : f.parts = rest := hparts
    exact ⟨hbelow, hentered⟩
  · rintro ⟨hbelow, hentered⟩
    exact hbelow.mem_filesUnder hentered

end Entry

/-! ### Disks -/

namespace Disk

/-- **The same disk, listed in another order.** -/
structure Relisted (d d' : Disk) : Prop where
  /-- The current directory is the same. -/
  current : d'.current = d.current
  /-- The tree is the same. -/
  root : Entry.Relisted (.directory "" d.entries) (.directory "" d'.entries)

/-- What is found on a disk and on the same disk in another order. -/
def Matched (e e' : Entry) : Prop :=
  e.WellFormed ∧ e.Relisted e'

/-- A name leads to the same entry in another order, since only one entry has it. -/
theorem find?_relisted {es es' : List Entry} {n : String} {link : Bool}
    (h : Matched (.directory n es link) (.directory n es' link)) (name : String) :
    (es.find? (·.name == name) = none ∧ es'.find? (·.name == name) = none) ∨
      ∃ e e', es.find? (·.name == name) = some e ∧ es'.find? (·.name == name) = some e' ∧
        Matched e e' := by
  obtain ⟨hwf, hr⟩ := h
  cases hr with
  | directory again inner listed =>
    have hnames : ∀ e ∈ es, (again e).name = e.name := fun e he => (inner e he).name_eq
    cases hfind : es.find? (·.name == name) with
    | none =>
      refine .inl ⟨rfl, List.find?_eq_none.mpr fun e' he' => ?_⟩
      obtain ⟨e, he, rfl⟩ := List.mem_map.mp (listed.mem_iff.mpr he')
      rw [hnames e he]
      exact List.find?_eq_none.mp hfind e he
    | some e =>
      have he : e ∈ es := List.mem_of_find?_eq_some hfind
      have hname : e.name = name := by simpa using List.find?_some hfind
      have hagain : again e ∈ es' := listed.mem_iff.mp (List.mem_map_of_mem he)
      refine .inr ⟨e, again e, rfl, ?_, hwf.of_mem_entries he, inner e he⟩
      -- whichever entry of that name comes first in the other order, it is the same one again
      cases hfind' : es'.find? (·.name == name) with
      | none =>
        have hnone := List.find?_eq_none.mp hfind' _ hagain
        rw [hnames e he, hname, beq_self_eq_true] at hnone
        exact absurd rfl hnone
      | some e' =>
        obtain ⟨e₁, he₁, rfl⟩ :=
          List.mem_map.mp (listed.mem_iff.mpr (List.mem_of_find?_eq_some hfind'))
        have hname₁ : e₁.name = name := by
          rw [← hnames e₁ he₁]
          simpa using List.find?_some hfind'
        have hsame : e₁ = e :=
          List.inj_on_of_nodup_map hwf.nodup_names he₁ he (hname₁.trans hname.symm)
        rw [hsame]

/-- Names lead to the same places in another order. -/
theorem follow_relisted {trail trail' : List Entry} (h : List.Forall₂ Matched trail trail')
    (names : List String) :
    (∃ t, follow trail names = .error t ∧ follow trail' names = .error t) ∨
      ∃ found found', follow trail names = .ok found ∧ follow trail' names = .ok found' ∧
        List.Forall₂ Matched found found' := by
  induction names generalizing trail trail' with
  | nil => exact .inr ⟨trail, trail', rfl, rfl, h⟩
  | cons name rest ih =>
    cases h with
    | nil => exact .inl ⟨_, rfl, rfl⟩
    | @cons e e' outer outer' hmatched houter =>
      have htrail := hmatched
      obtain ⟨hwf, hr⟩ := hmatched
      cases hr with
      | file => exact .inl ⟨_, rfl, rfl⟩
      | @directory n es es' link again inner listed =>
        rw [follow, follow]
        split
        · -- up: at the root a trail has no outer part, in both orders
          cases houter with
          | nil => exact ih (.cons htrail .nil)
          | cons hfirst hrest => exact ih (.cons hfirst hrest)
        · rcases find?_relisted htrail name with ⟨hnone, hnone'⟩ | ⟨e, e', hfind, hfind', hmatched⟩
          · rw [hnone, hnone']
            exact .inl ⟨_, rfl, rfl⟩
          · rw [hfind, hfind']
            exact ih (.cons hmatched (.cons htrail houter))

variable {d d' : Disk}

/-- **Paths lead to the same entry,** relisted. -/
theorem Relisted.entry (h : d.Relisted d') (hd : d.WellFormed) (p : Path) :
    (∃ t, d.entry p = .error t ∧ d'.entry p = .error t) ∨
      ∃ e e', d.entry p = .ok e ∧ d'.entry p = .ok e' ∧ Matched e e' := by
  have hnames : d'.namesOf p = d.namesOf p := by
    rw [namesOf, namesOf, h.current]
  have hroot : List.Forall₂ Matched [.directory "" d.entries] [.directory "" d'.entries] :=
    .cons ⟨hd, h.root⟩ .nil
  unfold Disk.entry Disk.find
  rw [hnames]
  rcases follow_relisted hroot (d.namesOf p) with ⟨t, ht, ht'⟩ | ⟨found, found', hf, hf', hfound⟩
  · rw [ht, ht']
    exact .inl ⟨t, rfl, rfl⟩
  · rw [hf, hf']
    cases hfound with
    | nil => exact .inl ⟨_, rfl, rfl⟩
    | cons hmatched _ => exact .inr ⟨_, _, rfl, rfl, hmatched⟩

/-- The same for what a disk lists at a path. -/
theorem Relisted.files_eq (h : d.Relisted d') (hd : d.WellFormed) (p : Path) (skip : List String) :
    d'.files p skip = d.files p skip := by
  unfold Disk.files
  rcases h.entry hd p with ⟨t, ht, ht'⟩ | ⟨e, e', he, he', hwf, hr⟩
  · rw [ht, ht']
  · rw [he, he']
    exact hwf.walk_eq hr skip

theorem Relisted.outline_eq (h : d.Relisted d') (hd : d.WellFormed) (p : Path)
    (skip : List String) : d'.outline p skip = d.outline p skip := by
  unfold Disk.outline
  rcases h.entry hd p with ⟨t, ht, ht'⟩ | ⟨e, e', he, he', hwf, hr⟩
  · rw [ht, ht']
  · rw [he, he']
    cases hr with
    | file => rfl
    | directory again inner listed =>
      have hsame := hwf.ordered_eq (.directory again inner listed)
      simp only [Outline.ofDirectory, hsame]

end Disk

/-- What stands at a path of a well-formed disk is well-formed. -/
theorem Disk.WellFormed.of_entry {d : Disk} (hd : d.WellFormed) {p : Path} {e : Entry}
    (h : d.entry p = .ok e) : e.WellFormed := by
  unfold Disk.entry at h
  split at h
  · next e' outer hfind =>
    obtain rfl := Except.ok.inj h
    exact (Disk.Chain.of_find hfind).wellFormed hd _ List.mem_cons_self
  · cases h
  · cases h

/-- **The outline lists the walk, and what is behind links.** On a well-formed disk, for every
directory whose name in the path is neither hidden nor skipped:

* The paths of the walk, without those of hidden files, are paths of the outline read from top to
  bottom, in the same order. There are no other paths in the outline just if it leads to no file
  through a link.
* The walk finds a file that lies below the directory if, and only if, no directory above it and
  below the root is hidden or skipped or a link. It finds each file once, and nothing else.
* The outline shows a file that lies below the directory, perhaps behind links, if, and only if, no
  directory above it and below the root is hidden or skipped, and the file is not hidden. It shows
  each file once, and nothing else.
* On the same disk listed in another order, the walk and the outline are the same. -/
theorem outline_lists_walk_and_links {d : Disk} (hd : d.WellFormed) {p : Path} {n : String}
    {es : List Entry} {link : Bool} (hp : d.entry p = .ok (.directory n es link))
    {skip : List String} (hroot : Entry.isHidden p.name = false ∧ p.name ∉ skip) :
    let e := Entry.directory n es link
    let walked := ((d.files p skip).filter fun f => !f.isHidden).map FileAt.parts
    let outlined := (d.outline p skip).value.paths []
    walked.Sublist outlined ∧
      (walked = outlined ↔ ∀ parts ∈ outlined, ∃ bytes, Entry.LiesBelow false e parts bytes) ∧
      (∀ f, f ∈ d.files p skip ↔ Entry.LiesBelow false e f.parts f.bytes ∧
        ∀ x ∈ f.parts.dropLast, Entry.isHidden x = false ∧ x ∉ skip) ∧
      (∀ parts, parts ∈ outlined ↔ (∃ bytes, Entry.LiesBelow true e parts bytes) ∧
        (∀ x ∈ parts.dropLast, Entry.isHidden x = false ∧ x ∉ skip) ∧
        ∀ x ∈ parts.getLast?, Entry.isHidden x = false) ∧
      ((d.files p skip).map FileAt.parts).Nodup ∧ outlined.Nodup ∧
      ∀ d', d.Relisted d' →
        d'.files p skip = d.files p skip ∧ d'.outline p skip = d.outline p skip := by
  intro e walked outlined
  have hentry : e.WellFormed := hd.of_entry hp
  have hname := Entry.isSkipped_eq_false_iff.mpr hroot
  have hfiles : d.files p skip = e.walk skip := by
    rw [Disk.files, hp]
  have hwalked : walked = shownPaths (e.walk skip) := congrArg shownPaths hfiles
  have houtlined : outlined = shownPaths (e.followed.walk skip) := by
    have houtline : (d.outline p skip).value = .ofDirectory skip p.name e := by
      rw [Disk.outline, if_neg (Bool.eq_false_iff.mp hname), hp]
      rfl
    rw [← Outline.paths_ofDirectory hname, ← houtline]
  have hpart : walked.Sublist outlined := by
    rw [hwalked, houtlined]
    exact ((Entry.sublist_walk_followed skip e).filter _).map _
  have hnodup : outlined.Nodup := by
    rw [houtlined]
    exact nodup_shownPaths (hentry.followed.pairwise_walk skip)
  have hfound : ∀ f, f ∈ d.files p skip ↔
      Entry.LiesBelow false e f.parts f.bytes ∧ Entry.Entered skip f.parts := by
    intro f
    rw [hfiles]
    exact hentry.mem_walk_iff
  have hshown : ∀ parts, parts ∈ outlined ↔ (∃ bytes, Entry.LiesBelow true e parts bytes) ∧
      Entry.Entered skip parts ∧ ∀ x ∈ parts.getLast?, Entry.isHidden x = false := by
    intro parts
    rw [houtlined, mem_shownPaths_iff, ← and_assoc]
    refine and_congr_left fun _ => ?_
    constructor
    · rintro ⟨f, hf, rfl⟩
      obtain ⟨hbelow, hentered⟩ := hentry.followed.mem_walk_iff.mp hf
      exact ⟨⟨f.bytes, Entry.liesBelow_followed_iff.mp hbelow⟩, hentered⟩
    · rintro ⟨⟨bytes, hbelow⟩, hentered⟩
      refine ⟨⟨parts, bytes⟩, hentry.followed.mem_walk_iff.mpr ⟨?_, hentered⟩, rfl⟩
      exact Entry.liesBelow_followed_iff.mpr hbelow
  refine ⟨hpart, ⟨fun heq parts hparts => ?_, fun hdirect => ?_⟩, hfound, hshown, ?_, hnodup,
    fun d' hd' => ⟨hd'.files_eq hd p skip, hd'.outline_eq hd p skip⟩⟩
  · rw [← heq, hwalked] at hparts
    obtain ⟨⟨f, hf, rfl⟩, -⟩ := mem_shownPaths_iff.mp hparts
    exact ⟨f.bytes, (hentry.mem_walk_iff.mp hf).1⟩
  · -- the walk has no path twice and all paths of the outline, so it is not shorter
    have hall : outlined ⊆ walked := by
      intro parts hparts
      obtain ⟨-, hentered, hvisible⟩ := (hshown parts).mp hparts
      obtain ⟨bytes, hbelow⟩ := hdirect parts hparts
      rw [hwalked]
      exact mem_shownPaths_iff.mpr
        ⟨⟨⟨parts, bytes⟩, hentry.mem_walk_iff.mpr ⟨hbelow, hentered⟩, rfl⟩, hvisible⟩
    exact hpart.eq_of_length_le (List.subperm_of_subset hnodup hall).length_le
  · rw [hfiles]
    exact List.pairwise_map.mpr (hentry.pairwise_walk skip)

/-- A project with a file that has a skipped name, a skipped directory, and a link. -/
def sampleDisk : Disk :=
  { entries := [.directory "r" [.directory "bin" [.file "c" []], .directory "a" [.file "bin" []],
      .directory "b" [.file "bin" []] true, .file ".h" []]] }

/-- The same project, listed in another order. -/
def sampleDiskAgain : Disk :=
  { entries := [.directory "r" [.file ".h" [], .directory "bin" [.file "c" []],
      .directory "a" [.file "bin" []], .directory "b" [.file "bin" []] true]] }

/-- The entries of a directory with one file are well-formed. -/
theorem wellFormed_of_mem_file {n : String} {bytes : List UInt8} (e : Entry)
    (h : e ∈ [Entry.file n bytes]) : e.WellFormed := by
  obtain rfl := List.mem_singleton.mp h
  exact .file

theorem wellFormed_sampleDisk : sampleDisk.WellFormed := by
  refine .directory (by decide) (by decide) fun e he => ?_
  obtain rfl := List.mem_singleton.mp he
  refine .directory (by decide) (by decide) fun e he => ?_
  simp only [List.mem_cons, List.not_mem_nil, or_false] at he
  rcases he with rfl | rfl | rfl | rfl
  · exact .directory (by decide) (by decide) wellFormed_of_mem_file
  · exact .directory (by decide) (by decide) wellFormed_of_mem_file
  · exact .directory (by decide) (by decide) wellFormed_of_mem_file
  · exact .file

theorem relisted_sampleDisk : sampleDisk.Relisted sampleDiskAgain where
  current := rfl
  root := by
    refine .directory (fun _ => sampleDiskAgain.entries.head (by decide)) (fun e he => ?_) (.refl _)
    obtain rfl := List.mem_singleton.mp he
    have hroot := wellFormed_sampleDisk.of_mem_entries he
    refine .directory id (fun e he => (hroot.of_mem_entries he).relisted_self) ?_
    -- the file moves from the end to the front
    exact @List.perm_append_comm Entry [_, _, _] [_]

/-- The file with the skipped name is found and the one in the skipped directory is not; the one
behind the link is in the outline, which has the paths of the walk as well; and in the other order
nothing changes. -/
theorem outline_lists_walk_and_links_sample :
    let root : Path := ⟨.absolute, ["r"]⟩
    ⟨["a", "bin"], []⟩ ∈ sampleDisk.files root ["bin"] ∧
      ⟨["bin", "c"], []⟩ ∉ sampleDisk.files root ["bin"] ∧
      ["b", "bin"] ∈ (sampleDisk.outline root ["bin"]).value.paths [] ∧
      (((sampleDisk.files root ["bin"]).filter fun f => !f.isHidden).map FileAt.parts).Sublist
        ((sampleDisk.outline root ["bin"]).value.paths []) ∧
      sampleDiskAgain.files root ["bin"] = sampleDisk.files root ["bin"] := by
  intro root
  obtain ⟨hpart, -, hfound, hshown, -, -, hagain⟩ := @outline_lists_walk_and_links sampleDisk
    wellFormed_sampleDisk root _ _ _ rfl ["bin"] ⟨by decide, by decide⟩
  refine ⟨(hfound _).mpr ⟨?_, by decide⟩, fun hmem => ?_, (hshown _).mpr ⟨⟨[], ?_⟩, ?_⟩, hpart,
    (hagain _ relisted_sampleDisk).1⟩
  · exact .deeper (List.mem_cons_of_mem _ List.mem_cons_self) id (.listed List.mem_cons_self)
  · exact ((hfound _).mp hmem).2 "bin" List.mem_cons_self |>.2 List.mem_cons_self
  · exact .deeper (List.mem_cons_of_mem _ (List.mem_cons_of_mem _ List.mem_cons_self))
      (fun _ => rfl) (.listed List.mem_cons_self)
  · exact ⟨by decide, by decide⟩

/-- A directory with one file, and a link to that directory. -/
def linkedProject : Entry :=
  .directory "root" [.directory "a" [.file "f.js" []], .directory "b" [.file "f.js" []] true]

/-- A disk with that project. -/
def linkedDisk : Disk :=
  { entries := [linkedProject] }

theorem wellFormed_linkedDisk : linkedDisk.WellFormed := by
  refine .directory (by decide) (by decide) fun e he => ?_
  obtain rfl := List.mem_singleton.mp he
  refine .directory (by decide) (by decide) fun e he => ?_
  simp only [List.mem_cons, List.not_mem_nil, or_false] at he
  rcases he with rfl | rfl
  · exact .directory (by decide) (by decide) wellFormed_of_mem_file
  · exact .directory (by decide) (by decide) wellFormed_of_mem_file

/-- **What is behind a link is outlined but not walked,** though nothing on the path is hidden or
skipped: the two views of a directory are not the same. -/
theorem link_outlined_but_not_walked :
    (¬∀ (d : Disk) (p : Path) (n : String) (es : List Entry) (link : Bool) (skip : List String),
      d.WellFormed → d.entry p = .ok (.directory n es link) →
      Entry.isHidden p.name = false ∧ p.name ∉ skip →
      (d.outline p skip).value.paths [] =
        ((d.files p skip).filter fun f => !f.isHidden).map FileAt.parts) ∧
    (linkedDisk.files ⟨.absolute, ["root"]⟩ []).map FileAt.parts = [["a", "f.js"]] ∧
    (linkedDisk.outline ⟨.absolute, ["root"]⟩ []).value.paths [] =
      [["a", "f.js"], ["b", "f.js"]] := by
  -- the walk stays out of the link, and the outline shows what is behind it
  have hwalked : linkedDisk.files ⟨.absolute, ["root"]⟩ [] = [⟨["a", "f.js"], []⟩] := by
    change linkedProject.walk [] = _
    rw [Entry.walk_of_isOrdered (by decide)]
    rfl
  have houtlined : (linkedDisk.outline ⟨.absolute, ["root"]⟩ []).value.paths [] =
      [["a", "f.js"], ["b", "f.js"]] := by
    change (Outline.ofDirectory [] "root" linkedProject).paths [] = _
    rw [Outline.ofDirectory, Entry.ordered_of_isOrdered _ (by decide)]
    decide
  refine ⟨fun h => ?_, by rw [hwalked]; rfl, houtlined⟩
  have hsame := h linkedDisk ⟨.absolute, ["root"]⟩ _ _ _ [] wellFormed_linkedDisk rfl
    ⟨by decide, by decide⟩
  rw [houtlined, hwalked] at hsame
  exact absurd hsame (by decide)

end SourceAtlas
