import Mathlib.Data.List.Basic
import SourceAtlas.Inventory
import SourceAtlas.Proofs.Disk.FullPath

/-!
# Every file of a walk has a path of its own

In a file system no directory lists a name twice, and no name holds a slash. On a disk like that the
files of a walk have different paths, and so have the texts of these paths: the text of a path can
be cut at its slashes again.

* `Entry.WellFormed`, `Disk.WellFormed` — what a file system guarantees of its names;
* `Entry.WellFormed.pairwise_walk` — different files of a walk have different paths;
* `Entry.WellFormed.pairwise_pathText` — and so have the texts of these paths.
-/

namespace SourceAtlas

/-- **What a file system guarantees:** the names in a directory are distinct and hold no slash. -/
inductive Entry.WellFormed : Entry → Prop
  | file {name : String} {bytes : List UInt8} : WellFormed (.file name bytes)
  | directory {name : String} {es : List Entry} {link : Bool}
      (distinct : (es.map Entry.name).Nodup) (plain : ∀ e ∈ es, '/' ∉ e.name.toList)
      (inner : ∀ e ∈ es, WellFormed e) : WellFormed (.directory name es link)

namespace Entry.WellFormed

variable {e : Entry} (h : e.WellFormed)

include h

/-- A directory lists each name once. -/
theorem nodup_names : (e.entries.map Entry.name).Nodup := by
  cases h with
  | file => exact .nil
  | directory distinct _ _ => exact distinct

/-- A name has no slash in it. -/
theorem plain_name {e' : Entry} (he' : e' ∈ e.entries) : '/' ∉ e'.name.toList := by
  cases h with
  | file => cases he'
  | directory _ plain _ => exact plain e' he'

/-- What a well-formed directory lists is well-formed. -/
theorem of_mem_entries {e' : Entry} (he' : e' ∈ e.entries) : e'.WellFormed := by
  cases h with
  | file => cases he'
  | directory _ _ inner => exact inner e' he'

end Entry.WellFormed

/-- A disk whose directories are all well-formed. -/
def Disk.WellFormed (d : Disk) : Prop :=
  (Entry.directory "" d.entries).WellFormed

/-- All that is found on a well-formed disk is well-formed. -/
theorem Disk.Chain.wellFormed {d : Disk} (hd : d.WellFormed) {trail : List Entry}
    (h : Chain d trail) : ∀ e ∈ trail, e.WellFormed := by
  induction h with
  | root =>
    intro e he
    obtain rfl := List.mem_singleton.mp he
    exact hd
  | @step m es outer link e h listed up ih =>
    intro e' he'
    rcases List.mem_cons.mp he' with rfl | he'
    · exact (ih _ List.mem_cons_self).of_mem_entries (List.mem_of_find?_eq_some listed)
    · exact ih e' he'

/-- So is the directory at a path. -/
theorem Disk.WellFormed.of_directory {d : Disk} (hd : d.WellFormed) {p root : Path}
    {entry : Entry} (h : d.directory? p = some (root, entry)) : entry.WellFormed := by
  obtain ⟨m, es, link, outer, hp, -, rfl⟩ := Disk.find_of_directory h
  exact (Disk.Chain.of_find hp).wellFormed hd _ List.mem_cons_self

/-! ### Name order -/

namespace Entry

theorem orderedAll_eq_map (es : List Entry) : orderedAll es = es.map ordered := by
  induction es with
  | nil => rfl
  | cons e es ih => rw [orderedAll, ih, List.map_cons]

@[simp] theorem name_ordered (e : Entry) : e.ordered.name = e.name := by
  cases e <;> rfl

/-- Name order does not change which names a directory lists. -/
theorem WellFormed.ordered {e : Entry} (h : e.WellFormed) : e.ordered.WellFormed := by
  induction h with
  | file => exact .file
  | @directory name es link distinct plain inner ih =>
    have hperm : ((orderedAll es).mergeSort nameLe).Perm (es.map Entry.ordered) := by
      rw [orderedAll_eq_map]
      exact List.mergeSort_perm _ _
    refine .directory ?_ ?_ ?_
    · refine (hperm.map Entry.name).nodup_iff.mpr ?_
      simpa [Function.comp_def] using distinct
    · intro e he
      obtain ⟨e', he', rfl⟩ := List.mem_map.mp (hperm.mem_iff.mp he)
      rw [name_ordered]
      exact plain e' he'
    · intro e he
      obtain ⟨e', he', rfl⟩ := List.mem_map.mp (hperm.mem_iff.mp he)
      exact ih e' he'

mutual

/-- Whether a tree is listed in name order throughout. -/
def isOrdered : Entry → Bool
  | .file .. => true
  | .directory _ es _ => decide (es.Pairwise fun a b => nameLe a b = true) && areOrdered es

/-- Whether trees are listed in name order, each throughout. -/
def areOrdered : List Entry → Bool
  | [] => true
  | e :: es => e.isOrdered && areOrdered es

end

mutual

/-- A tree that is in name order stays as it is. -/
theorem ordered_of_isOrdered : ∀ e : Entry, e.isOrdered = true → e.ordered = e
  | .file n bytes, _ => by
    rw [ordered]
  | .directory n es link, h => by
    rw [isOrdered, Bool.and_eq_true] at h
    rw [ordered, orderedAll_of_areOrdered es h.2,
      List.mergeSort_of_pairwise (of_decide_eq_true h.1)]

/-- Trees that are listed in name order are left as they are. -/
theorem orderedAll_of_areOrdered : ∀ es : List Entry, areOrdered es = true → orderedAll es = es
  | [], _ => by
    rw [orderedAll]
  | e :: es, h => by
    rw [areOrdered, Bool.and_eq_true] at h
    rw [orderedAll, ordered_of_isOrdered e h.1, orderedAll_of_areOrdered es h.2]

end

/-! ### Walks -/

/-- The walk over a tree that is in name order. -/
theorem walk_of_isOrdered {e : Entry} (h : e.isOrdered = true) (skip : List String) :
    e.walk skip = filesAt [] e.entries ++ filesBelowAll skip [] e.entries := by
  rw [walk, ordered_of_isOrdered e h]

theorem filesBelowAll_eq_flatMap (skip parts : List String) (es : List Entry) :
    filesBelowAll skip parts es = es.flatMap (filesBelow skip parts) := by
  induction es with
  | nil => rfl
  | cons e es ih => rw [filesBelowAll, ih, List.flatMap_cons]

/-- A file that a directory lists is found under its name. -/
theorem exists_of_mem_filesAt {parts : List String} {es : List Entry} {f : FileAt}
    (h : f ∈ filesAt parts es) : ∃ e ∈ es, f.parts = parts ++ [e.name] := by
  obtain ⟨e, he, hf⟩ := List.mem_filterMap.mp h
  cases e with
  | file n bytes =>
    obtain rfl := Option.some.inj hf
    exact ⟨_, he, rfl⟩
  | directory n es link => cases hf

/-- A file below an entry is found behind its name, by further names without a slash. -/
theorem WellFormed.parts_of_mem_filesBelow {e : Entry} (h : e.WellFormed) {skip parts : List String}
    {f : FileAt} (hf : f ∈ filesBelow skip parts e) :
    ∃ rest, f.parts = parts ++ e.name :: rest ∧ rest ≠ [] ∧ ∀ n ∈ rest, '/' ∉ n.toList := by
  induction h generalizing parts with
  | file => cases hf
  | @directory name es link distinct plain inner ih =>
    rw [filesBelow] at hf
    split at hf
    · cases hf
    · -- the directory lists the file itself, or one of its entries has the file below it
      rcases List.mem_append.mp hf with hf | hf
      · obtain ⟨e, he, hparts⟩ := exists_of_mem_filesAt hf
        refine ⟨[e.name], ?_, List.cons_ne_nil _ _, ?_⟩
        · rw [hparts, List.append_assoc]
          rfl
        · intro n hn
          obtain rfl := List.mem_singleton.mp hn
          exact plain e he
      · rw [filesBelowAll_eq_flatMap] at hf
        obtain ⟨e, he, hf⟩ := List.mem_flatMap.mp hf
        obtain ⟨rest, hparts, -, hrest⟩ := ih e he hf
        refine ⟨e.name :: rest, ?_, List.cons_ne_nil _ _, ?_⟩
        · rw [hparts, List.append_assoc]
          rfl
        · intro n hn
          rcases List.mem_cons.mp hn with rfl | hn
          · exact plain e he
          · exact hrest n hn

/-- Different places. -/
abbrev Apart (f g : FileAt) : Prop :=
  f.parts ≠ g.parts

/-- The files right in a directory are apart, since their names are. -/
theorem pairwise_filesAt {es : List Entry} (distinct : (es.map Entry.name).Nodup)
    (parts : List String) : (filesAt parts es).Pairwise Apart := by
  refine List.pairwise_filterMap.mpr ?_
  refine (List.pairwise_map.mp distinct).imp ?_
  intro a b hab f hf g hg heq
  cases a with
  | directory n es link => cases hf
  | file n bytes =>
    cases b with
    | directory n es link => cases hg
    | file n' bytes' =>
      obtain rfl := Option.some.inj hf
      obtain rfl := Option.some.inj hg
      exact hab (List.cons.inj (List.append_cancel_left heq)).1

/-- **The files of a listing are at different places,** if those below each entry are. A file of the
listing has one name behind its place, a file below an entry has more, and starts with the entry. -/
theorem pairwise_listing {es : List Entry} (distinct : (es.map Entry.name).Nodup)
    (inner : ∀ e ∈ es, e.WellFormed) {skip parts : List String}
    (below : ∀ e ∈ es, (filesBelow skip parts e).Pairwise Apart) :
    (filesAt parts es ++ filesBelowAll skip parts es).Pairwise Apart := by
  rw [filesBelowAll_eq_flatMap]
  refine List.pairwise_append.mpr ⟨pairwise_filesAt distinct parts, ?_, ?_⟩
  · -- below different entries: the paths differ in the names of the entries
    refine List.pairwise_flatMap.mpr ⟨below, ?_⟩
    refine (List.pairwise_map.mp distinct).imp_of_mem ?_
    intro a b ha hb hab f hf g hg heq
    obtain ⟨restf, hpartsf, -, -⟩ := (inner a ha).parts_of_mem_filesBelow hf
    obtain ⟨restg, hpartsg, -, -⟩ := (inner b hb).parts_of_mem_filesBelow hg
    rw [hpartsf, hpartsg] at heq
    exact hab (List.cons.inj (List.append_cancel_left heq)).1
  · -- listed and below an entry: the second path is longer
    intro f hf g hg heq
    obtain ⟨a, -, hpartsf⟩ := exists_of_mem_filesAt hf
    obtain ⟨b, hb, hg⟩ := List.mem_flatMap.mp hg
    obtain ⟨rest, hpartsg, hrest, -⟩ := (inner b hb).parts_of_mem_filesBelow hg
    rw [hpartsf, hpartsg] at heq
    exact hrest (List.cons.inj (List.append_cancel_left heq)).2.symm

/-- **No file is found twice** below an entry. -/
theorem WellFormed.pairwise_filesBelow {e : Entry} (h : e.WellFormed) (skip parts : List String) :
    (filesBelow skip parts e).Pairwise Apart := by
  induction h generalizing parts with
  | file => exact .nil
  | @directory name es link distinct plain inner ih =>
    rw [filesBelow]
    split
    · exact .nil
    · exact pairwise_listing distinct inner fun e he => ih e he _

/-- **Different files of a walk have different paths.** -/
theorem WellFormed.pairwise_walk {e : Entry} (h : e.WellFormed) (skip : List String) :
    (e.walk skip).Pairwise Apart :=
  pairwise_listing h.ordered.nodup_names (fun _ he => h.ordered.of_mem_entries he)
    fun _ he => (h.ordered.of_mem_entries he).pairwise_filesBelow skip []

/-- The path of a file of a walk has at least one name, and no name on it holds a slash. -/
theorem WellFormed.parts_of_mem_walk {e : Entry} (h : e.WellFormed) {skip : List String}
    {f : FileAt} (hf : f ∈ e.walk skip) : f.parts ≠ [] ∧ ∀ n ∈ f.parts, '/' ∉ n.toList := by
  rcases List.mem_append.mp hf with hf | hf
  · obtain ⟨e', he', hparts⟩ := exists_of_mem_filesAt hf
    rw [hparts]
    refine ⟨List.cons_ne_nil _ _, ?_⟩
    intro n hn
    obtain rfl := List.mem_singleton.mp hn
    exact h.ordered.plain_name he'
  · rw [filesBelowAll_eq_flatMap] at hf
    obtain ⟨e', he', hf⟩ := List.mem_flatMap.mp hf
    obtain ⟨rest, hparts, -, hrest⟩ := (h.ordered.of_mem_entries he').parts_of_mem_filesBelow hf
    rw [hparts]
    refine ⟨List.cons_ne_nil _ _, ?_⟩
    intro n hn
    rcases List.mem_cons.mp hn with rfl | hn
    · exact h.ordered.plain_name he'
    · exact hrest n hn

end Entry

/-! ### Texts of paths -/

namespace Text

theorem splitOn_ne_nil (sep : Char) (cs : List Char) : splitOn sep cs ≠ [] := by
  cases cs with
  | nil => exact List.cons_ne_nil _ _
  | cons c cs =>
    rw [splitOn]
    split
    · exact List.cons_ne_nil _ _
    · split
      · exact List.cons_ne_nil _ _
      · exact List.cons_ne_nil _ _

/-- Cutting a text that starts with a part without separators. -/
theorem splitOn_append {sep : Char} {part : List Char} (h : sep ∉ part) (cs : List Char) :
    splitOn sep (part ++ cs) =
      match splitOn sep cs with
      | [] => [part]
      | first :: rest => (part ++ first) :: rest := by
  induction part with
  | nil =>
    cases hsplit : splitOn sep cs with
    | nil => exact absurd hsplit (splitOn_ne_nil sep cs)
    | cons first rest => simpa using hsplit
  | cons c part ih =>
    have hc : ¬(c == sep) = true := fun heq =>
      h (by rw [beq_iff_eq.mp heq]; exact List.mem_cons_self)
    rw [List.cons_append, splitOn, if_neg hc, ih fun hmem => h (List.mem_cons_of_mem _ hmem)]
    cases splitOn sep cs with
    | nil => rfl
    | cons first rest => rfl

/-- A text without the separator is one part. -/
theorem splitOn_of_notMem {sep : Char} {part : List Char} (h : sep ∉ part) :
    splitOn sep part = [part] := by
  have hend := splitOn_append h []
  rw [List.append_nil] at hend
  rw [hend]
  exact congrArg (fun p => [p]) (List.append_nil part)

/-- A separator in front is an empty part. -/
theorem splitOn_cons_self (sep : Char) (cs : List Char) :
    splitOn sep (sep :: cs) = [] :: splitOn sep cs := by
  rw [splitOn, if_pos (beq_self_eq_true sep)]

/-- **Joined names are read back by cutting,** if they are plain. -/
theorem splitOn_joinWith {names : List String} (hne : names ≠ [])
    (hplain : ∀ n ∈ names, '/' ∉ n.toList) :
    splitOn '/' (joinWith "/" names).toList = names.map String.toList := by
  induction names with
  | nil => exact absurd rfl hne
  | cons n names ih =>
    have hn : '/' ∉ n.toList := hplain n List.mem_cons_self
    cases names with
    | nil =>
      rw [joinWith, splitOn_of_notMem hn]
      rfl
    | cons n' names =>
      have hrest := ih (List.cons_ne_nil _ _) fun x hx => hplain x (List.mem_cons_of_mem _ hx)
      -- the first name has no slash, so the first cut is right behind it
      have htext : (joinWith "/" (n :: n' :: names)).toList =
          n.toList ++ '/' :: (joinWith "/" (n' :: names)).toList := by
        simp [joinWith]
      rw [htext, splitOn_append hn, splitOn_cons_self, hrest]
      simp

/-- Joining some names behind others. -/
theorem exists_joinWith_append (front : List String) :
    ∃ start : String, ∀ names, names ≠ [] →
      joinWith "/" (front ++ names) = start ++ joinWith "/" names := by
  induction front with
  | nil => exact ⟨"", fun names _ => by simp⟩
  | cons n front ih =>
    obtain ⟨start, hstart⟩ := ih
    refine ⟨n ++ "/" ++ start, fun names hne => ?_⟩
    obtain ⟨n', rest, hcons⟩ : ∃ n' rest, front ++ names = n' :: rest :=
      List.exists_cons_of_ne_nil (List.append_ne_nil_of_right_ne_nil _ hne)
    rw [List.cons_append, hcons, joinWith, ← hcons, hstart names hne, ← String.append_assoc]
    exact List.cons_ne_nil _ _

end Text

/-- **The text of the path of a file** below a directory. -/
def FileAt.pathText (root : Path) (f : FileAt) : String :=
  (f.pathIn root).toString

/-- **Different paths below a directory have different texts.** -/
theorem FileAt.parts_eq_of_pathText_eq {root : Path} {f g : FileAt}
    (hf : f.parts ≠ [] ∧ ∀ n ∈ f.parts, '/' ∉ n.toList)
    (hg : g.parts ≠ [] ∧ ∀ n ∈ g.parts, '/' ∉ n.toList)
    (h : f.pathText root = g.pathText root) : f.parts = g.parts := by
  obtain ⟨start, hstart⟩ := Text.exists_joinWith_append root.parts
  have htext : ∀ x : FileAt, x.parts ≠ [] →
      x.pathText root = Path.startText root.start ++ (start ++ Text.joinWith "/" x.parts) := by
    intro x hx
    have hparts : (x.pathIn root).parts ≠ [] := List.append_ne_nil_of_right_ne_nil _ hx
    rw [FileAt.pathText, Path.toString, if_neg fun hempty => hparts hempty.2]
    change Path.startText root.start ++ Text.joinWith "/" (root.parts ++ x.parts) = _
    rw [hstart x.parts hx]
  -- both texts start with the text of `root`, and behind it the names are read off by cutting
  rw [htext f hf.1, htext g hg.1] at h
  have hjoin : Text.joinWith "/" f.parts = Text.joinWith "/" g.parts := by
    have hchars := congrArg String.toList h
    simp only [String.toList_append] at hchars
    exact String.toList_inj.mp (List.append_cancel_left (List.append_cancel_left hchars))
  have hcut := congrArg (fun s : String => Text.splitOn '/' s.toList) hjoin
  simp only [Text.splitOn_joinWith hf.1 hf.2, Text.splitOn_joinWith hg.1 hg.2] at hcut
  exact List.map_injective_iff.mpr (fun _ _ => String.toList_inj.mp) hcut

/-- **Different files of a walk have different path texts.** -/
theorem Entry.WellFormed.pairwise_pathText {e : Entry} (h : e.WellFormed) (skip : List String)
    (root : Path) : (e.walk skip).Pairwise fun f g => f.pathText root ≠ g.pathText root := by
  refine (h.pairwise_walk skip).imp_of_mem ?_
  intro f g hf hg hfg htext
  exact hfg (FileAt.parts_eq_of_pathText_eq (h.parts_of_mem_walk hf) (h.parts_of_mem_walk hg) htext)

end SourceAtlas
