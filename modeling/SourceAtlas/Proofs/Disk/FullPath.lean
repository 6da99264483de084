import SourceAtlas.Analysis

/-!
# Full paths lead back

A path may be relative and may take detours through parent directories; the full path of the
directory it leads to has neither. Both name the same place: following a path never leaves the chain
of directories that list one another, and along such a chain the names alone lead from the root to
its innermost entry. So the settings of a directory do not depend on the path by which it was
reached.

* `Disk.Chain` — entries that list one another, from the root inwards, innermost first;
* `Disk.Chain.follow` — following a path keeps to such chains;
* `Disk.Chain.find_fullPath` — the full path of a chain leads to it;
* `settingsOr_of_directory`, `settingsOr_of_none` — settings by the path asked for and by the full
  path.
-/

namespace SourceAtlas

namespace Disk

/-- Following names one part after the other. -/
theorem follow_append (trail : List Entry) (names more : List String) :
    follow trail (names ++ more) = (follow trail names).bind fun t => follow t more := by
  induction names generalizing trail with
  | nil => rfl
  | cons name names ih =>
    match trail with
    | [] => rfl
    | .file .. :: _ => rfl
    | .directory m es link :: outer =>
      simp only [List.cons_append, follow]
      split
      · exact ih _
      · cases es.find? (·.name == name) with
        | none => rfl
        | some e => exact ih _

/-- One name from a directory. -/
theorem follow_singleton {m name : String} {es outer : List Entry} {link : Bool} {e : Entry}
    (listed : es.find? (·.name == name) = some e) (up : name ≠ "..") :
    follow (.directory m es link :: outer) [name] = .ok (e :: .directory m es link :: outer) := by
  simp only [follow, if_neg up, listed]

variable {d : Disk}

/-- The names of a path and one more. -/
theorem namesOf_child (p : Path) (name : String) :
    d.namesOf (p.child name) = d.namesOf p ++ [name] := by
  unfold namesOf Path.child
  cases p.start with
  | relative => exact (List.append_assoc _ _ _).symm
  | absolute => rfl
  | doubleSlash => rfl

/-- What is at a name behind a path depends on the place of the path alone. -/
theorem find_child (p : Path) (name : String) :
    d.find (p.child name) = (d.find p).bind fun t => follow t [name] := by
  unfold find
  rw [namesOf_child, follow_append]

/-- The full path that leads one entry further. -/
theorem parts_fullPath_cons {trail : List Entry} (h : trail ≠ []) (e : Entry) :
    (fullPath (e :: trail)).parts = (fullPath trail).parts ++ [e.name] := by
  have hlen : 1 ≤ trail.reverse.length := by
    rw [List.length_reverse]
    exact List.length_pos_iff.mpr h
  unfold fullPath
  rw [List.reverse_cons, List.drop_append_of_le_length hlen, List.map_append]
  rfl

/-! ### Chains -/

/-- **Entries that list one another** from the root of a disk inwards, the innermost first. -/
inductive Chain (d : Disk) : List Entry → Prop
  /-- The root. -/
  | root : Chain d [.directory "" d.entries]
  /-- What the innermost directory lists under a name. -/
  | step {m : String} {es outer : List Entry} {link : Bool} {e : Entry}
      (h : Chain d (.directory m es link :: outer))
      (listed : es.find? (·.name == e.name) = some e) (up : e.name ≠ "..") :
      Chain d (e :: .directory m es link :: outer)

namespace Chain

/-- **Following a path keeps to chains.** -/
theorem follow {trail t : List Entry} {names : List String} (h : Chain d trail)
    (ht : Disk.follow trail names = .ok t) : Chain d t := by
  induction names generalizing trail with
  | nil =>
    obtain rfl : trail = t := Except.ok.inj ht
    exact h
  | cons name names ih =>
    match trail with
    | .directory m es link :: outer =>
      simp only [Disk.follow] at ht
      split at ht
      · refine ih ?_ ht
        -- two dots lead to the rest of the chain, or nowhere at the root
        split
        · exact h
        · next ho =>
          cases h with
          | root => exact absurd rfl ho
          | step h _ _ => exact h
      · next hup =>
        split at ht
        · cases ht
        · next e he =>
          obtain rfl : e.name = name := by simpa using List.find?_some he
          exact ih (h.step he hup) ht
    | [] => cases ht
    | .file .. :: _ => cases ht

theorem of_find {p : Path} {t : List Entry} (h : d.find p = .ok t) : Chain d t :=
  root.follow h

theorem ne_nil {trail : List Entry} (h : Chain d trail) : trail ≠ [] := by
  cases h <;> exact List.cons_ne_nil _ _

/-- **The full path of a chain leads to it.** -/
theorem find_fullPath {trail : List Entry} (h : Chain d trail) :
    d.find (fullPath trail) = .ok trail := by
  induction h with
  | root => rfl
  | @step m es outer link e h listed up ih =>
    -- the full path of an entry is that of its directory and the name, which is followed last
    have hpath : fullPath (e :: .directory m es link :: outer) =
        (fullPath (.directory m es link :: outer)).child e.name := by
      rw [Path.child, ← parts_fullPath_cons h.ne_nil e]
      rfl
    rw [hpath, find_child, ih]
    exact follow_singleton listed up

end Chain

/-- A directory is where the path leads, and its full path is that of the place. -/
theorem find_of_directory {p root : Path} {entry : Entry}
    (h : d.directory? p = some (root, entry)) :
    ∃ m es link outer, d.find p = .ok (.directory m es link :: outer) ∧
      root = fullPath (.directory m es link :: outer) ∧ entry = .directory m es link := by
  unfold directory? at h
  split at h
  · next m es link outer hp =>
    obtain ⟨rfl, rfl⟩ := Prod.mk.inj (Option.some.inj h)
    exact ⟨m, es, link, outer, hp, rfl, rfl⟩
  · cases h

/-- A directory is found at its full path as well. -/
theorem find_eq_of_directory {p root : Path} {entry : Entry}
    (h : d.directory? p = some (root, entry)) : d.find root = d.find p := by
  obtain ⟨m, es, link, outer, hp, rfl, -⟩ := find_of_directory h
  rw [hp]
  exact (Chain.of_find hp).find_fullPath

/-- A file behind a directory is found behind its full path as well. -/
theorem content?_child_of_directory {p root : Path} {entry : Entry}
    (h : d.directory? p = some (root, entry)) (name : String) :
    d.content? (root.child name) = d.content? (p.child name) := by
  unfold content? Disk.entry
  rw [find_child, find_child, find_eq_of_directory h]

/-- There are no files behind what is no directory. -/
theorem content?_child_of_none {p : Path} (h : d.directory? p = none) (name : String) :
    d.content? (p.child name) = none := by
  unfold directory? at h
  unfold content? Disk.entry
  rw [find_child]
  cases hp : d.find p with
  | error t => rfl
  | ok trail =>
    match trail with
    | [] => rfl
    | .file .. :: _ => rfl
    | .directory m es link :: outer => simp [hp] at h

end Disk

/-! ### Settings -/

/-- **The settings of a directory do not depend on the path** by which it was reached. -/
theorem settingsOr_of_directory {d : Disk} {p root : Path} {entry : Entry}
    (h : d.directory? p = some (root, entry)) (given : Option Settings) :
    settingsOr given d p = settingsOr given d root := by
  unfold settingsOr Settings.load Settings.loadBy
  rw [Disk.content?_child_of_directory h]

/-- Where there is no directory, nothing is set. -/
theorem settingsOr_of_none {d : Disk} {p : Path} (h : d.directory? p = none)
    (given : Option Settings) : settingsOr given d p = .ok (given.getD {}) := by
  unfold settingsOr Settings.load Settings.loadBy
  rw [Disk.content?_child_of_none h]
  cases given with
  | some s => rfl
  | none => rfl

end SourceAtlas
