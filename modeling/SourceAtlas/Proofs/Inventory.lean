import SourceAtlas.Proofs.ExtensionFilter

/-!
# The histogram decides what is read, and loses no source

A dialect is looked at only if the histogram has one of its extensions. The histogram and the choice
of the files that are read are made on two walks, of which the second skips more directories, and
with two tests of the extension: files without one are counted under a text of their own, and are
read by no dialect. For the files of a dialect the two tests agree (`FileAt.extension_mem_iff`), and
skipping only leaves files out, so without an extension filter everything that could be read is
counted.

* `Inventory.pairwise_histogram` — the order of the histogram is strict;
* `Inventory.sources_eq_filter` — sources are the counted files with an extension of the dialect;
* `histogram_gate_loses_no_source` — a dialect that the histogram passes over has no files.
-/

namespace SourceAtlas

/-! ### The order of the histogram -/

namespace Inventory

/-- **Strictly before another:** more frequent, or as frequent and with a smaller extension. -/
def CountLt (a b : String × Nat) : Prop :=
  b.2 < a.2 ∨ a.2 = b.2 ∧ CodeLt a.1 b.1

/-- Larger counts come first, and equal ones in the order of their extensions. -/
theorem countLe_iff (a b : String × Nat) :
    countLe a b = true ↔ b.2 < a.2 ∨ a.2 = b.2 ∧ stringLe a.1 b.1 = true := by
  rw [countLe, Bool.or_eq_true, decide_eq_true_iff, Bool.and_eq_true, beq_iff_eq]

theorem countLe_trans (a b c : String × Nat) (hab : countLe a b = true) (hbc : countLe b c = true) :
    countLe a c = true := by
  rw [countLe_iff] at hab hbc ⊢
  rcases hab with hlt | ⟨heq, hle⟩
  · left
    omega
  · rcases hbc with hlt' | ⟨heq', hle'⟩
    · left
      omega
    · exact .inr ⟨heq.trans heq', stringLe_trans _ _ _ hle hle'⟩

theorem countLe_total (a b : String × Nat) : (countLe a b || countLe b a) = true := by
  rw [Bool.or_eq_true, countLe_iff, countLe_iff]
  rcases Nat.lt_trichotomy a.2 b.2 with hlt | heq | hgt
  · exact .inr (.inl hlt)
  · rcases Bool.or_eq_true_iff.mp (stringLe_total a.1 b.1) with hle | hle
    · exact .inl (.inr ⟨heq, hle⟩)
    · exact .inr (.inr ⟨heq.symm, hle⟩)
  · exact .inl (.inl hgt)

/-- Between different extensions the order is strict. -/
theorem countLt_of_countLe {a b : String × Nat} (hne : a.1 ≠ b.1) (h : countLe a b = true) :
    CountLt a b := by
  rcases (countLe_iff a b).mp h with hlt | ⟨heq, hle⟩
  · exact .inl hlt
  · exact .inr ⟨heq, ((stringLe_iff _ _).mp hle).resolve_left hne⟩

/-- Each extension is counted once. -/
theorem map_fst_tally (extensions : List String) :
    (tally extensions).map Prod.fst = distinct extensions := by
  rw [tally, List.map_map]
  exact List.map_id _

/-- Every extension has one count. -/
theorem nodup_map_fst_histogram (files : List FileAt) (filter exclude : String) :
    ((histogram files filter exclude).map Prod.fst).Nodup := by
  refine ((List.mergeSort_perm _ _).map Prod.fst).nodup_iff.mpr ?_
  rw [map_fst_tally]
  exact nodup_distinct _

/-- **The histogram is strictly ordered,** the most frequent extensions first. -/
theorem pairwise_histogram (files : List FileAt) (filter exclude : String) :
    (histogram files filter exclude).Pairwise CountLt := by
  refine pairwise_mergeSort_of_strict countLe_trans countLe_total ?_
  have hdistinct := nodup_distinct
    (((files.filter fun f => !Exclusion.excludes exclude f.relative).map FileAt.extension).filter
      fun e => (parseExtensions filter).isEmpty || (parseExtensions filter).contains e)
  rw [← map_fst_tally] at hdistinct
  refine (List.pairwise_map.mp hdistinct).imp ?_
  intro a b hab
  exact ⟨countLt_of_countLe hab, countLt_of_countLe (Ne.symm hab)⟩

end Inventory

/-! ### Sources -/

/-- The extension that a file is counted under is one of a dialect if its own is. -/
theorem FileAt.extension_mem_iff {f : FileAt} {D : Dialect} :
    f.extension ∈ D.extensions ↔ f.suffix ∈ D.extensions := by
  refine ⟨fun h => ?_, fun h => FileAt.extension_eq_suffix h ▸ h⟩
  have hcases : f.extension = if f.suffix = "" then Path.noExtension else f.suffix := rfl
  rw [hcases] at h
  split at h
  · -- no dialect has the text for files without an extension
    cases D <;> simp [Dialect.extensions, Path.noExtension] at h
  · exact h

namespace Inventory

variable {filter : String} (hfilter : parseExtensions filter = [])

include hfilter

/-- **The sources of a dialect are its counted files,** if there is no extension filter. -/
theorem sources_eq_filter (files : List FileAt) (D : Dialect) (exclude : String) :
    sources files D.extensions exclude =
      files.filter fun f => decide (Counts filter exclude f ∧ f.extension ∈ D.extensions) := by
  refine List.filter_congr fun f _ => ?_
  rw [Dialect.map_lowerString_extensions, Bool.eq_iff_iff, Bool.and_eq_true, decide_eq_true_iff,
    List.contains_iff_mem, ← FileAt.extension_mem_iff, Bool.not_eq_true']
  constructor
  · rintro ⟨hextension, hkept⟩
    exact ⟨⟨hkept, .inl hfilter⟩, hextension⟩
  · rintro ⟨⟨hkept, -⟩, hextension⟩
    exact ⟨hextension, hkept⟩

/-- **A source makes its dialect present:** it is counted, on the walk that skips nothing as
well. -/
theorem isPresent_of_mem_sources {entry : Entry} {skip : List String} {D : Dialect}
    {exclude : String} {f : FileAt} (hf : f ∈ sources (entry.walk skip) D.extensions exclude) :
    D.isPresent (histogram (entry.walk []) filter exclude) = true := by
  rw [sources_eq_filter hfilter] at hf
  obtain ⟨hwalk, hcounted⟩ := List.mem_filter.mp hf
  obtain ⟨hcounts, hextension⟩ := of_decide_eq_true hcounted
  have hpos : 0 < (entry.walk []).countP fun g =>
      decide (Counts filter exclude g ∧ g.extension = f.extension) :=
    List.countP_pos_iff.mpr
      ⟨f, (entry.walk_sublist skip).subset hwalk, decide_eq_true ⟨hcounts, rfl⟩⟩
  have hmem := mem_histogram.mpr ⟨hpos, rfl⟩
  exact List.any_eq_true.mpr ⟨_, hmem, List.contains_iff_mem.mpr hextension⟩

end Inventory

open Inventory

/-- **The histogram gate loses no source.** For every directory of a well-formed disk, every filter,
exclusion pattern, list of skipped names and dialect:

* The histogram has the extensions of the counted files, each once and with the number of these
  files, which is positive. It is strictly ordered: by falling counts, and by extension where counts
  are equal.
* Without an extension filter, the sources of the dialect are some of the counted files with an
  extension of the dialect, in order and each once, and all of them if nothing is skipped.
* So a dialect of which the histogram has no extension has no sources. -/
theorem histogram_gate_loses_no_source {d : Disk} (hd : d.WellFormed) {p root : Path}
    {entry : Entry} (hp : d.directory? p = some (root, entry)) (filter exclude : String)
    (skip : List String) (D : Dialect) :
    (∀ e n, (e, n) ∈ histogram (entry.walk []) filter exclude ↔ 0 < n ∧
      n = (entry.walk []).countP fun f => decide (Counts filter exclude f ∧ f.extension = e)) ∧
    ((histogram (entry.walk []) filter exclude).map Prod.fst).Nodup ∧
    (histogram (entry.walk []) filter exclude).Pairwise
      (fun a b => b.2 < a.2 ∨ a.2 = b.2 ∧ CodeLt a.1 b.1) ∧
    (parseExtensions filter = [] →
      (sources (entry.walk skip) D.extensions exclude).Sublist ((entry.walk []).filter fun f =>
        decide (Counts filter exclude f ∧ f.extension ∈ D.extensions)) ∧
      ((sources (entry.walk skip) D.extensions exclude).map FileAt.parts).Nodup ∧
      (skip = [] → sources (entry.walk skip) D.extensions exclude = (entry.walk []).filter fun f =>
        decide (Counts filter exclude f ∧ f.extension ∈ D.extensions)) ∧
      (D.isPresent (histogram (entry.walk []) filter exclude) = false →
        sources (entry.walk skip) D.extensions exclude = [])) := by
  refine ⟨fun e n => mem_histogram, nodup_map_fst_histogram _ _ _, pairwise_histogram _ _ _, ?_⟩
  intro hfilter
  refine ⟨?_, ?_, ?_, ?_⟩
  · rw [sources_eq_filter hfilter]
    exact (entry.walk_sublist skip).filter _
  · -- files found by a walk have distinct paths, and so have those that are left
    have happart := (hd.of_directory hp).pairwise_walk skip
    exact List.pairwise_map.mpr (happart.sublist List.filter_sublist)
  · rintro rfl
    exact sources_eq_filter hfilter _ D exclude
  · intro habsent
    refine List.eq_nil_iff_forall_not_mem.mpr fun f hf => ?_
    rw [isPresent_of_mem_sources hfilter hf] at habsent
    cases habsent

/-- Two files of one dialect: both are counted and are its sources, and another dialect has none. -/
theorem histogram_gate_loses_no_source_half_readable :
    histogram (halfReadable.walk []) "" "" = [(".js", 2)] ∧
      sources (halfReadable.walk []) Dialect.javascript.extensions "" = [garbledFile, plainFile] ∧
      ((sources (halfReadable.walk []) Dialect.javascript.extensions "").map FileAt.parts).Nodup ∧
      sources (halfReadable.walk ["bin"]) Dialect.csharp.extensions "" = [] := by
  have hhistogram : histogram (halfReadable.walk []) "" "" = [(".js", 2)] := by
    rw [walk_halfReadable]
    decide +kernel
  have hread : sources (halfReadable.walk []) Dialect.javascript.extensions "" =
      [garbledFile, plainFile] := by
    rw [walk_halfReadable]
    decide +kernel
  have hp : Disk.directory? { entries := [halfReadable] } ⟨.relative, ["home"]⟩ =
      some (⟨.absolute, ["home"]⟩, halfReadable) := rfl
  have hfilter : parseExtensions "" = [] := by decide
  obtain ⟨-, -, -, hscripts⟩ :=
    histogram_gate_loses_no_source wellFormed_halfReadable hp "" "" [] .javascript
  obtain ⟨-, -, -, hother⟩ :=
    histogram_gate_loses_no_source wellFormed_halfReadable hp "" "" ["bin"] .csharp
  refine ⟨hhistogram, hread, (hscripts hfilter).2.1, (hother hfilter).2.2.2 ?_⟩
  rw [hhistogram]
  decide

end SourceAtlas
