import SourceAtlas.Proofs.Isolation
import SourceAtlas.Proofs.Refiltering

/-!
# What an extension filter lets through

The filter decides file by file what the histogram counts, but only dialect by dialect what is
analysed: a dialect is looked at as soon as one of its extensions is counted, and then with all of
its files. For a dialect with one extension there is no difference. React has two, so a filter that
names one of them has the files of the other analysed, although the histogram does not count them.

* `Inventory.Counts`, `Inventory.mem_histogram` — what the histogram counts;
* `Entry.walk_sublist` — skipping directories only leaves files out of a walk;
* `mentions_of_runBatch`, `mentions_of_runBatches` — every path that is mentioned is that of a file
  of a batch;
* `extension_filter_bounds_analysis` — what this says about the files that are counted.
-/

namespace SourceAtlas

/-! ### What is counted -/

namespace Inventory

/-- **A file is counted** if it is not excluded and the filter names its extension or nothing. -/
def Counts (filter exclude : String) (f : FileAt) : Prop :=
  Exclusion.excludes exclude f.relative = false ∧
    (parseExtensions filter = [] ∨ f.extension ∈ parseExtensions filter)

instance (filter exclude : String) (f : FileAt) : Decidable (Counts filter exclude f) :=
  inferInstanceAs (Decidable (_ ∧ _))

/-- Whether a file is counted depends on its extension alone, if it is not excluded. -/
theorem Counts.of_extension_eq {filter exclude : String} {f g : FileAt}
    (hg : Counts filter exclude g) (hf : Exclusion.excludes exclude f.relative = false)
    (h : f.extension = g.extension) : Counts filter exclude f := by
  refine ⟨hf, ?_⟩
  rw [h]
  exact hg.2

/-- An extension is counted if it occurs, with the number of times it does. -/
theorem mem_tally {extensions : List String} {e : String} {n : Nat} :
    (e, n) ∈ tally extensions ↔ 0 < n ∧ n = extensions.count e := by
  unfold tally
  rw [List.mem_map]
  constructor
  · rintro ⟨e', he', heq⟩
    obtain ⟨rfl, rfl⟩ := Prod.mk.inj heq
    exact ⟨List.count_pos_iff.mpr ((mem_distinct _ _).mp he'), rfl⟩
  · rintro ⟨hpos, rfl⟩
    exact ⟨e, (mem_distinct _ _).mpr (List.count_pos_iff.mp hpos), rfl⟩

/-- **The histogram** has every extension of a counted file, with the number of these files. -/
theorem mem_histogram {files : List FileAt} {filter exclude e : String} {n : Nat} :
    (e, n) ∈ histogram files filter exclude ↔
      0 < n ∧ n = files.countP fun f => decide (Counts filter exclude f ∧ f.extension = e) := by
  -- three filters in a row count the same files as one test of all that they ask
  have hcount : (((files.filter fun f => !Exclusion.excludes exclude f.relative).map
      FileAt.extension).filter fun e => (parseExtensions filter).isEmpty ||
        (parseExtensions filter).contains e).count e =
      files.countP fun f => decide (Counts filter exclude f ∧ f.extension = e) := by
    rw [List.count_eq_countP, List.countP_filter, List.countP_map, List.countP_filter]
    refine List.countP_congr fun f _ => ?_
    rw [decide_eq_true_eq]
    simp only [Function.comp_apply, Bool.and_eq_true, beq_iff_eq, Bool.or_eq_true,
      List.isEmpty_iff, List.contains_iff_mem, Bool.not_eq_true']
    constructor
    · rintro ⟨⟨rfl, hallowed⟩, hkept⟩
      exact ⟨⟨hkept, hallowed⟩, rfl⟩
    · rintro ⟨⟨hkept, hallowed⟩, rfl⟩
      exact ⟨⟨rfl, hallowed⟩, hkept⟩
  unfold histogram
  rw [List.mem_mergeSort, mem_tally, hcount]

end Inventory

open Inventory

/-! ### Walks -/

namespace Entry

/-- A directory that no walk enters is not entered by one that skips nothing but what is hidden. -/
theorem isSkipped_of_isSkipped_nil {skip : List String} {n : String} (h : isSkipped [] n = true) :
    isSkipped skip n = true := by
  have hhidden : isHidden n = true := by simpa [isSkipped] using h
  rw [isSkipped, hhidden, Bool.true_or]

mutual

/-- Skipping directories only takes files away, below an entry. -/
theorem filesBelow_sublist (skip parts : List String) :
    ∀ e : Entry, (filesBelow skip parts e).Sublist (filesBelow [] parts e)
  | .file n bytes => by
    rw [filesBelow, filesBelow]
  | .directory n es link => by
    rw [filesBelow, filesBelow]
    by_cases hskip : (link || isSkipped skip n) = true
    · rw [if_pos hskip]
      exact List.nil_sublist _
    · have hopen : ¬(link || isSkipped [] n) = true := by
        rw [Bool.or_eq_true, not_or] at hskip ⊢
        exact ⟨hskip.1, fun h => hskip.2 (isSkipped_of_isSkipped_nil h)⟩
      rw [if_neg hskip, if_neg hopen]
      exact (List.Sublist.refl _).append (filesBelowAll_sublist skip (parts ++ [n]) es)

theorem filesBelowAll_sublist (skip parts : List String) :
    ∀ es : List Entry, (filesBelowAll skip parts es).Sublist (filesBelowAll [] parts es)
  | [] => by
    rw [filesBelowAll, filesBelowAll]
  | e :: es => by
    rw [filesBelowAll, filesBelowAll]
    exact (filesBelow_sublist skip parts e).append (filesBelowAll_sublist skip parts es)

end

/-- **Skipping directories only leaves files out of a walk.** -/
theorem walk_sublist (skip : List String) (e : Entry) : (e.walk skip).Sublist (e.walk []) := by
  unfold walk
  exact (List.Sublist.refl _).append (filesBelowAll_sublist skip [] e.ordered.entries)

end Entry

/-! ### What is mentioned -/

/-- Findings mention the path of everything that they list. -/
def Findings.Mentions (r : Findings) (path : String) : Prop :=
  ∃ D, ∃ e ∈ r.listed D, e.filePath = path

/-- **An analysis mentions** the paths of what it lists and those of the files that failed. -/
def Analysis.Mentions (a : Analysis) (path : String) : Prop :=
  path ∈ a.failedFiles ∨ a.findings.Mentions path

theorem not_mentions_empty (path : String) : ¬Findings.Mentions {} path := by
  rintro ⟨D, e, he, -⟩
  rw [listed_empty] at he
  cases he

/-- Where a pattern is refused, nothing is listed for the dialect. -/
theorem listed_refuse (r : Findings) (d : Dialect) : (r.refuse d).listed d = [] := by
  cases d <;> rfl

/-- Refusing one dialect leaves what is listed for another. -/
theorem listed_refuse_of_ne (r : Findings) {d d' : Dialect} (h : d' ≠ d) :
    (r.refuse d).listed d' = r.listed d' := by
  cases d <;> cases d' <;> simp [Findings.refuse, Findings.listed] at h ⊢

section Batches

variable {entry : Entry} {root : Path} {request : Request} {settings : Settings}
  {findings findings' : Findings} {failed : List String} {path : String}

/-- **A batch mentions** the paths of its files, besides those mentioned before. -/
theorem mentions_of_runBatch {d : Dialect}
    (h : (runBatch entry root request settings findings d).outcome = .ok (findings', failed))
    (hpath : path ∈ failed ∨ findings'.Mentions path) :
    findings.Mentions path ∨
      ∃ f ∈ batchFiles entry request settings d, f.pathText root = path := by
  rcases runBatch_cases h with ⟨filter, -, rfl, rfl⟩ | ⟨-, rfl, rfl⟩
  · rcases hpath with hfailed | ⟨D, e, he, rfl⟩
    · obtain ⟨f, hf, hpath, -⟩ := mem_failed_extracted.mp hfailed
      exact .inr ⟨f, hf, hpath⟩
    · by_cases hD : D = d
      · -- what the batch lists itself is an entity of one of its files
        subst hD
        rw [listed_report] at he
        obtain ⟨f, hf, hpath, -⟩ := exists_of_mem_extracted (mem_of_mem_shown he)
        exact .inr ⟨f, hf, hpath.symm⟩
      · rw [listed_report_of_ne _ hD] at he
        exact .inl ⟨D, e, he, rfl⟩
  · rcases hpath with hfailed | ⟨D, e, he, rfl⟩
    · cases hfailed
    · by_cases hD : D = d
      · subst hD
        rw [listed_refuse] at he
        cases he
      · rw [listed_refuse_of_ne _ hD] at he
        exact .inl ⟨D, e, he, rfl⟩

/-- **Batches mention** the paths of their files, besides those mentioned before. -/
theorem mentions_of_runBatches {ds : List Dialect}
    (h : (runBatches entry root request settings findings ds).outcome = .ok (findings', failed))
    (hpath : path ∈ failed ∨ findings'.Mentions path) :
    findings.Mentions path ∨
      ∃ d ∈ ds, ∃ f ∈ batchFiles entry request settings d, f.pathText root = path := by
  induction ds generalizing findings failed with
  | nil =>
    obtain ⟨rfl, rfl⟩ := Prod.mk.inj (Except.ok.inj h)
    exact .inl (hpath.resolve_left List.not_mem_nil)
  | cons d ds ih =>
    obtain ⟨⟨findings₁, failed₁⟩, failed₂, hfirst, hrest, rfl⟩ := exists_of_runBatches_cons h
    -- a path of the first batch is among its failures or its findings, which the others carry on
    have hstep : (path ∈ failed₁ ∨ findings₁.Mentions path) ∨
        ∃ d ∈ ds, ∃ f ∈ batchFiles entry request settings d, f.pathText root = path := by
      rcases hpath with hfailed | hlisted
      · rcases List.mem_append.mp hfailed with hfailed | hfailed
        · exact .inl (.inl hfailed)
        · exact (ih hrest (.inl hfailed)).imp_left .inr
      · exact (ih hrest (.inr hlisted)).imp_left .inr
    rcases hstep with hfirst' | ⟨d', hd', hfile⟩
    · rcases mentions_of_runBatch hfirst hfirst' with hbefore | hfile
      · exact .inl hbefore
      · exact .inr ⟨d, List.mem_cons_self, hfile⟩
    · exact .inr ⟨d', List.mem_cons_of_mem d hd', hfile⟩

end Batches

/-! ### Files of a batch -/

section Files

variable {entry : Entry} {request : Request} {settings : Settings} {D : Dialect} {f : FileAt}

/-- An extension of a dialect is what its files are counted under. -/
theorem FileAt.extension_eq_suffix (h : f.suffix ∈ D.extensions) : f.extension = f.suffix := by
  have hne : f.suffix ≠ "" := by
    intro hempty
    rw [hempty] at h
    cases D <;> simp [Dialect.extensions] at h
  unfold FileAt.extension Path.extension
  exact if_neg hne

/-- The files of a batch are on the walk that skips nothing, are not excluded, and are counted, if
they are, under an extension of the dialect. -/
theorem of_mem_batchFiles (h : f ∈ batchFiles entry request settings D) :
    f ∈ entry.walk [] ∧ f.extension ∈ D.extensions ∧
      Exclusion.excludes request.exclude f.relative = false := by
  obtain ⟨hwalk, hkept⟩ := List.mem_filter.mp h
  obtain ⟨hsuffix, hexclude⟩ := Bool.and_eq_true_iff.mp hkept
  rw [Dialect.map_lowerString_extensions, List.contains_iff_mem] at hsuffix
  refine ⟨(entry.walk_sublist settings.skipDirectories).subset hwalk, ?_, ?_⟩
  · rw [FileAt.extension_eq_suffix hsuffix]
    exact hsuffix
  · simpa using hexclude

/-- **A dialect is present** because of a file that is counted. -/
theorem exists_counted_of_mem_presentIn (h : D ∈ presentIn entry request) :
    ∃ g ∈ entry.walk [], Counts request.extensions request.exclude g ∧
      g.extension ∈ D.extensions := by
  obtain ⟨-, hpresent⟩ := List.mem_filter.mp h
  obtain ⟨⟨e, n⟩, hmem, he⟩ := List.any_eq_true.mp hpresent
  obtain ⟨hpos, hn⟩ := mem_histogram.mp hmem
  rw [hn, List.countP_pos_iff] at hpos
  obtain ⟨g, hg, hcounted⟩ := hpos
  obtain ⟨hcounts, rfl⟩ := of_decide_eq_true hcounted
  exact ⟨g, hg, hcounts, List.contains_iff_mem.mp he⟩

/-- Only React has two extensions. -/
theorem Dialect.extensions_cases {e e' : String} (he : e ∈ D.extensions)
    (he' : e' ∈ D.extensions) :
    e = e' ∨ e = ".jsx" ∧ e' = ".tsx" ∨ e = ".tsx" ∧ e' = ".jsx" := by
  cases D with
  | csharp => exact .inl ((List.mem_singleton.mp he).trans (List.mem_singleton.mp he').symm)
  | javascript => exact .inl ((List.mem_singleton.mp he).trans (List.mem_singleton.mp he').symm)
  | react =>
    simp only [extensions, List.mem_cons, List.not_mem_nil, or_false] at he he'
    rcases he with rfl | rfl <;> rcases he' with rfl | rfl <;> simp
  | vue => exact .inl ((List.mem_singleton.mp he).trans (List.mem_singleton.mp he').symm)

end Files

/-- **The extension filter bounds what is analysed,** up to the two extensions of React. The
histogram has the number of the counted files for every extension that one of them has. Every path
that an analysis mentions is that of a file below the directory that is not excluded. This file is
counted, or it has one of the extensions of React and a file that is counted has the other. -/
theorem extension_filter_bounds_analysis {d : Disk} {p : Path} {request : Request}
    {given : Option Settings} {a : Analysis} (ha : (analyze d p request given).outcome = .ok a) :
    ∃ root entry, d.directory? p = some (root, entry) ∧
      (∀ e n, (e, n) ∈ a.fileTypes ↔ 0 < n ∧ n = (entry.walk []).countP fun f =>
        decide (Counts request.extensions request.exclude f ∧ f.extension = e)) ∧
      ∀ path, a.Mentions path → ∃ f ∈ entry.walk [], f.pathText root = path ∧
        Exclusion.excludes request.exclude f.relative = false ∧
        (Counts request.extensions request.exclude f ∨
          ∃ g ∈ entry.walk [], Counts request.extensions request.exclude g ∧
            (f.extension = ".jsx" ∧ g.extension = ".tsx" ∨
              f.extension = ".tsx" ∧ g.extension = ".jsx")) := by
  obtain ⟨root, entry, settings, failed, hp, -, hbatches, htypes, hfailed⟩ :=
    exists_of_outcome_analyze ha
  refine ⟨root, entry, hp, ?_, ?_⟩
  · intro e n
    rw [htypes]
    exact mem_histogram
  · intro path hpath
    have hmentioned : path ∈ failed ∨ a.findings.Mentions path := by
      unfold Analysis.Mentions at hpath
      rwa [hfailed, mem_sortedDistinct] at hpath
    -- the file was in a batch, and a batch runs only if a file of its dialect counts
    obtain ⟨D, hD, f, hf, hpathText⟩ :=
      (mentions_of_runBatches hbatches hmentioned).resolve_left (not_mentions_empty path)
    obtain ⟨hwalk, hext, hexclude⟩ := of_mem_batchFiles hf
    obtain ⟨g, hg, hcounts, hext'⟩ := exists_counted_of_mem_presentIn hD
    refine ⟨f, hwalk, hpathText, hexclude, ?_⟩
    rcases Dialect.extensions_cases hext hext' with hsame | hother
    · exact .inl (hcounts.of_extension_eq hexclude hsame)
    · exact .inr ⟨g, hg, hcounts, hother⟩

/-! ### One extension of two -/

/-- A directory with files of both extensions of React: one is empty, one has a component, and one
is not text. -/
def siblings : Entry :=
  .directory "home" [.file "a.jsx" [], .file "b.tsx" (Text.encode "function A() \x7b \x7d"),
    .file "c.tsx" [0xff]]

/-- What a walk finds there. -/
def siblingFiles : List FileAt :=
  [⟨["a.jsx"], []⟩, ⟨["b.tsx"], Text.encode "function A() \x7b \x7d"⟩, ⟨["c.tsx"], [0xff]⟩]

theorem walk_siblings (skip : List String) : siblings.walk skip = siblingFiles := by
  rw [Entry.walk_of_isOrdered (by decide)]
  rfl

/-- The analysis of the sample succeeds. -/
theorem exists_analysis_siblings :
    ∃ a, (analyze { entries := [siblings] } ⟨.relative, ["home"]⟩ { extensions := ".jsx" }
        none).outcome = .ok a ∧
      a.fileTypes = [(".jsx", 1)] ∧
      (a.findings.listed .react).map Entity.filePath = ["/home/b.tsx"] ∧
      a.failedFiles = ["/home/c.tsx"] := by
  have hp : Disk.directory? { entries := [siblings] } ⟨.relative, ["home"]⟩ =
      some (⟨.absolute, ["home"]⟩, siblings) := rfl
  have hs : settingsOr none { entries := [siblings] } ⟨.relative, ["home"]⟩ = .ok {} := rfl
  -- one dialect is present, so the analysis is one batch
  have hpresent : presentIn siblings { extensions := ".jsx" } = [.react] := by
    rw [presentIn, walk_siblings]
    decide +kernel
  have hfiles : batchFiles siblings { extensions := ".jsx" } {} .react = siblingFiles := by
    rw [batchFiles, walk_siblings]
    decide +kernel
  have htypes : histogram (siblings.walk []) ".jsx" "" = [(".jsx", 1)] := by
    rw [walk_siblings]
    decide +kernel
  have ha : (analyze { entries := [siblings] } ⟨.relative, ["home"]⟩ { extensions := ".jsx" }
      (some {})).outcome = .ok _ :=
    outcome_analyze_of_single hp hpresent (by decide) rfl
  rw [← outcome_analyze_given hs, hfiles] at ha
  refine ⟨_, ha, htypes, ?_, ?_⟩
  · decide +kernel
  · decide +kernel

/-- **A filter for one extension of React has files of the other analysed.** They are listed and
fail, although the filter does not name their extension and the histogram does not count them. -/
theorem extension_filter_lets_sibling_through :
    ∃ a, (analyze { entries := [siblings] } ⟨.relative, ["home"]⟩ { extensions := ".jsx" }
        none).outcome = .ok a ∧
      a.Mentions "/home/b.tsx" ∧ a.Mentions "/home/c.tsx" ∧
      (siblings.walk []).map (fun f => (f.pathText ⟨.absolute, ["home"]⟩, f.extension)) =
        [("/home/a.jsx", ".jsx"), ("/home/b.tsx", ".tsx"), ("/home/c.tsx", ".tsx")] ∧
      parseExtensions ".jsx" = [".jsx"] ∧ a.fileTypes = [(".jsx", 1)] := by
  obtain ⟨a, ha, htypes, hlisted, hfailed⟩ := exists_analysis_siblings
  -- the one file is listed and the other has failed, and both count as mentioned
  have hcard : a.findings.Mentions "/home/b.tsx" := by
    have hmem : "/home/b.tsx" ∈ (a.findings.listed .react).map Entity.filePath := by
      rw [hlisted]
      exact List.mem_singleton.mpr rfl
    obtain ⟨e, he, hpath⟩ := List.mem_map.mp hmem
    exact ⟨.react, e, he, hpath⟩
  refine ⟨a, ha, .inr hcard, .inl ?_, ?_, by decide +kernel, htypes⟩
  · rw [hfailed]
    exact List.mem_singleton.mpr rfl
  · rw [walk_siblings]
    decide +kernel

/-- The file that is not text failed and is not counted; the empty file with the other extension
is. -/
theorem extension_filter_bounds_analysis_siblings :
    ∃ a, (analyze { entries := [siblings] } ⟨.relative, ["home"]⟩ { extensions := ".jsx" }
        none).outcome = .ok a ∧
      a.failedFiles = ["/home/c.tsx"] ∧
      ∃ f ∈ siblings.walk [], f.pathText ⟨.absolute, ["home"]⟩ = "/home/c.tsx" ∧
        (Counts ".jsx" "" f ∨ ∃ g ∈ siblings.walk [], Counts ".jsx" "" g ∧
          (f.extension = ".jsx" ∧ g.extension = ".tsx" ∨
            f.extension = ".tsx" ∧ g.extension = ".jsx")) := by
  obtain ⟨a, ha, -, -, hfailed⟩ := exists_analysis_siblings
  obtain ⟨root, entry, hp, -, hmentioned⟩ := extension_filter_bounds_analysis ha
  obtain ⟨rfl, rfl⟩ : (⟨.absolute, ["home"]⟩ : Path) = root ∧ siblings = entry :=
    Prod.mk.inj (Option.some.inj hp)
  have hmem : a.Mentions "/home/c.tsx" := by
    refine .inl ?_
    rw [hfailed]
    exact List.mem_singleton.mpr rfl
  obtain ⟨f, hf, hpath, -, hcounts⟩ := hmentioned _ hmem
  exact ⟨a, ha, hfailed, f, hf, hpath, hcounts⟩

end SourceAtlas
