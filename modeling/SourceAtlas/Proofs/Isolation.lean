import SourceAtlas.Proofs.Disk.Contents
import SourceAtlas.Proofs.Extract.Checked
import SourceAtlas.Proofs.Listing
import SourceAtlas.Proofs.Merging
import SourceAtlas.Proofs.Outcome

/-!
# An analysis is made file by file

Files are read and extracted one by one, but what they give is merged, sorted, filtered and spread
over reports, dialect by dialect. All of this commutes with looking at one file only: what an
analysis lists for a file is what the file alone would give, and a file that is not text is noted
and gives nothing. Hence the content of a file decides about what is listed for this file, and about
nothing else.

* `Dialect.filePath_of_mem_extract` — an extractor only finds entities of the file it is given;
* `filter_extracted` — merging what some files give and looking at some of the paths is merging what
  the files with these paths give;
* `Analysis.Gathers`, `exists_analysis` — an analysis in terms of the files that every dialect
  reads;
* `Analysis.IsFileByFile`, `analysis_decomposes_by_file` — what an analysis says about a file, and
  that no other file has a part in it.
-/

namespace SourceAtlas

/-! ### Entities know their file -/

namespace Extract

/-- The walk over a syntax tree only reports entities of the file. The body of a declaration and
what stands beside it are walked by two functions, so there are two motives. -/
theorem CSharp.filePath_of_mem_walk (filePath space : String)
    (nodes : List SourceAtlas.CSharp.Node) :
    ∀ e ∈ CSharp.walk filePath space nodes, e.filePath = filePath := by
  refine CSharp.walk.induct
    (fun space n => ∀ e ∈ CSharp.walk.body filePath space n, e.filePath = filePath)
    (fun space ns => ∀ e ∈ CSharp.walk filePath space ns, e.filePath = filePath)
    ?_ ?_ ?_ ?_ ?_ ?_ ?_ ?_ ?_ space nodes
  · -- a declaration without a body
    intro space n hbody
    rw [CSharp.walk.body]
    split
    · exact List.forall_mem_nil _
    · next b hb => cases hbody.symm.trans hb
  · -- a declaration with a body
    intro space n b hbody ih
    rw [CSharp.walk.body]
    split
    · next hb => cases hbody.symm.trans hb
    · next b' hb =>
      obtain rfl := Option.some.inj (hbody.symm.trans hb)
      exact ih
  · intro space
    rw [CSharp.walk]
    exact List.forall_mem_nil _
  · -- a block namespace
    intro space n rest hkind name ihbody ihrest
    rw [CSharp.walk, hkind]
    exact List.forall_mem_cons.mpr ⟨rfl, List.forall_mem_append.mpr ⟨ihbody, ihrest⟩⟩
  · -- a file namespace
    intro space n rest hkind name ihinner ihrest
    rw [CSharp.walk, hkind]
    exact List.forall_mem_cons.mpr ⟨rfl, List.forall_mem_append.mpr ⟨ihinner, ihrest⟩⟩
  · -- a class
    intro space n rest hkind ihbody ihrest
    rw [CSharp.walk, hkind]
    exact List.forall_mem_cons.mpr ⟨rfl, List.forall_mem_append.mpr ⟨ihbody, ihrest⟩⟩
  · -- a type that is entered for the classes in it
    intro space n rest hkind ihbody ihrest
    rw [CSharp.walk, hkind]
    exact List.forall_mem_append.mpr ⟨ihbody, ihrest⟩
  · -- a list of declarations
    intro space n rest hkind ihinner ihrest
    rw [CSharp.walk, hkind]
    exact List.forall_mem_append.mpr ⟨ihinner, ihrest⟩
  · -- anything else
    intro space n rest h₁ h₂ h₃ h₄ h₅ ihrest
    rw [CSharp.walk]
    split
    · exact absurd ‹_› h₁
    · exact absurd ‹_› h₂
    · exact absurd ‹_› h₃
    · exact absurd ‹_› h₄
    · exact absurd ‹_› h₅
    · exact ihrest

/-- A function carries the path of the file it was found in. -/
theorem JavaScript.filePath_of_mem_functions {source : List Char} {filePath : String}
    {f : FunctionEntity} (h : f ∈ JavaScript.functions source filePath) :
    f.filePath = filePath := by
  obtain ⟨p, -, hf⟩ := List.mem_flatMap.mp h
  obtain ⟨m, -, hm⟩ := List.mem_filterMap.mp hf
  obtain ⟨-, hm⟩ := Option.ite_none_left_eq_some.mp hm
  obtain rfl := Option.some.inj hm
  rfl

/-- So does every entity of a JavaScript source, classes included. -/
theorem JavaScript.filePath_of_mem_entities {source : List Char} {filePath : String} {e : Entity}
    (h : e ∈ JavaScript.entities source filePath) : e.filePath = filePath := by
  rcases List.mem_append.mp h with h | h
  · obtain ⟨f, hf, rfl⟩ := List.mem_map.mp h
    exact JavaScript.filePath_of_mem_functions hf
  · obtain ⟨c, hc, rfl⟩ := List.mem_map.mp h
    obtain ⟨p, -, hc⟩ := List.mem_flatMap.mp hc
    obtain ⟨m, -, rfl⟩ := List.mem_map.mp hc
    rfl

theorem React.filePath_of_mem_entities {source : List Char} {filePath : String} {e : Entity}
    (h : e ∈ React.entities source filePath) : e.filePath = filePath := by
  obtain ⟨c, hc, rfl⟩ := List.mem_map.mp h
  obtain ⟨pm, -, rfl⟩ := List.mem_map.mp hc
  rfl

/-- So does the component of a Vue file, in each of its three forms. -/
theorem Vue.filePath_component (source : List Char) (filePath : String) :
    (Vue.component source filePath).filePath = filePath := by
  unfold Vue.component
  split
  · rfl
  · dsimp only
    split
    · rfl
    · rfl

theorem Vue.filePath_of_mem_entities {source : List Char} {filePath : String} {e : Entity}
    (h : e ∈ Vue.entities source filePath) : e.filePath = filePath := by
  simp only [Vue.entities] at h
  split at h
  · obtain rfl := List.mem_singleton.mp h
    exact Vue.filePath_component source filePath
  · cases h

end Extract

/-- **An extractor only finds entities of the file it is given.** -/
theorem Dialect.filePath_of_mem_extract {d : Dialect} {source : List Char} {filePath : String}
    {e : Entity} (h : e ∈ d.extract source filePath) : e.filePath = filePath := by
  cases d with
  | csharp => exact Extract.CSharp.filePath_of_mem_walk filePath _ _ e h
  | javascript => exact Extract.JavaScript.filePath_of_mem_entities h
  | react => exact Extract.React.filePath_of_mem_entities h
  | vue => exact Extract.Vue.filePath_of_mem_entities h

/-! ### What some files give -/

section Extracted

variable (d : Dialect) (root : Path)

/-- What one file gives: the entities in its text, and nothing if it is not text. -/
def found (f : FileAt) : List Entity :=
  match Text.decodeMarked f.bytes with
  | .ok text => d.extract (Text.unixLines text) (f.pathText root)
  | .error _ => []

variable {d root}

/-- What a file that can be decoded gives. -/
theorem found_of_ok {f : FileAt} {text : List Char} (h : Text.decodeMarked f.bytes = .ok text) :
    found d root f = d.extract (Text.unixLines text) (f.pathText root) := by
  rw [found, h]

/-- A file that cannot be decoded gives nothing. -/
theorem found_of_error {f : FileAt} {fault : Text.Utf8Fault}
    (h : Text.decodeMarked f.bytes = .error fault) : found d root f = [] := by
  rw [found, h]

/-- **An entity tells which file it is from,** in every dialect. -/
theorem filePath_of_mem_found {f : FileAt} {e : Entity} (h : e ∈ found d root f) :
    e.filePath = f.pathText root := by
  unfold found at h
  split at h
  · exact Dialect.filePath_of_mem_extract h
  · cases h

/-- Looking at some of the paths, a file is seen whole or not at all. -/
theorem filter_found (keep : String → Bool) (f : FileAt) :
    (found d root f).filter (fun e => keep e.filePath) =
      if keep (f.pathText root) then found d root f else [] := by
  split
  · next h =>
    rw [List.filter_eq_self]
    intro e he
    rwa [filePath_of_mem_found he]
  · next h =>
    rw [List.filter_eq_nil_iff]
    intro e he
    rwa [filePath_of_mem_found he]

/-- Choosing entities by path is choosing files by path. -/
theorem filter_flatMap_found (keep : String → Bool) (files : List FileAt) :
    (files.flatMap (found d root)).filter (fun e => keep e.filePath) =
      (files.filter fun f => keep (f.pathText root)).flatMap (found d root) := by
  induction files with
  | nil => rfl
  | cons f files ih =>
    rw [List.flatMap_cons, List.filter_append, filter_found, ih, List.filter_cons]
    split
    · rw [List.flatMap_cons]
    · rw [List.nil_append]

/-- What the readings of some files hold is what the files give, one after the other. -/
theorem flatten_entities (files : List FileAt) :
    ((files.map (Reading.ofFile d root)).filterMap Reading.entities?).flatten =
      files.flatMap (found d root) := by
  induction files with
  | nil => rfl
  | cons f files ih =>
    rw [List.map_cons, List.flatMap_cons, ← ih]
    cases h : Text.decodeMarked f.bytes with
    | ok text =>
      have hread : (Reading.ofFile d root f).entities? = some (found d root f) := by
        rw [found_of_ok h, Reading.entities?, Reading.ofFile, h]
        rfl
      rw [List.filterMap_cons_some hread, List.flatten_cons]
    | error fault =>
      have hread : (Reading.ofFile d root f).entities? = none := by
        rw [Reading.entities?, Reading.ofFile, h]
        rfl
      rw [List.filterMap_cons_none hread, found_of_error h, List.nil_append]

/-- The entities of some files are merged without regard to which file they are of. -/
theorem extracted_fst (files : List FileAt) :
    (extracted d root files).1 = aggregate [files.flatMap (found d root)] := by
  change aggregate _ = _
  rw [aggregate, aggregate, flatten_entities, List.flatten_singleton]

/-- **Looking at some of the paths** of what files give is looking at the files with these paths. -/
theorem filter_extracted (keep : String → Bool) (files : List FileAt) :
    (extracted d root files).1.filter (fun e => keep e.filePath) =
      (extracted d root (files.filter fun f => keep (f.pathText root))).1 := by
  rw [extracted_fst, extracted_fst, aggregate_filter_filePath, List.map_singleton,
    filter_flatMap_found]

/-- Every entity of some files is of one of them, and that file is text. -/
theorem exists_of_mem_extracted {files : List FileAt} {e : Entity}
    (h : e ∈ (extracted d root files).1) :
    ∃ f ∈ files, e.filePath = f.pathText root ∧ ∃ text, Text.decodeMarked f.bytes = .ok text := by
  rw [extracted_fst] at h
  -- a merge holds nothing but what was merged
  have hmem := (((isMerge_aggregate _).firsts e).mp h).mem
  rw [List.flatten_singleton] at hmem
  obtain ⟨f, hf, he⟩ := List.mem_flatMap.mp hmem
  refine ⟨f, hf, filePath_of_mem_found he, ?_⟩
  cases hdecode : Text.decodeMarked f.bytes with
  | ok text => exact ⟨text, rfl⟩
  | error fault =>
    rw [found_of_error hdecode] at he
    cases he

/-- **The files that fail are those that are not text.** -/
theorem mem_failed_extracted {files : List FileAt} {path : String} :
    path ∈ (extracted d root files).2 ↔
      ∃ f ∈ files, f.pathText root = path ∧ ∃ fault, Text.decodeMarked f.bytes = .error fault := by
  have hfailed : ∀ f, (Reading.ofFile d root f).isFailed = true ↔
      ∃ fault, Text.decodeMarked f.bytes = .error fault := by
    intro f
    unfold Reading.isFailed Reading.report? Reading.ofFile
    cases Text.decodeMarked f.bytes with
    | ok text => simp [Except.map]
    | error fault => simp [Except.map]
  change path ∈ ((files.map (Reading.ofFile d root)).filter Reading.isFailed).map Reading.path ↔ _
  constructor
  · intro h
    obtain ⟨r, hr, rfl⟩ := List.mem_map.mp h
    obtain ⟨hr, hfail⟩ := List.mem_filter.mp hr
    obtain ⟨f, hf, rfl⟩ := List.mem_map.mp hr
    exact ⟨f, hf, rfl, (hfailed f).mp hfail⟩
  · rintro ⟨f, hf, rfl, hfault⟩
    refine List.mem_map.mpr ⟨Reading.ofFile d root f, ?_, rfl⟩
    exact List.mem_filter.mpr ⟨List.mem_map_of_mem hf, (hfailed f).mpr hfault⟩

end Extracted

/-! ### What an analysis gathers -/

/-- The files that an analysis reads for a dialect: those of its batch, if it runs. -/
def filesRead (entry : Entry) (request : Request) (settings : Settings) (d : Dialect) :
    List FileAt :=
  if d ∈ presentIn entry request then batchFiles entry request settings d else []

/-- **What an analysis gathers** from the files that are read for every dialect. -/
structure Analysis.Gathers (a : Analysis) (root : Path) (filter : Filter)
    (read : Dialect → List FileAt) : Prop where
  /-- What is listed for a dialect are the entities of its files. -/
  listed : ∀ d, a.findings.listed d = d.shown filter (extracted d root (read d)).1
  /-- What failed are the files that failed for some dialect. -/
  failed : ∀ path, path ∈ a.failedFiles ↔ ∃ d, path ∈ (extracted d root (read d)).2
  /-- What failed is in order and without repetition. -/
  ordered : a.failedFiles.Pairwise CodeLt

theorem extracted_nil (d : Dialect) (root : Path) : extracted d root [] = ([], []) := by
  simp [extracted, aggregate, deduplicate, deduplicate.keepNew]

theorem shown_nil (d : Dialect) (filter : Filter) : d.shown filter [] = [] := by
  simp [Dialect.shown]

theorem listed_empty (d : Dialect) : Findings.listed {} d = [] := by
  cases d <;> rfl

/-- What is listed for a dialect after some reports. -/
theorem listed_foldl_report (content : Dialect → List Entity) (filter : Filter) (ds : List Dialect)
    (r : Findings) (d : Dialect) :
    (ds.foldl (fun r d => (r.report d (content d) filter).value) r).listed d =
      if d ∈ ds then d.shown filter (content d) else r.listed d := by
  induction ds generalizing r with
  | nil => rfl
  | cons d' ds ih =>
    rw [List.foldl_cons, ih]
    -- the last report on `d` counts: one further on, or this one, or none
    by_cases hmem : d ∈ ds
    · rw [if_pos hmem, if_pos (List.mem_cons_of_mem _ hmem)]
    · rw [if_neg hmem]
      by_cases heq : d = d'
      · subst heq
        rw [listed_report, if_pos List.mem_cons_self]
      · rw [listed_report_of_ne r heq, if_neg]
        intro h
        exact (List.mem_cons.mp h).elim heq hmem

section Batches

variable {root : Path} (request : Request) {settings : Settings} {filter : Filter}

/-- Batches with workers and a term that compiles report one after the other, and none fails. -/
theorem outcome_runBatches_of_ok (entry : Entry) (hw : 1 ≤ settings.maxWorkers)
    (hq : Filter.compile request.query settings.highlightMarker = .ok filter) (ds : List Dialect)
    (r : Findings) :
    (runBatches entry root request settings r ds).outcome = .ok
      (ds.foldl (fun r d =>
          (r.report d (extracted d root (batchFiles entry request settings d)).1 filter).value) r,
        ds.flatMap fun d => (extracted d root (batchFiles entry request settings d)).2) := by
  induction ds generalizing r with
  | nil => rfl
  | cons d ds ih =>
    rw [outcome_runBatches_cons, outcome_runBatch_of_ok hq, outcome_extractFiles _ _ _ (.inr hw)]
    change (runBatches entry root request settings _ ds).outcome.map _ = _
    rw [ih]
    rfl

/-- **An analysis gathers from the files of the dialects that are present.** -/
theorem exists_analysis {d : Disk} {p : Path} {entry : Entry} {given : Option Settings}
    (hdir : d.directory? p = some (root, entry)) (hs : settingsOr given d root = .ok settings)
    (hw : 1 ≤ settings.maxWorkers)
    (hq : Filter.compile request.query settings.highlightMarker = .ok filter) :
    ∃ a, (analyze d p request given).outcome = .ok a ∧
      a.Gathers root filter (filesRead entry request settings) := by
  have houtcome : (analyze d p request given).outcome =
      (analyzeEntry d root entry request settings).outcome := by
    rw [outcome_analyze_of_directory hdir, hs]
    rfl
  rw [houtcome, outcome_analyzeEntry, outcome_runBatches_of_ok request entry hw hq]
  refine ⟨_, rfl, ?_, ?_, pairwise_sortedDistinct _⟩
  · -- what is listed for a dialect is what its batch listed; without a batch it is nothing
    intro D
    dsimp only
    rw [listed_foldl_report
      (fun d => (extracted d root (batchFiles entry request settings d)).1), filesRead]
    split
    · rfl
    · rw [extracted_nil, shown_nil, listed_empty]
  · -- a file has failed in one of the batches
    intro path
    rw [mem_sortedDistinct, List.mem_flatMap]
    constructor
    · rintro ⟨D, hD, hpath⟩
      refine ⟨D, ?_⟩
      rwa [filesRead, if_pos hD]
    · rintro ⟨D, hpath⟩
      rw [filesRead] at hpath
      split at hpath
      · next hD => exact ⟨D, hD, hpath⟩
      · rw [extracted_nil] at hpath
        cases hpath

end Batches

/-! ### File by file -/

/-- **An analysis that is made file by file** of the files that are read for every dialect. -/
structure Analysis.IsFileByFile (a : Analysis) (root : Path) (filter : Filter)
    (read : Dialect → List FileAt) : Prop where
  /-- A file that is not text failed, and nothing is listed for it. -/
  of_error : ∀ d, ∀ f ∈ read d, ∀ fault, Text.decodeMarked f.bytes = .error fault →
    f.pathText root ∈ a.failedFiles ∧
      ∀ d', ∀ e ∈ a.findings.listed d', e.filePath ≠ f.pathText root
  /-- A file that is text did not fail. What is listed for it, kind by kind and in this order, is
  what the file alone gives and the filter keeps. -/
  of_ok : ∀ d, ∀ f ∈ read d, ∀ text, Text.decodeMarked f.bytes = .ok text →
    f.pathText root ∉ a.failedFiles ∧
      (∀ kind ∈ d.listedKinds,
        (a.findings.listed d).filter (fun e => e.kind == kind && e.filePath == f.pathText root) =
          (aggregate [d.extract (Text.unixLines text) (f.pathText root)]).filter
            fun e => e.kind == kind && filter.matchesEntity e) ∧
      ∀ d' ≠ d, ∀ e ∈ a.findings.listed d', e.filePath ≠ f.pathText root
  /-- What failed is in order, without repetition, … -/
  failed_ordered : a.failedFiles.Pairwise CodeLt
  /-- … and nothing but files that are read and are not text. -/
  failed_read : ∀ path ∈ a.failedFiles, ∃ d, ∃ f ∈ read d, f.pathText root = path ∧
    ∃ fault, Text.decodeMarked f.bytes = .error fault
  /-- What is listed for a dialect is of a file that is read for it. -/
  listed_read : ∀ d, ∀ e ∈ a.findings.listed d, ∃ f ∈ read d, e.filePath = f.pathText root

/-- **Files that are read one for one path:** no two for a dialect, and none for two dialects. -/
structure ReadsApart (root : Path) (read : Dialect → List FileAt) : Prop where
  pairwise : ∀ d, (read d).Pairwise fun f g => f.pathText root ≠ g.pathText root
  unique : ∀ d d', ∀ f ∈ read d, ∀ f' ∈ read d', f.pathText root = f'.pathText root →
    d = d' ∧ f = f'

/-- Among files with different paths, a file is the only one with its path. -/
theorem filter_pathText {root : Path} {files : List FileAt}
    (h : files.Pairwise fun f g => f.pathText root ≠ g.pathText root) {f : FileAt}
    (hf : f ∈ files) :
    (files.filter fun g => g.pathText root == f.pathText root) = [f] := by
  induction files with
  | nil => cases hf
  | cons g files ih =>
    obtain ⟨hg, hrest⟩ := List.pairwise_cons.mp h
    rcases List.mem_cons.mp hf with rfl | hf
    · rw [List.filter_cons, if_pos (beq_self_eq_true _), List.filter_eq_nil_iff.mpr]
      intro g' hg' heq
      exact hg g' hg' (beq_iff_eq.mp heq).symm
    · rw [List.filter_cons, if_neg fun heq => hg f hf (beq_iff_eq.mp heq), ih hrest hf]

namespace Analysis.Gathers

variable {a : Analysis} {root : Path} {filter : Filter} {read : Dialect → List FileAt}
  (h : a.Gathers root filter read)

include h

/-- The files that are reported as failed are those that were read and could not be decoded. -/
theorem mem_failedFiles {path : String} :
    path ∈ a.failedFiles ↔ ∃ d, ∃ f ∈ read d, f.pathText root = path ∧
      ∃ fault, Text.decodeMarked f.bytes = .error fault := by
  rw [h.failed]
  simp only [mem_failed_extracted]

/-- What is listed is of a file that is read and is text. -/
theorem exists_of_mem_listed {d : Dialect} {e : Entity} (he : e ∈ a.findings.listed d) :
    ∃ f ∈ read d, e.filePath = f.pathText root ∧
      ∃ text, Text.decodeMarked f.bytes = .ok text := by
  rw [h.listed] at he
  exact exists_of_mem_extracted (mem_of_mem_shown he)

/-- What is listed at some of the paths is what the files with these paths give. -/
theorem filter_listed (keep : String → Bool) (d : Dialect) :
    (a.findings.listed d).filter (fun e => keep e.filePath) =
      d.shown filter (extracted d root ((read d).filter fun f => keep (f.pathText root))).1 := by
  rw [h.listed, filter_shown, filter_extracted]

/-- **If no two of the files have the same path,** the analysis is made file by file. -/
theorem isFileByFile (hread : ReadsApart root read) : a.IsFileByFile root filter read where
  of_error d f hf fault hfault := by
    refine ⟨h.mem_failedFiles.mpr ⟨d, f, hf, rfl, fault, hfault⟩, ?_⟩
    intro d' e he hpath
    obtain ⟨f', hf', hpath', text, htext⟩ := h.exists_of_mem_listed he
    obtain ⟨-, rfl⟩ := hread.unique d d' f hf f' hf' (hpath.symm.trans hpath')
    cases hfault.symm.trans htext
  of_ok d f hf text htext := by
    refine ⟨?_, ?_, ?_⟩
    · intro hfailed
      obtain ⟨d', f', hf', hpath, fault, hfault⟩ := h.mem_failedFiles.mp hfailed
      obtain ⟨-, rfl⟩ := hread.unique d d' f hf f' hf' hpath.symm
      cases hfault.symm.trans htext
    · -- looking at one path leaves one file of all that are read
      intro kind hkind
      have halone : (extracted d root [f]).1 =
          aggregate [d.extract (Text.unixLines text) (f.pathText root)] := by
        rw [extracted_fst, List.flatMap_singleton, found_of_ok htext]
      have hfile := h.filter_listed (· == f.pathText root) d
      rw [filter_pathText (hread.pairwise d) hf, halone] at hfile
      rw [← filter_kind_shown hkind, ← hfile, List.filter_filter]
    · intro d' hne e he hpath
      obtain ⟨f', hf', hpath', -⟩ := h.exists_of_mem_listed he
      exact hne (hread.unique d d' f hf f' hf' (hpath.symm.trans hpath')).1.symm
  failed_ordered := h.ordered
  failed_read _ hpath := h.mem_failedFiles.mp hpath
  listed_read d e he := by
    obtain ⟨f, hf, hpath, -⟩ := h.exists_of_mem_listed he
    exact ⟨f, hf, hpath⟩

/-- **Two analyses of the same files,** some with changed content, agree at the paths of the files
whose content is the same. -/
theorem agree {a' : Analysis} {change : FileAt → FileAt}
    (h' : a'.Gathers root filter fun d => (read d).map change)
    (hpath : ∀ f, (change f).pathText root = f.pathText root) (keep : String → Bool)
    (hkeep : ∀ f, keep (f.pathText root) = true → change f = f) :
    (∀ d, (a'.findings.listed d).filter (fun e => keep e.filePath) =
      (a.findings.listed d).filter fun e => keep e.filePath) ∧
    a'.failedFiles.filter keep = a.failedFiles.filter keep := by
  constructor
  · -- a file that is looked at is not changed, so the same files are seen
    intro d
    have hfiles : ((read d).map change).filter (fun f => keep (f.pathText root)) =
        (read d).filter fun f => keep (f.pathText root) := by
      rw [List.filter_map]
      simp only [Function.comp_def, hpath]
      exact (List.map_congr_left fun f hf => hkeep f (List.mem_filter.mp hf).2).trans
        (List.map_id _)
    rw [h'.filter_listed, h.filter_listed, hfiles]
  · -- both lists are ordered, so it is enough that they have the same members
    refine eq_of_pairwise_of_mem_iff (fun _ _ => CodeLt.asymm) (h'.ordered.filter _)
      (h.ordered.filter _) fun path => ?_
    rw [List.mem_filter, List.mem_filter, and_congr_left_iff]
    intro hkept
    rw [h.mem_failedFiles, h'.mem_failedFiles]
    constructor
    · rintro ⟨d, f', hf', rfl, hfault⟩
      obtain ⟨f, hf, rfl⟩ := List.mem_map.mp hf'
      rw [hpath] at hkept
      rw [hkeep f hkept] at hfault ⊢
      exact ⟨d, f, hf, rfl, hfault⟩
    · rintro ⟨d, f, hf, rfl, hfault⟩
      refine ⟨d, f, ?_, rfl, hfault⟩
      exact List.mem_map.mpr ⟨f, hf, hkeep f hkept⟩

end Analysis.Gathers

/-! ### Files that are read -/

theorem Dialect.map_lowerString_extensions (d : Dialect) :
    d.extensions.map Text.lowerString = d.extensions := by
  cases d <;> decide +kernel

/-- An extension belongs to one dialect only, so no file is read twice. -/
theorem Dialect.eq_of_mem_extensions {d d' : Dialect} {s : String}
    (h : s ∈ d.extensions.map Text.lowerString) (h' : s ∈ d'.extensions.map Text.lowerString) :
    d = d' := by
  rw [map_lowerString_extensions] at h h'
  cases d <;> cases d' <;> simp_all [Dialect.extensions]

section FilesRead

variable {entry : Entry} {request : Request} {settings : Settings} {d : Dialect} {f : FileAt}

/-- A file that is read was walked to and has an extension of the dialect. -/
theorem mem_walk_of_mem_filesRead (h : f ∈ filesRead entry request settings d) :
    f ∈ entry.walk settings.skipDirectories ∧ f.suffix ∈ d.extensions.map Text.lowerString := by
  unfold filesRead at h
  split at h
  · obtain ⟨hwalk, hf⟩ := List.mem_filter.mp h
    exact ⟨hwalk, List.contains_iff_mem.mp (Bool.and_eq_true_iff.mp hf).1⟩
  · cases h

/-- Different files of a well-formed tree are read for different paths. -/
theorem Entry.WellFormed.readsApart (h : entry.WellFormed) (root : Path) (request : Request)
    (settings : Settings) : ReadsApart root (filesRead entry request settings) where
  pairwise d := by
    unfold filesRead
    split
    · exact (h.pairwise_pathText settings.skipDirectories root).filter _
    · exact List.Pairwise.nil
  unique d d' f hf f' hf' hpath := by
    obtain ⟨hwalk, hsuffix⟩ := mem_walk_of_mem_filesRead hf
    obtain ⟨hwalk', hsuffix'⟩ := mem_walk_of_mem_filesRead hf'
    have hmem : f' ∈ (entry.walk settings.skipDirectories).filter fun g =>
        g.pathText root == f.pathText root :=
      List.mem_filter.mpr ⟨hwalk', beq_iff_eq.mpr hpath.symm⟩
    rw [filter_pathText (h.pairwise_pathText _ root) hwalk] at hmem
    obtain rfl := List.mem_singleton.mp hmem
    exact ⟨Dialect.eq_of_mem_extensions hsuffix hsuffix', rfl⟩

variable (change : Change) (place : List String)

/-- Which files a batch has depends on their places, not on their contents. -/
theorem batchFiles_mapContents :
    batchFiles (entry.mapContents change place) request settings d =
      (batchFiles entry request settings d).map (FileAt.mapContent change place) := by
  simp only [batchFiles, Inventory.sources, Entry.walk_mapContents, List.filter_map,
    Function.comp_def, FileAt.suffix_mapContent, FileAt.relative_mapContent]

/-- Which dialects are present does not depend on contents either. -/
theorem presentIn_mapContents :
    presentIn (entry.mapContents change place) request = presentIn entry request := by
  simp only [presentIn, Inventory.histogram, Entry.walk_mapContents, List.filter_map, List.map_map,
    Function.comp_def, FileAt.extension_mapContent, FileAt.relative_mapContent]

/-- **The same files are read** whatever is in them. -/
theorem filesRead_mapContents :
    filesRead (entry.mapContents change place) request settings = fun d =>
      (filesRead entry request settings d).map (FileAt.mapContent change place) := by
  funext d
  unfold filesRead
  rw [presentIn_mapContents, batchFiles_mapContents]
  split
  · rfl
  · rfl

end FilesRead

/-! ### One file and the others -/

section Rewriting

variable {d : Disk} {p root : Path} {entry : Entry} {place : List String} (bytes : List UInt8)

/-- The settings of a directory are those of its settings file. -/
theorem settingsOr_rewrite (hdir : d.directory? p = some (root, entry))
    (hplace : place ≠ root.parts ++ [Settings.fileName]) (given : Option Settings) :
    settingsOr given (d.rewrite place bytes) root = settingsOr given d root := by
  have hcontent : (d.rewrite place bytes).content? (root.child Settings.fileName) =
      d.content? (root.child Settings.fileName) := by
    have hsame : (fun old =>
        if root.parts ++ [Settings.fileName] = place then bytes else old) = id :=
      funext fun _ => if_neg hplace.symm
    rw [Disk.rewrite, Disk.content?_child_mapContents hdir (by decide), hsame, Option.map_id, id]
  unfold settingsOr Settings.load Settings.loadBy
  rw [hcontent]

/-- Rewriting a file leaves files with another path text as they are. -/
theorem mapContent_rewrite {f : FileAt} (hdir : d.directory? p = some (root, entry))
    (h : f.pathText root ≠ Path.toString ⟨.absolute, place⟩) :
    f.mapContent (fun names old => if names = place then bytes else old) root.parts = f := by
  obtain ⟨m, es, link, outer, -, rfl, -⟩ := Disk.find_of_directory hdir
  have hne : (Disk.fullPath (.directory m es link :: outer)).parts ++ f.parts ≠ place := by
    rintro rfl
    exact h rfl
  simp only [FileAt.mapContent, if_neg hne]

end Rewriting

/-- **An analysis is made file by file.** An analysis with workers and a term that compiles has a
result, and this is made file by file of the files that the dialects that are present read. If the
content of any file but the settings file were another, then nothing would be different but what the
result says about the path of this file. And no extractor looks beyond the end of a text or for a
group that did not take part in a match, whatever the text is. -/
theorem analysis_decomposes_by_file {d : Disk} {p root : Path} {entry : Entry} {request : Request}
    {given : Option Settings} {settings : Settings} {filter : Filter} (hd : d.WellFormed)
    (hdir : d.directory? p = some (root, entry)) (hs : settingsOr given d root = .ok settings)
    (hw : 1 ≤ settings.maxWorkers)
    (hq : Filter.compile request.query settings.highlightMarker = .ok filter) :
    ∃ a, (analyze d p request given).outcome = .ok a ∧
      a.IsFileByFile root filter (filesRead entry request settings) ∧
      (∀ place bytes, place ≠ root.parts ++ [Settings.fileName] →
        ∃ a', (analyze (d.rewrite place bytes) p request given).outcome = .ok a' ∧
          (∀ D, (a'.findings.listed D).filter (·.filePath != Path.toString ⟨.absolute, place⟩) =
            (a.findings.listed D).filter (·.filePath != Path.toString ⟨.absolute, place⟩)) ∧
          a'.failedFiles.filter (· != Path.toString ⟨.absolute, place⟩) =
            a.failedFiles.filter (· != Path.toString ⟨.absolute, place⟩)) ∧
      ∀ D source path, Dialect.extract? D source path = some (D.extract source path) := by
  obtain ⟨a, ha, hgathers⟩ := exists_analysis request hdir hs hw hq
  refine ⟨a, ha, ?_, ?_, Dialect.extract?_eq_some⟩
  · exact hgathers.isFileByFile ((hd.of_directory hdir).readsApart root request settings)
  · -- the rewritten disk has the same directory with the same settings and the same files to read
    intro place bytes hplace
    have hdir' : (d.rewrite place bytes).directory? p = _ := Disk.directory?_mapContents hdir
    have hs' := (settingsOr_rewrite bytes hdir hplace given).trans hs
    obtain ⟨a', ha', hgathers'⟩ := exists_analysis request hdir' hs' hw hq
    rw [filesRead_mapContents] at hgathers'
    refine ⟨a', ha', hgathers.agree hgathers' (fun f => f.pathText_mapContent _ _ root)
      (· != Path.toString ⟨.absolute, place⟩) ?_⟩
    intro f hf
    exact mapContent_rewrite bytes hdir (bne_iff_ne.mp hf)

/-- A file that is not text. -/
def garbledFile : FileAt :=
  { parts := ["a.js"], bytes := [0xff] }

/-- A file with one function. -/
def plainFile : FileAt :=
  { parts := ["b.js"]
    bytes := Text.encode "function f(x) \x7b \x7d" }

/-- A directory with both files. -/
def halfReadable : Entry :=
  .directory "home" [.file "a.js" garbledFile.bytes, .file "b.js" plainFile.bytes]

/-- The walk over the sample, which lists its two files in name order already. -/
theorem walk_halfReadable (skip : List String) :
    halfReadable.walk skip = [garbledFile, plainFile] := by
  rw [Entry.walk_of_isOrdered (by decide)]
  rfl

theorem wellFormed_halfReadable : Disk.WellFormed { entries := [halfReadable] } := by
  refine .directory (by decide) (by decide) ?_
  intro e he
  obtain rfl := List.mem_singleton.mp he
  refine .directory (by decide) (by decide) ?_
  intro e he
  rcases List.mem_cons.mp he with rfl | he
  · exact .file
  · obtain rfl := List.mem_singleton.mp he
    exact .file

/-- The file that is not text failed, the function of the other one is listed, and it still is with
anything else in the first file. -/
theorem analysis_decomposes_by_file_half_readable :
    ∃ a, (analyze { entries := [halfReadable] } ⟨.relative, ["home"]⟩ {} none).outcome = .ok a ∧
      "/home/a.js" ∈ a.failedFiles ∧ "/home/b.js" ∉ a.failedFiles ∧
      (a.findings.listed .javascript).filter
          (fun e => e.kind == "function" && e.filePath == "/home/b.js") =
        [.function { name := "f", filePath := "/home/b.js", parameters := ["x"] }] ∧
      ∀ bytes, ∃ a', (analyze (Disk.rewrite { entries := [halfReadable] } ["home", "a.js"] bytes)
          ⟨.relative, ["home"]⟩ {} none).outcome = .ok a' ∧
        (a'.findings.listed .javascript).filter (·.filePath != "/home/a.js") =
          (a.findings.listed .javascript).filter (·.filePath != "/home/a.js") := by
  obtain ⟨a, ha, hfiles, hothers, -⟩ := @analysis_decomposes_by_file
    { entries := [halfReadable] } ⟨.relative, ["home"]⟩ ⟨.absolute, ["home"]⟩ halfReadable {} none
    {} ⟨.everything, defaultMarker⟩ wellFormed_halfReadable rfl rfl (by decide) rfl
  -- both files are read, one of them in vain
  have hread : filesRead halfReadable {} {} .javascript = [garbledFile, plainFile] := by
    rw [filesRead, presentIn, batchFiles, walk_halfReadable, walk_halfReadable]
    decide +kernel
  have hgarbled : garbledFile ∈ filesRead halfReadable {} {} .javascript := by simp [hread]
  have hplain : plainFile ∈ filesRead halfReadable {} {} .javascript := by simp [hread]
  have hfault : Text.decodeMarked garbledFile.bytes = .error ⟨0, 0xff, 1, .invalidStart⟩ := by
    decide +kernel
  have htext : Text.decodeMarked plainFile.bytes = .ok "function f(x) \x7b \x7d".toList := by
    decide +kernel
  have hgarbledPath : garbledFile.pathText ⟨.absolute, ["home"]⟩ = "/home/a.js" := by decide +kernel
  have hplainPath : plainFile.pathText ⟨.absolute, ["home"]⟩ = "/home/b.js" := by decide +kernel
  obtain ⟨hfailed, -⟩ := hfiles.of_error .javascript garbledFile hgarbled _ hfault
  obtain ⟨hnot, hlisted, -⟩ := hfiles.of_ok .javascript plainFile hplain _ htext
  rw [hgarbledPath] at hfailed
  rw [hplainPath] at hnot hlisted
  refine ⟨a, ha, hfailed, hnot, ?_, ?_⟩
  · rw [hlisted "function" (by decide)]
    decide +kernel
  · intro bytes
    obtain ⟨a', ha', hsame, -⟩ := hothers ["home", "a.js"] bytes (by decide)
    have hplace : Path.toString ⟨.absolute, ["home", "a.js"]⟩ = "/home/a.js" := by decide +kernel
    rw [hplace] at hsame
    exact ⟨a', ha', hsame .javascript⟩

end SourceAtlas
