import SourceAtlas.Session

/-!
# Outcomes of operations

An operation reports its progress and returns a value or fails. What it reports never decides what
it returns, so statements about results are made on the outcome alone: `Run.outcome` forgets the
log. This module reads the outcome of every operation of an analysis off its definition once; the
later modules use these equations and do not open the operations again.

* `outcome_extractFiles`, `outcome_runBatch_of_ok`, `runBatch_cases` — one batch;
* `outcome_runBatches_cons`, `exists_of_runBatches_cons` — one batch after the other;
* `outcome_analyzeEntry`, `outcome_analyze_of_directory`, `outcome_analyze_of_none`,
  `exists_of_outcome_analyze` — an analysis;
* `Session.outcome_analyze_of_ok`, `Session.outcome_analyze_of_invalid`, `Session.outcome_refilter`
  — a session.
-/

namespace SourceAtlas

/-- A failure shows in what is made of a result. -/
theorem eq_error_of_map_eq_error {ε α β : Type} {x : Except ε α} {f : α → β} {failure : ε}
    (h : x.map f = .error failure) : x = .error failure := by
  cases x with
  | error failure' => exact congrArg Except.error (Except.error.inj h)
  | ok a => cases h

/-- **The outcome of an operation:** its value or its failure, without the log. -/
def Run.outcome {α : Type} (x : Run α) : Except Failure α :=
  x.run.value

namespace Run

variable {α β : Type}

@[simp] theorem outcome_pure (a : α) : (pure a : Run α).outcome = .ok a := rfl

@[simp] theorem outcome_throw (f : Failure) : (throw f : Run α).outcome = .error f := rfl

/-- What was logged on the way is no part of the outcome. -/
@[simp] theorem outcome_lift (x : Logged α) : (liftM x : Run α).outcome = .ok x.value := rfl

@[simp] theorem outcome_liftExcept (x : Except Failure α) : (liftM x : Run α).outcome = x := rfl

/-- The outcome of one operation and then another. -/
theorem outcome_bind (x : Run α) (f : α → Run β) :
    (x >>= f).outcome = x.outcome.bind fun a => (f a).outcome := by
  change (ExceptT.bindCont f x.run.value).value = x.run.value.bind fun a => (f a).outcome
  cases x.run.value with
  | ok a => rfl
  | error e => rfl

/-- The outcome of an operation after one that succeeds. -/
theorem outcome_bind_of_ok {x : Run α} {a : α} (h : x.outcome = .ok a) (f : α → Run β) :
    (x >>= f).outcome = (f a).outcome := by
  rw [outcome_bind, h]
  rfl

/-- The outcome of an operation after one that fails. -/
theorem outcome_bind_of_error {x : Run α} {e : Failure} (h : x.outcome = .error e)
    (f : α → Run β) : (x >>= f).outcome = .error e := by
  rw [outcome_bind, h]
  rfl

/-- The outcome of an operation after a report. -/
@[simp] theorem outcome_lift_bind (x : Logged α) (f : α → Run β) :
    ((liftM x : Run α) >>= f).outcome = (f x.value).outcome :=
  outcome_bind_of_ok (outcome_lift x) f

/-- What succeeds in two steps has succeeded in the first. -/
theorem exists_of_bind_ok {x : Except Failure α} {f : α → Except Failure β} {b : β}
    (h : x.bind f = .ok b) : ∃ a, x = .ok a ∧ f a = .ok b := by
  cases x with
  | error e => cases h
  | ok a => exact ⟨a, rfl, h⟩

/-- A mapped outcome that succeeded came from one that did. -/
theorem exists_of_map_ok {x : Except Failure α} {f : α → β} {b : β} (h : x.map f = .ok b) :
    ∃ a, x = .ok a ∧ f a = b := by
  cases x with
  | error e => cases h
  | ok a => exact ⟨a, rfl, Except.ok.inj h⟩

end Run

open Run

/-! ### Batches -/

/-- The files that the batch of a dialect reads. -/
def batchFiles (entry : Entry) (request : Request) (settings : Settings) (d : Dialect) :
    List FileAt :=
  Inventory.sources (entry.walk settings.skipDirectories) d.extensions request.exclude

/-- The entities of some files, merged, and the paths of those that failed. -/
def extracted (d : Dialect) (root : Path) (files : List FileAt) : List Entity × List String :=
  let readings := files.map (Reading.ofFile d root)
  (aggregate (readings.filterMap Reading.entities?),
    (readings.filter Reading.isFailed).map Reading.path)

/-- **Extraction from files succeeds with what they hold,** unless there are files and nobody to
work on them. -/
theorem outcome_extractFiles (d : Dialect) (root : Path) (files : List FileAt)
    {maxWorkers : Int} (h : files = [] ∨ 1 ≤ maxWorkers) :
    (extractFiles d root files maxWorkers).outcome = .ok (extracted d root files) := by
  unfold extractFiles
  by_cases hf : files.isEmpty
  · -- without files no worker is needed, and merging nothing gives nothing
    obtain rfl : files = [] := List.isEmpty_iff.1 hf
    rw [if_pos hf]
    simp [extracted, aggregate, deduplicate, deduplicate.keepNew]
  · have hw : ¬ maxWorkers < 1 := by
      rcases h with rfl | h
      · exact absurd rfl hf
      · omega
    rw [if_neg hf, if_neg hw]
    rfl

/-- Where reading succeeds, it gives the entities. -/
theorem eq_extracted_of_ok {d : Dialect} {root : Path} {files : List FileAt} {maxWorkers : Int}
    {r : List Entity × List String} (h : (extractFiles d root files maxWorkers).outcome = .ok r) :
    r = extracted d root files := by
  by_cases hw : files = [] ∨ 1 ≤ maxWorkers
  · rw [outcome_extractFiles d root files hw] at h
    exact (Except.ok.inj h).symm
  · -- files without workers are not read
    obtain ⟨hfiles, hworkers⟩ := not_or.mp hw
    unfold extractFiles at h
    rw [if_neg fun hempty => hfiles (List.isEmpty_iff.mp hempty), if_pos (by omega)] at h
    cases h

section Batches

variable {entry : Entry} {root : Path} {request : Request} {settings : Settings}
  {findings : Findings} {d : Dialect}

/-- A batch whose pattern compiles reports on what is in its files. -/
theorem outcome_runBatch_of_ok {filter : Filter}
    (h : Filter.compile request.query settings.highlightMarker = .ok filter) :
    (runBatch entry root request settings findings d).outcome =
      (extractFiles d root (batchFiles entry request settings d) settings.maxWorkers).outcome.map
        fun r => ((findings.report d r.1 filter).value, r.2) := by
  unfold runBatch
  rw [h]
  simp only [outcome_lift_bind]
  change (extractFiles d root (batchFiles entry request settings d)
    settings.maxWorkers >>= _).outcome = _
  rw [outcome_bind]
  cases (extractFiles d root (batchFiles entry request settings d) settings.maxWorkers).outcome with
  | ok r => simp [Except.bind, Except.map]
  | error e => rfl

/-- A batch whose pattern is not one reports just that. -/
theorem outcome_runBatch_of_invalid {term : String} {fault : Regex.Fault}
    (h : Filter.compile request.query settings.highlightMarker =
      .error (.invalidPattern term fault)) :
    (runBatch entry root request settings findings d).outcome = .ok (findings.refuse d, []) := by
  unfold runBatch
  rw [h]
  rfl

/-- **A batch that succeeds** has reported on what is in its files, or that the pattern is not
one. -/
theorem runBatch_cases {findings' : Findings} {failed : List String}
    (h : (runBatch entry root request settings findings d).outcome = .ok (findings', failed)) :
    (∃ filter, Filter.compile request.query settings.highlightMarker = .ok filter ∧
      findings' = (findings.report d
        (extracted d root (batchFiles entry request settings d)).1 filter).value ∧
      failed = (extracted d root (batchFiles entry request settings d)).2) ∨
    ((∃ term fault, Filter.compile request.query settings.highlightMarker =
      .error (.invalidPattern term fault)) ∧ findings' = findings.refuse d ∧ failed = []) := by
  cases hf : Filter.compile request.query settings.highlightMarker with
  | ok filter =>
    rw [outcome_runBatch_of_ok hf] at h
    obtain ⟨r, hr, heq⟩ := exists_of_map_ok h
    obtain rfl := eq_extracted_of_ok hr
    obtain ⟨rfl, rfl⟩ := Prod.mk.inj heq
    exact .inl ⟨filter, rfl, rfl, rfl⟩
  | error f =>
    cases f with
    | invalidPattern term fault =>
      rw [outcome_runBatch_of_invalid hf] at h
      obtain ⟨rfl, rfl⟩ := Prod.mk.inj (Except.ok.inj h)
      exact .inr ⟨⟨term, fault, rfl⟩, rfl, rfl⟩
    -- every other failure ends the batch
    | _ =>
      unfold runBatch at h
      rw [hf] at h
      cases h

/-- Batches run one after the other, each on the findings of those before. -/
theorem outcome_runBatches_cons (ds : List Dialect) :
    (runBatches entry root request settings findings (d :: ds)).outcome =
      (runBatch entry root request settings findings d).outcome.bind fun r =>
        (runBatches entry root request settings r.1 ds).outcome.map fun rs =>
          (rs.1, r.2 ++ rs.2) := by
  rw [runBatches, outcome_bind]
  congr 1
  funext r
  rw [outcome_bind]
  rfl

/-- Where batches succeed, the first one has, and then the others on its findings. -/
theorem exists_of_runBatches_cons {ds : List Dialect} {findings' : Findings} {failed : List String}
    (h : (runBatches entry root request settings findings (d :: ds)).outcome =
      .ok (findings', failed)) :
    ∃ r rs, (runBatch entry root request settings findings d).outcome = .ok r ∧
      (runBatches entry root request settings r.1 ds).outcome = .ok (findings', rs) ∧
      failed = r.2 ++ rs := by
  rw [outcome_runBatches_cons] at h
  obtain ⟨r, hr, hrest⟩ := exists_of_bind_ok h
  obtain ⟨⟨_, rs⟩, hrs, heq⟩ := exists_of_map_ok hrest
  obtain ⟨rfl, rfl⟩ := Prod.mk.inj heq
  exact ⟨r, rs, hr, hrs, rfl⟩

end Batches

/-! ### Analyses -/

/-- The dialects that are looked at below an entry. -/
def presentIn (entry : Entry) (request : Request) : List Dialect :=
  Dialect.all.filter
    (·.isPresent (Inventory.histogram (entry.walk []) request.extensions request.exclude))

/-- The outcome of an analysis of a directory is that of its batches, with the counts of its
files. -/
theorem outcome_analyzeEntry (d : Disk) (root : Path) (entry : Entry) (request : Request)
    (settings : Settings) :
    (analyzeEntry d root entry request settings).outcome =
      (runBatches entry root request settings {} (presentIn entry request)).outcome.map fun r =>
        { fileTypes := Inventory.histogram (entry.walk []) request.extensions request.exclude
          outline := (d.outline root settings.skipDirectories).value
          findings := r.1
          failedFiles := sortedDistinct r.2 } := by
  unfold analyzeEntry
  simp only [outcome_lift_bind]
  rw [outcome_bind]
  rfl

/-- The outcome of an analysis of a path that leads to a directory. -/
theorem outcome_analyze_of_directory {d : Disk} {p root : Path} {entry : Entry}
    (h : d.directory? p = some (root, entry)) (request : Request) (given : Option Settings) :
    (analyze d p request given).outcome =
      (settingsOr given d root).bind fun settings =>
        (analyzeEntry d root entry request settings).outcome := by
  unfold analyze
  rw [h]
  exact outcome_bind _ _

/-- A path that leads to no directory is reported. -/
theorem outcome_analyze_of_none {d : Disk} {p : Path} (h : d.directory? p = none)
    (request : Request) (given : Option Settings) :
    (analyze d p request given).outcome = .error (.projectNotFound p.toString) := by
  unfold analyze
  rw [h]
  rfl

/-- **An analysis that succeeds** is one of a directory, under settings, and made of batches that
succeed. -/
theorem exists_of_outcome_analyze {d : Disk} {p : Path} {request : Request}
    {given : Option Settings} {a : Analysis} (h : (analyze d p request given).outcome = .ok a) :
    ∃ root entry settings failed, d.directory? p = some (root, entry) ∧
      settingsOr given d root = .ok settings ∧
      (runBatches entry root request settings {} (presentIn entry request)).outcome =
        .ok (a.findings, failed) ∧
      a.fileTypes = Inventory.histogram (entry.walk []) request.extensions request.exclude ∧
      a.failedFiles = sortedDistinct failed := by
  cases hp : d.directory? p with
  | none =>
    rw [outcome_analyze_of_none hp] at h
    cases h
  | some place =>
    obtain ⟨root, entry⟩ := place
    rw [outcome_analyze_of_directory hp] at h
    -- the settings were loaded and the batches ran
    obtain ⟨settings, hs, hentry⟩ := exists_of_bind_ok h
    rw [outcome_analyzeEntry] at hentry
    obtain ⟨⟨findings, failed⟩, hbatches, rfl⟩ := exists_of_map_ok hentry
    exact ⟨root, entry, settings, failed, rfl, hs, hbatches, rfl, rfl⟩

/-- The analysis of a directory in which only one dialect is present. -/
theorem outcome_analyze_of_single {d : Disk} {p root : Path} {entry : Entry} {request : Request}
    {settings : Settings} {filter : Filter} {D : Dialect}
    (hp : d.directory? p = some (root, entry)) (hpresent : presentIn entry request = [D])
    (hworkers : 1 ≤ settings.maxWorkers)
    (hf : Filter.compile request.query settings.highlightMarker = .ok filter) :
    (analyze d p request (some settings)).outcome =
      .ok
        { fileTypes := Inventory.histogram (entry.walk []) request.extensions request.exclude
          outline := (d.outline root settings.skipDirectories).value
          findings := (Findings.report {} D
            (extracted D root (batchFiles entry request settings D)).1 filter).value
          failedFiles :=
            sortedDistinct (extracted D root (batchFiles entry request settings D)).2 } := by
  rw [outcome_analyze_of_directory hp]
  change (analyzeEntry d root entry request settings).outcome = _
  rw [outcome_analyzeEntry, hpresent, outcome_runBatches_cons, outcome_runBatch_of_ok hf,
    outcome_extractFiles D root _ (.inr hworkers)]
  simp only [Except.map, Except.bind, runBatches, outcome_pure, List.append_nil]

/-! ### Sessions -/

namespace Session

variable {s : Session} {d : Disk} {p : Path} {request : Request} {given : Option Settings}

/-- Settings that fail to load end an analysis in a session. -/
theorem outcome_analyze_of_settings_error {e : Failure} (h : settingsOr given d p = .error e) :
    (s.analyze d p request given).outcome = .error e := by
  refine outcome_bind_of_error ?_ _
  rw [outcome_liftExcept, prepare, h]
  rfl

/-- With a query that compiles, a session analyses without a filter, remembers that, and filters. -/
theorem outcome_analyze_of_ok {settings : Settings} {filter : Filter}
    (hs : settingsOr given d p = .ok settings)
    (hf : Filter.compile request.query settings.highlightMarker = .ok filter) :
    (s.analyze d p request given).outcome =
      (SourceAtlas.analyze d p { request with query := {} } (some settings)).outcome.map
        fun result => ((result.refilter filter).value,
          { last := some
              { root := p
                query := request.query
                result
                marker := settings.highlightMarker } }) := by
  -- the filter is compiled before anything is read
  have hp : prepare d p request given = .ok (settings, .ok filter) := by
    rw [prepare, hs]
    simp only [bind, Except.bind, hf]
    rfl
  unfold Session.analyze
  rw [outcome_bind_of_ok (a := (settings, .ok filter)) (by rw [outcome_liftExcept, hp])]
  rw [outcome_bind]
  cases (SourceAtlas.analyze d p { request with query := {} } (some settings)).outcome with
  | ok result => rfl
  | error e => rfl

/-- With a pattern that is not one, a session analyses as asked and remembers nothing new. -/
theorem outcome_analyze_of_invalid {settings : Settings} {term : String} {fault : Regex.Fault}
    (hs : settingsOr given d p = .ok settings)
    (hf : Filter.compile request.query settings.highlightMarker =
      .error (.invalidPattern term fault)) :
    (s.analyze d p request given).outcome =
      (SourceAtlas.analyze d p request (some settings)).outcome.map fun a => (a, s) := by
  have hp : prepare d p request given =
      .ok (settings, .error (.invalidPattern term fault)) := by
    rw [prepare, hs]
    simp only [bind, Except.bind, hf]
    rfl
  unfold Session.analyze
  rw [outcome_bind_of_ok (by rw [outcome_liftExcept, hp])]
  exact outcome_bind _ _

/-- A session narrows what it remembers. -/
theorem outcome_refilter {r : Remembered} {q : Query} {filter : Filter} (hr : s.last = some r)
    (hf : Filter.compile q r.marker = .ok filter) :
    (s.refilter q).outcome = .ok (r.result.refilter filter).value := by
  have hreq : s.require = .ok r := by rw [require, hr]
  unfold Session.refilter
  rw [outcome_bind_of_ok (by rw [outcome_liftExcept, hreq]),
    outcome_bind_of_ok (by rw [outcome_liftExcept, hf])]
  rfl

/-- **A session that narrows** what it remembers has something to narrow. -/
theorem exists_of_outcome_refilter {q : Query} {a : Analysis}
    (h : (s.refilter q).outcome = .ok a) :
    ∃ r filter, s.last = some r ∧ Filter.compile q r.marker = .ok filter ∧
      a = (r.result.refilter filter).value := by
  unfold Session.refilter at h
  rw [outcome_bind] at h
  obtain ⟨r, hr, hrest⟩ := exists_of_bind_ok h
  rw [outcome_bind] at hrest
  obtain ⟨filter, hf, hresult⟩ := exists_of_bind_ok hrest
  rw [outcome_liftExcept] at hr hf
  refine ⟨r, filter, ?_, hf, (Except.ok.inj hresult).symm⟩
  cases hlast : s.last with
  | none =>
    rw [require, hlast] at hr
    cases hr
  | some r' =>
    rw [require, hlast] at hr
    rw [Except.ok.inj hr]

end Session

end SourceAtlas
