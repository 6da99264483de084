import SourceAtlas.Proofs.Isolation
import SourceAtlas.Proofs.Refiltering
import SourceAtlas.Proofs.Regex.Faults

/-!
# Bad search patterns

A search term that should be a pattern and is none is to be reported as such, and is not to end an
analysis. Batches take just one kind of failure for a bad pattern, and hand on any other. So the
question is which failures the terms of queries can have. Reading a term may stop for four reasons
that are kept apart from mistakes of notation, and a term has them only if it writes a count beyond
a limit, sets the flags of two alphabets, or opens many groups (`Filter.Escapes`). They end an
analysis in which some dialect is present.

* `Filter.compile_cases` — what becomes of a term;
* `outcome_runBatches_of_invalid` — batches that cannot search refuse one after the other;
* `outcome_analyze_of_invalid`, `outcome_analyze_of_failure` — an analysis, where the pattern is
  none and where it fails otherwise;
* `pattern_faults_are_reported` — what happens to the term of every query;
* `count_too_large_escapes` — a term with a large count is not reported as a bad pattern.
-/

namespace SourceAtlas

open Regex.Reader (WritesHugeCount WritesLongCount SetsFlag OpensManyGroups)

/-! ### Terms of queries -/

/-- **The filter of a query whose term is a pattern:** it has the marker, and it looks for the
pattern that the term spells, or for nothing if there is no term. -/
def Filter.IsFor (q : Query) (marker : String) (f : Filter) : Prop :=
  f.marker = marker ∧
    ((q.term = "" ∧ f.criterion = .everything) ∨
      (q.term ≠ "" ∧ ∃ r, Regex.parse (!q.caseSensitive) q.term.toList = .ok r ∧
        f.criterion = .pattern r))

/-- **The failures of a term that are no report of a bad pattern,** each with what the term has
then. -/
inductive Filter.Escapes (term : List Char) : Failure → Prop
  /-- A number of repetitions that is too large. -/
  | repetition (h : WritesHugeCount term) : Escapes term .repetitionTooLarge
  /-- A number of repetitions with too many digits to be read, however large it is. -/
  | digits {length : Nat} (h : WritesLongCount term length) :
    Escapes term (.settings (.tooManyDigits length))
  /-- Flags for two alphabets. -/
  | flags (hascii : SetsFlag term 'a') (hunicode : SetsFlag term 'u') :
    Escapes term .contradictoryFlags
  /-- Groups in groups, beyond the levels there are. -/
  | depth (h : OpensManyGroups term) : Escapes term (.settings .tooDeep)

/-- A failure that escapes is not the one that batches wait for. -/
theorem Filter.Escapes.ne_invalidPattern {term : List Char} {failure : Failure}
    (h : Filter.Escapes term failure) (term' : String) (fault : Regex.Fault) :
    failure ≠ .invalidPattern term' fault := by
  cases h with
  | repetition _ => exact Failure.noConfusion
  | digits _ => exact Failure.noConfusion
  | flags _ _ => exact Failure.noConfusion
  | depth _ => exact Failure.noConfusion

/-- **What becomes of a term that should be a pattern.** -/
theorem Filter.compile_cases {q : Query} (hregex : q.useRegex = true) (marker : String) :
    (∃ f, Filter.compile q marker = .ok f ∧ f.IsFor q marker) ∨
    (∃ fault, Filter.compile q marker = .error (.invalidPattern q.term fault) ∧
      Regex.parse (!q.caseSensitive) q.term.toList = .error fault) ∨
    ∃ failure, Filter.compile q marker = .error failure ∧ Filter.Escapes q.term.toList failure := by
  unfold Filter.compile Filter.ofQuery
  by_cases hterm : q.term = ""
  · rw [if_pos hterm]
    exact .inl ⟨_, rfl, rfl, .inl ⟨hterm, rfl⟩⟩
  rw [if_neg hterm, if_pos hregex]
  cases hparse : Regex.parse (!q.caseSensitive) q.term.toList with
  | ok r => exact .inl ⟨_, rfl, rfl, .inr ⟨hterm, r, hparse, rfl⟩⟩
  | error fault =>
    -- only the faults that are no mistakes of notation need an excuse
    have hexcused := Regex.excused_of_parse hparse
    cases fault with
    | countTooLarge => exact .inr (.inr ⟨_, rfl, .repetition hexcused⟩)
    | countTooLong length => exact .inr (.inr ⟨_, rfl, .digits hexcused⟩)
    | flagsContradict => exact .inr (.inr ⟨_, rfl, .flags hexcused.1 hexcused.2⟩)
    | tooDeep => exact .inr (.inr ⟨_, rfl, .depth hexcused⟩)
    | _ => exact .inr (.inl ⟨_, rfl, rfl⟩)

/-! ### Batches -/

/-- The findings where all dialects that are present refuse, and the others are not looked at. -/
def Findings.refusedIn (fileTypes : List (String × Nat)) : Findings where
  csharp := if Dialect.csharp.isPresent fileTypes then { status := .invalidPattern } else {}
  javascript := if Dialect.javascript.isPresent fileTypes then { status := .invalidPattern } else {}
  react := if Dialect.react.isPresent fileTypes then { status := .invalidPattern } else {}
  vue := if Dialect.vue.isPresent fileTypes then { status := .invalidPattern } else {}

theorem foldl_refuse (fileTypes : List (String × Nat)) :
    (Dialect.all.filter (·.isPresent fileTypes)).foldl Findings.refuse {} =
      .refusedIn fileTypes := by
  simp only [Dialect.all, List.filter_cons, List.filter_nil, Findings.refusedIn]
  cases Dialect.csharp.isPresent fileTypes <;> cases Dialect.javascript.isPresent fileTypes <;>
    cases Dialect.react.isPresent fileTypes <;> cases Dialect.vue.isPresent fileTypes <;> rfl

section Batches

variable {entry : Entry} {root : Path} {request : Request} {settings : Settings}

/-- **Batches that cannot search refuse** one after the other, and no file fails. -/
theorem outcome_runBatches_of_invalid {term : String} {fault : Regex.Fault}
    (h : Filter.compile request.query settings.highlightMarker =
      .error (.invalidPattern term fault))
    (ds : List Dialect) (findings : Findings) :
    (runBatches entry root request settings findings ds).outcome =
      .ok (ds.foldl Findings.refuse findings, []) := by
  induction ds generalizing findings with
  | nil => rfl
  | cons d ds ih =>
    rw [outcome_runBatches_cons, outcome_runBatch_of_invalid h]
    change (runBatches entry root request settings (findings.refuse d) ds).outcome.map _ = _
    rw [ih]
    rfl

/-- A batch hands on any other failure of the term. -/
theorem outcome_runBatch_of_failure {failure : Failure} {findings : Findings} {d : Dialect}
    (h : Filter.compile request.query settings.highlightMarker = .error failure)
    (hother : ∀ term fault, failure ≠ .invalidPattern term fault) :
    (runBatch entry root request settings findings d).outcome = .error failure := by
  unfold runBatch
  rw [h]
  cases failure with
  | invalidPattern term fault => exact absurd rfl (hother term fault)
  | _ => rfl

variable {d : Disk} {p : Path} {given : Option Settings}

/-- **An analysis with a bad pattern is complete.** -/
theorem outcome_analyze_of_invalid {term : String} {fault : Regex.Fault}
    (hdir : d.directory? p = some (root, entry)) (hs : settingsOr given d root = .ok settings)
    (h : Filter.compile request.query settings.highlightMarker =
      .error (.invalidPattern term fault)) :
    (analyze d p request given).outcome = .ok
      { fileTypes := Inventory.histogram (entry.walk []) request.extensions request.exclude
        outline := (d.outline root settings.skipDirectories).value
        findings := .refusedIn
          (Inventory.histogram (entry.walk []) request.extensions request.exclude) } := by
  rw [outcome_analyze_of_directory hdir, hs]
  change (analyzeEntry d root entry request settings).outcome = _
  have hnone : sortedDistinct [] = [] := List.mergeSort_nil
  rw [outcome_analyzeEntry, outcome_runBatches_of_invalid h, presentIn, foldl_refuse, Except.map,
    hnone]

/-- **An analysis ends with any other failure of the term,** where a dialect is present. -/
theorem outcome_analyze_of_failure {failure : Failure}
    (hdir : d.directory? p = some (root, entry)) (hs : settingsOr given d root = .ok settings)
    (h : Filter.compile request.query settings.highlightMarker = .error failure)
    (hother : ∀ term fault, failure ≠ .invalidPattern term fault)
    (hpresent : presentIn entry request ≠ []) :
    (analyze d p request given).outcome = .error failure := by
  -- the first batch fails, and the others do not run
  obtain ⟨D, ds, hcons⟩ := List.exists_cons_of_ne_nil hpresent
  rw [outcome_analyze_of_directory hdir, hs]
  change (analyzeEntry d root entry request settings).outcome = _
  rw [outcome_analyzeEntry, hcons, outcome_runBatches_cons, outcome_runBatch_of_failure h hother]
  rfl

/-- The analysis without a query, under settings that have workers. -/
theorem exists_plain_analysis (request : Request) (hdir : d.directory? p = some (root, entry))
    (hs : settingsOr given d root = .ok settings) (hw : 1 ≤ settings.maxWorkers) :
    ∃ plain, (analyze d p { request with query := {} } given).outcome = .ok plain ∧
      plain.fileTypes = Inventory.histogram (entry.walk []) request.extensions request.exclude ∧
      plain.outline = (d.outline root settings.skipDirectories).value := by
  rw [outcome_analyze_of_directory hdir, hs]
  change ∃ plain, (analyzeEntry d root entry { request with query := {} } settings).outcome = _ ∧ _
  rw [outcome_analyzeEntry, outcome_runBatches_of_ok _ entry hw (Filter.compile_empty _)]
  exact ⟨_, rfl, rfl, rfl⟩

end Batches

/-! ### Queries -/

/-- **Bad patterns are reported, but for four escapes.** The term of a query that should be a
pattern gives a filter with the marker that looks for this pattern, or is reported as a bad pattern
with the fault it has, or fails in one of four other ways. These are open only to a term that writes
a count beyond the limit or with more digits than are read, that sets the flags of two alphabets, or
that opens more than a hundred groups.

In every directory and under all settings with workers, a bad pattern gives a complete analysis with
the file types and the outline that the analysis without a query has. No file fails, all dialects
that are present refuse with nothing listed, and the others are not looked at. The other failures
end the analysis as soon as there is a dialect to look at. -/
theorem pattern_faults_are_reported (q : Query) (hregex : q.useRegex = true) :
    (∀ marker,
      (∃ f, Filter.compile q marker = .ok f ∧ f.IsFor q marker) ∨
      (∃ fault, Filter.compile q marker = .error (.invalidPattern q.term fault) ∧
        Regex.parse (!q.caseSensitive) q.term.toList = .error fault) ∨
      ∃ failure, Filter.compile q marker = .error failure ∧
        Filter.Escapes q.term.toList failure) ∧
    ∀ (d : Disk) (p root : Path) (entry : Entry) (request : Request) (given : Option Settings)
      (settings : Settings), request.query = q → d.directory? p = some (root, entry) →
      settingsOr given d root = .ok settings → 1 ≤ settings.maxWorkers →
      (∀ fault, Filter.compile q settings.highlightMarker = .error (.invalidPattern q.term fault) →
        ∃ a plain, (analyze d p request given).outcome = .ok a ∧
          (analyze d p { request with query := {} } given).outcome = .ok plain ∧
          a.fileTypes = plain.fileTypes ∧ a.outline = plain.outline ∧ a.failedFiles = [] ∧
          a.findings = .refusedIn a.fileTypes) ∧
      ∀ failure, Filter.Escapes q.term.toList failure →
        Filter.compile q settings.highlightMarker = .error failure → presentIn entry request ≠ [] →
        (analyze d p request given).outcome = .error failure := by
  refine ⟨Filter.compile_cases hregex, ?_⟩
  rintro d p root entry request given settings rfl hdir hs hw
  refine ⟨fun fault hfault => ?_, fun failure hescapes hfailure hpresent => ?_⟩
  · -- a reported fault refuses each dialect in turn, and the rest of the analysis is not touched
    obtain ⟨plain, hplain, htypes, houtline⟩ := exists_plain_analysis request hdir hs hw
    exact ⟨_, plain, outcome_analyze_of_invalid hdir hs hfault, hplain, htypes.symm, houtline.symm,
      rfl, rfl⟩
  · exact outcome_analyze_of_failure hdir hs hfailure hescapes.ne_invalidPattern hpresent

/-- Flags for one alphabet and a count whose bounds are reversed, over a directory with a file that
is not text. -/
theorem pattern_faults_are_reported_half_readable :
    let query : Query := { term := "(?a)x\x7b3,2\x7d", useRegex := true }
    Filter.compile query defaultMarker =
        .error (.invalidPattern "(?a)x\x7b3,2\x7d" (.at .boundsReversed 6)) ∧
      ∃ a plain,
        (analyze { entries := [halfReadable] } ⟨.relative, ["home"]⟩ { query } none).outcome =
          .ok a ∧
        (analyze { entries := [halfReadable] } ⟨.relative, ["home"]⟩ {} none).outcome = .ok plain ∧
        a.fileTypes = plain.fileTypes ∧ a.outline = plain.outline ∧ a.failedFiles = [] ∧
        a.findings = .refusedIn a.fileTypes := by
  intro query
  have hfault : Filter.compile query defaultMarker =
      .error (.invalidPattern "(?a)x\x7b3,2\x7d" (.at .boundsReversed 6)) :=
    eq_error_of_map_eq_error (f := fun _ => ()) (by decide +kernel)
  exact ⟨hfault, ((pattern_faults_are_reported query rfl).2 { entries := [halfReadable] }
    ⟨.relative, ["home"]⟩ ⟨.absolute, ["home"]⟩ halfReadable { query } none {} rfl rfl rfl
    (by decide)).1 _ hfault⟩

/-- **A count that is too large escapes:** the term is not reported as a bad pattern, there is no
filter either, and an analysis with it ends without a result. -/
theorem count_too_large_escapes :
    (¬∀ (q : Query) (marker : String), q.useRegex = true →
      (∃ f, Filter.compile q marker = .ok f) ∨
        ∃ term fault, Filter.compile q marker = .error (.invalidPattern term fault)) ∧
    (analyze { entries := [halfReadable] } ⟨.relative, ["home"]⟩
      { query := { term := "x\x7b4294967295\x7d", useRegex := true } } none).outcome =
        .error .repetitionTooLarge := by
  -- the smallest count that cannot be counted
  have hcompile : Filter.compile { term := "x\x7b4294967295\x7d", useRegex := true } defaultMarker =
      .error .repetitionTooLarge :=
    eq_error_of_map_eq_error (f := fun _ => ()) (by decide +kernel)
  have hpresent : presentIn halfReadable {} = [.javascript] := by
    rw [presentIn, walk_halfReadable]
    decide +kernel
  refine ⟨fun h => ?_, ?_⟩
  · rcases h { term := "x\x7b4294967295\x7d", useRegex := true } defaultMarker rfl with
      ⟨f, hf⟩ | ⟨term, fault, hf⟩
    · rw [hcompile] at hf
      cases hf
    · rw [hcompile] at hf
      cases hf
  · have hdir : Disk.directory? { entries := [halfReadable] } ⟨.relative, ["home"]⟩ =
        some (⟨.absolute, ["home"]⟩, halfReadable) := rfl
    have hsettings : settingsOr none { entries := [halfReadable] } ⟨.absolute, ["home"]⟩ =
      .ok {} := rfl
    refine outcome_analyze_of_failure hdir hsettings hcompile (fun _ _ => Failure.noConfusion) ?_
    rw [← presentIn_query _ _ {}, hpresent]
    exact List.cons_ne_nil _ _

end SourceAtlas
