import SourceAtlas.Proofs.Disk.FullPath
import SourceAtlas.Proofs.Order
import SourceAtlas.Proofs.Outcome

/-!
# Narrowing an analysis is analysing again

A session analyses without any filter, keeps the result, and answers every query by filtering what
it keeps. An analysis that is asked a query filters the entities of each dialect as they come from
the files. The two ways build a report from different material: the second has the entities,
declared namespaces among them, the first has only what an unfiltered report lists. They agree since
the unfiltered report of some entities lists enough of them: all functions, classes and components,
and every namespace that is declared or used.

* `refilter_report` — filtering the findings after a dialect was reported unfiltered is reporting it
  under the filter; one case for each dialect;
* `outcome_runBatches_refilter` — so for all batches, by induction on the dialects;
* `outcome_analyze_refilter` — so for the analysis of a directory;
* `session_agrees_with_analysis` — so for a session and all its later queries.
-/

namespace SourceAtlas

/-! ### Filters that look for nothing -/

@[simp] theorem Filter.isActive_all (marker : String) : (Filter.all marker).isActive = false := rfl

/-- A filter that looks for nothing keeps everything. -/
theorem Filter.keep_of_not_isActive {α : Type} {g : Filter} (hg : g.isActive = false)
    (searchable : α → List String) (items : List α) : (g.keep searchable items).1 = items := by
  cases items with
  | nil => rfl
  | cons a as => simp [keep, hg]

/-! ### Reports of what a report lists -/

section Reports

variable {g : Filter} (hg : g.isActive = false) (f : Filter)

include hg

/-- The unfiltered report on classes and namespaces lists all of both, so another report can be
built from it. A namespace that is declared and one that only a class names are then the same. -/
theorem CSharpReport.build_of_listed (classes : List ClassEntity) (declared : List String) :
    (build (build classes declared g).value.classes
      ((build classes declared g).value.namespaces.map (·.1)) f).value =
      (build classes declared f).value := by
  have hclasses : (build classes declared g).value.classes = classes :=
    Filter.keep_of_not_isActive hg _ _
  have hspaces : (build classes declared g).value.namespaces.map (·.1) =
      sortedDistinct (declared ++ classes.map ClassEntity.namespaceName) := by
    simp [build, listed, hg, Function.comp_def]
  -- the index already holds the namespaces of the classes, so adding them again changes nothing
  have hagain : sortedDistinct (sortedDistinct
        (declared ++ classes.map ClassEntity.namespaceName) ++
          classes.map ClassEntity.namespaceName) =
      sortedDistinct (declared ++ classes.map ClassEntity.namespaceName) := by
    refine sortedDistinct_eq_of_mem_iff fun x => ?_
    simp only [List.mem_append, mem_sortedDistinct]
    tauto
  rw [hclasses, hspaces]
  simp only [build, hagain]

/-- Without a search term everything is listed, so filtering the list is filtering the project. -/
theorem JavaScriptReport.build_of_listed (functions : List FunctionEntity)
    (classes : List ClassEntity) :
    (build (build functions classes g).value.functions (build functions classes g).value.classes
      f).value = (build functions classes f).value := by
  -- functions and classes are filtered as one list, and taken apart by their kinds again
  have hkept := Filter.keep_of_not_isActive hg Entity.searchable
    (functions.map Entity.function ++ classes.map Entity.cls)
  have hfunctions : (build functions classes g).value.functions = functions := by
    simp [build, hkept, Entity.functions]
  have hclasses : (build functions classes g).value.classes = classes := by
    simp [build, hkept, Entity.classes]
  rw [hfunctions, hclasses]

theorem ComponentReport.build_of_listed (dialect : String) (components : List ComponentEntity) :
    (build dialect (build dialect components g).value.components f).value =
      (build dialect components f).value := by
  have hkept : (build dialect components g).value.components = components :=
    Filter.keep_of_not_isActive hg _ _
  rw [hkept]

end Reports

/-! ### Findings, dialect by dialect -/

/-- What was not looked at stays so. -/
theorem refilter_empty (f : Filter) : (Findings.refilter {} f).value = {} := by
  have hspaces : sortedDistinct ([] : List String) = [] := by simp [sortedDistinct, distinct]
  simp [Findings.refilter, CSharpReport.build, CSharpReport.statusOf, CSharpReport.listed,
    JavaScriptReport.build, ComponentReport.build, Filter.keep, hspaces, Entity.functions,
    Entity.classes]

/-- **Filtering after an unfiltered report** of a dialect is reporting it under the filter. -/
theorem refilter_report {g : Filter} (hg : g.isActive = false) (f : Filter) (r : Findings)
    (d : Dialect) (entities : List Entity) :
    ((r.report d entities g).value.refilter f).value =
      ((r.refilter f).value.report d entities f).value := by
  cases d with
  | csharp =>
    simp only [Findings.report, Findings.refilter, Logged.value_bind, Logged.value_pure,
      CSharpReport.build_of_listed hg f]
  | javascript =>
    simp only [Findings.report, Findings.refilter, Logged.value_bind, Logged.value_pure,
      JavaScriptReport.build_of_listed hg f]
  | react =>
    simp only [Findings.report, Findings.refilter, Logged.value_bind, Logged.value_pure,
      ComponentReport.build_of_listed hg f]
  | vue =>
    simp only [Findings.report, Findings.refilter, Logged.value_bind, Logged.value_pure,
      ComponentReport.build_of_listed hg f]

/-! ### Batches and analyses -/

section Batches

variable {request : Request} {settings : Settings} {f : Filter}
  (hf : Filter.compile request.query settings.highlightMarker = .ok f)

/-- A batch reads the same files, whatever the query is. -/
theorem batchFiles_query (entry : Entry) (request : Request) (settings : Settings) (d : Dialect)
    (q : Query) : batchFiles entry { request with query := q } settings d =
      batchFiles entry request settings d := rfl

/-- The same dialects are looked at, whatever the query is. -/
theorem presentIn_query (entry : Entry) (request : Request) (q : Query) :
    presentIn entry { request with query := q } = presentIn entry request := rfl

/-- The empty query compiles to the filter that everything passes. -/
theorem Filter.compile_empty (marker : String) :
    Filter.compile {} marker = .ok (Filter.all marker) := rfl

include hf

/-- **Batches under a filter** find what batches without one find, filtered afterwards. -/
theorem outcome_runBatches_refilter (entry : Entry) (root : Path) (ds : List Dialect)
    (findings : Findings) :
    (runBatches entry root request settings (findings.refilter f).value ds).outcome =
      (runBatches entry root { request with query := {} } settings findings ds).outcome.map
        fun r => ((r.1.refilter f).value, r.2) := by
  induction ds generalizing findings with
  | nil => rfl
  | cons d ds ih =>
    rw [outcome_runBatches_cons, outcome_runBatches_cons, outcome_runBatch_of_ok hf,
      outcome_runBatch_of_ok (Filter.compile_empty settings.highlightMarker),
      batchFiles_query entry request settings d {}]
    cases (extractFiles d root (batchFiles entry request settings d)
      settings.maxWorkers).outcome with
    | error e => rfl
    | ok r =>
      -- filtering after this report is this report under the filter; the rest is the induction
      have hstep := refilter_report (Filter.isActive_all settings.highlightMarker) f findings d r.1
      simp only [Except.map, Except.bind]
      rw [← hstep, ih]
      cases (runBatches entry root { request with query := {} } settings
        (findings.report d r.1 (Filter.all settings.highlightMarker)).value ds).outcome with
      | error e => rfl
      | ok rs => rfl

/-- **An analysis under a filter** is the analysis without one, filtered afterwards. -/
theorem outcome_analyze_refilter (d : Disk) (p : Path) :
    (analyze d p request (some settings)).outcome =
      (analyze d p { request with query := {} } (some settings)).outcome.map
        fun a => (a.refilter f).value := by
  cases hp : d.directory? p with
  | none =>
    rw [outcome_analyze_of_none hp, outcome_analyze_of_none hp]
    rfl
  | some place =>
    obtain ⟨root, entry⟩ := place
    rw [outcome_analyze_of_directory hp, outcome_analyze_of_directory hp]
    change (analyzeEntry d root entry request settings).outcome =
      (analyzeEntry d root entry { request with query := {} } settings).outcome.map _
    -- the batches start with empty findings, which are their own filtered form
    have hbatches := outcome_runBatches_refilter hf entry root (presentIn entry request) {}
    rw [refilter_empty] at hbatches
    rw [outcome_analyzeEntry, outcome_analyzeEntry, hbatches,
      presentIn_query entry request {}]
    cases (runBatches entry root { request with query := {} } settings {}
      (presentIn entry request)).outcome with
    | error e => rfl
    | ok r => rfl

end Batches

/-! ### Settings that are looked up first -/

section Lookup

variable {d : Disk} {p : Path} {given : Option Settings}

/-- Settings that were looked up at the path asked for may as well be given. -/
theorem outcome_analyze_given {settings : Settings} (h : settingsOr given d p = .ok settings)
    (request : Request) :
    (analyze d p request given).outcome = (analyze d p request (some settings)).outcome := by
  cases hp : d.directory? p with
  | none => rw [outcome_analyze_of_none hp, outcome_analyze_of_none hp]
  | some place =>
    obtain ⟨root, entry⟩ := place
    rw [outcome_analyze_of_directory hp, outcome_analyze_of_directory hp,
      ← settingsOr_of_directory hp, h]
    rfl

/-- Settings without a value end an analysis: there are none where there is no directory. -/
theorem outcome_analyze_of_settings {e : Failure} (h : settingsOr given d p = .error e)
    (request : Request) : (analyze d p request given).outcome = .error e := by
  cases hp : d.directory? p with
  | none =>
    rw [settingsOr_of_none hp] at h
    cases h
  | some place =>
    obtain ⟨root, entry⟩ := place
    rw [outcome_analyze_of_directory hp, ← settingsOr_of_directory hp, h]
    rfl

end Lookup

/-! ### Queries -/

namespace Query

/-- **A query that compiles:** it looks for nothing, for a plain term, or for a pattern. -/
def Compiles (q : Query) : Prop :=
  q.term = "" ∨ q.useRegex = false ∨ ∃ r, Regex.parse (!q.caseSensitive) q.term.toList = .ok r

/-- **A query whose term should be a pattern and is not one.** Four faults are not of the pattern: a
count that is too large or has too many digits, flags that contradict each other, and nesting that
is too deep. -/
def IsMalformed (q : Query) : Prop :=
  q.term ≠ "" ∧ q.useRegex = true ∧
    ∃ fault, Regex.parse (!q.caseSensitive) q.term.toList = .error fault ∧
      fault ≠ .countTooLarge ∧ (∀ digits, fault ≠ .countTooLong digits) ∧
      fault ≠ .flagsContradict ∧ fault ≠ .tooDeep

instance (q : Query) : Decidable q.Compiles :=
  decidable_of_iff (q.term = "" ∨ q.useRegex = false ∨
      (Regex.parse (!q.caseSensitive) q.term.toList).toOption.isSome = true) <| by
    unfold Compiles
    cases Regex.parse (!q.caseSensitive) q.term.toList with
    | ok r => simp [Except.toOption]
    | error fault => simp [Except.toOption]

/-- A query that compiles does so with every marker. -/
theorem Compiles.exists_filter {q : Query} (h : q.Compiles) (marker : String) :
    ∃ f, Filter.compile q marker = .ok f := by
  unfold Filter.compile Filter.ofQuery
  by_cases hterm : q.term = ""
  · rw [if_pos hterm]
    exact ⟨_, rfl⟩
  by_cases hregex : q.useRegex = true
  · rcases h with h | h | ⟨r, hr⟩
    · exact absurd h hterm
    · rw [h] at hregex
      cases hregex
    · rw [if_neg hterm, if_pos hregex, hr]
      exact ⟨_, rfl⟩
  · rw [if_neg hterm, if_neg hregex]
    split
    · exact ⟨_, rfl⟩
    · exact ⟨_, rfl⟩

/-- A query that is malformed is refused with every marker, for its pattern. -/
theorem IsMalformed.exists_fault {q : Query} (h : q.IsMalformed) (marker : String) :
    ∃ fault, Filter.compile q marker = .error (.invalidPattern q.term fault) := by
  obtain ⟨hterm, hregex, fault, hparse, hcount, hlong, hflags, hdeep⟩ := h
  refine ⟨fault, ?_⟩
  unfold Filter.compile Filter.ofQuery
  rw [if_neg hterm, if_pos hregex, hparse]
  change Except.error (Failure.ofFault q.term fault) = _
  cases fault with
  | countTooLarge => exact absurd rfl hcount
  | countTooLong digits => exact absurd rfl (hlong digits)
  | flagsContradict => exact absurd rfl hflags
  | tooDeep => exact absurd rfl hdeep
  | _ => rfl

end Query

/-! ### Sessions -/

section Sessions

variable (s : Session) (d : Disk) (p : Path) (request : Request) (given : Option Settings)

/-- A session answers as the analysis does, whether the term compiles or is malformed. -/
theorem outcome_session_analyze
    (hq : request.query.Compiles ∨ request.query.IsMalformed) :
    (s.analyze d p request given).outcome.map Prod.fst = (analyze d p request given).outcome := by
  cases hs : settingsOr given d p with
  | error e =>
    rw [Session.outcome_analyze_of_settings_error hs, outcome_analyze_of_settings hs]
    rfl
  | ok settings =>
    rw [outcome_analyze_given hs]
    rcases hq with hq | hq
    · -- the session analyses without the query and filters afterwards, which is the same
      obtain ⟨f, hf⟩ := hq.exists_filter settings.highlightMarker
      rw [Session.outcome_analyze_of_ok hs hf, outcome_analyze_refilter hf]
      cases (analyze d p { request with query := {} } (some settings)).outcome with
      | error e => rfl
      | ok a => rfl
    · -- with a malformed pattern nothing is remembered, and the analysis itself is the answer
      obtain ⟨fault, hf⟩ := hq.exists_fault settings.highlightMarker
      rw [Session.outcome_analyze_of_invalid hs hf]
      cases (analyze d p request (some settings)).outcome with
      | error e => rfl
      | ok a => rfl

/-- What a session remembers after a query that compiles: the analysis without a filter, under the
settings of the directory. -/
theorem session_remembers {a : Analysis} {s' : Session} (hq : request.query.Compiles)
    (h : (s.analyze d p request given).outcome = .ok (a, s')) :
    ∃ settings r, settingsOr given d p = .ok settings ∧ s'.last = some r ∧
      r.marker = settings.highlightMarker ∧
      (analyze d p { request with query := {} } (some settings)).outcome = .ok r.result := by
  cases hs : settingsOr given d p with
  | error e =>
    rw [Session.outcome_analyze_of_settings_error hs] at h
    cases h
  | ok settings =>
    obtain ⟨f, hf⟩ := hq.exists_filter settings.highlightMarker
    rw [Session.outcome_analyze_of_ok hs hf] at h
    cases hresult : (analyze d p { request with query := {} } (some settings)).outcome with
    | error e =>
      rw [hresult] at h
      cases h
    | ok result =>
      rw [hresult] at h
      obtain ⟨-, rfl⟩ := Prod.mk.inj (Except.ok.inj h)
      exact ⟨settings, _, rfl, rfl, rfl, hresult⟩

/-- **Narrowing is analysing again.** A session gives the result, or the failure, that the analysis
of the same directory gives, for a query that compiles and for one that is malformed. After it
succeeded with a query that compiles, every further query that compiles has the answer that an
analysis of the unchanged disk would give. -/
theorem session_agrees_with_analysis :
    (request.query.Compiles ∨ request.query.IsMalformed →
      (s.analyze d p request given).outcome.map Prod.fst =
        (analyze d p request given).outcome) ∧
    (request.query.Compiles →
      ∀ a s', (s.analyze d p request given).outcome = .ok (a, s') →
        ∀ q : Query, q.Compiles →
          ∃ b, (s'.refilter q).outcome = .ok b ∧
            (analyze d p { request with query := q } given).outcome = .ok b) := by
  refine ⟨outcome_session_analyze s d p request given, ?_⟩
  -- what is remembered is the unfiltered analysis, and both answers are this one filtered
  intro hq a s' h q hq'
  obtain ⟨settings, r, hs, hlast, hmarker, hresult⟩ := session_remembers s d p request given hq h
  obtain ⟨f, hf⟩ := hq'.exists_filter settings.highlightMarker
  refine ⟨(r.result.refilter f).value, ?_, ?_⟩
  · exact Session.outcome_refilter hlast (by rw [hmarker, hf])
  · have hrescan : (analyze d p { request with query := q } (some settings)).outcome = _ :=
      outcome_analyze_refilter hf d p
    rw [outcome_analyze_given hs, hrescan, hresult]
    rfl

/-- A directory with one C# file that declares a namespace without a class. -/
def bareNamespace : Disk :=
  { entries := [.directory "home" [.file "a.cs"
      (Text.encode "namespace Bare \x7b \x7d")]] }

/-- The namespace is reached through the index only: the first query finds nothing, the second finds
it in what the session remembers. -/
theorem session_agrees_with_analysis_bare_namespace :
    ∃ a s' b,
      (Session.analyze {} bareNamespace ⟨.relative, ["home", "..", "home"]⟩
        { query := { term := "x+y", useRegex := true } } none).outcome = .ok (a, s') ∧
      (s'.refilter { term := "bare" }).outcome = .ok b ∧
      (analyze bareNamespace ⟨.relative, ["home", "..", "home"]⟩
        { query := { term := "bare" } } none).outcome = .ok b ∧
      a.findings.csharp.status = .noMatches ∧
      b.findings.csharp.namespaces = [("Bare", [])] := by
  -- the first query finds nothing, and still the namespace is there for the second
  have hfirst : ((Session.analyze {} bareNamespace ⟨.relative, ["home", "..", "home"]⟩
      { query := { term := "x+y", useRegex := true } } none).outcome.toOption.map
        fun r => r.1.findings.csharp.status) = some .noMatches := by decide +kernel
  have hsecond : ((analyze bareNamespace ⟨.relative, ["home", "..", "home"]⟩
      { query := { term := "bare" } } none).outcome.toOption.map
        fun b => b.findings.csharp.namespaces) = some [("Bare", [])] := by decide +kernel
  have hcompiles : Query.Compiles { term := "x+y", useRegex := true } := by decide +kernel
  cases ho : (Session.analyze {} bareNamespace ⟨.relative, ["home", "..", "home"]⟩
      { query := { term := "x+y", useRegex := true } } none).outcome with
  | error e =>
    rw [ho] at hfirst
    cases hfirst
  | ok r =>
    obtain ⟨a, s'⟩ := r
    obtain ⟨b, hb, hrescan⟩ := (session_agrees_with_analysis {} bareNamespace
      ⟨.relative, ["home", "..", "home"]⟩ { query := { term := "x+y", useRegex := true } }
      none).2 hcompiles a s' ho { term := "bare" } (.inr (.inl rfl))
    rw [ho] at hfirst
    rw [hrescan] at hsecond
    exact ⟨a, s', b, rfl, hb, hrescan, Option.some.inj hfirst, Option.some.inj hsecond⟩

end Sessions

end SourceAtlas
