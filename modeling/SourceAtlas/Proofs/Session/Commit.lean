import SourceAtlas.Proofs.Refiltering

/-!
# An analysis changes a session at one point

An analysis looks up settings, compiles its query and reads the directory, and each of these may
fail. Only then does the session remember anything, and it remembers all of it at once. So an
analysis is a computation that does not look at the session, followed by a *commit* of what is to be
remembered, which is nothing if the computation failed or if its query is malformed. A run of a
session is then a list of commits, of which the last counts.

* `Query.compile_cases` — a query compiles, or is malformed, or is refused for another reason;
* `Session.computed`, `Session.outcome_analyze_eq_commit` — an analysis as a computation and a
  commit;
* `Session.foldl_cases` — of some commits, the last counts;
* `Remembered.Records`, `Session.kept_eq_some_iff` — what is committed;
* `Session.exists_records_iff` — when anything is.
-/

namespace SourceAtlas

/-! ### Queries -/

/-- **A query compiles, or is malformed, or is refused** because of one of the four faults that are
not of the pattern. The marker has no part in it. -/
theorem Query.compile_cases (q : Query) (marker : String) :
    (q.Compiles ∧ ∃ filter, Filter.compile q marker = .ok filter) ∨
    (q.IsMalformed ∧ ∃ fault, Filter.compile q marker = .error (.invalidPattern q.term fault)) ∨
    (¬q.Compiles ∧ ¬q.IsMalformed ∧ ∃ f, Filter.compile q marker = .error f ∧
      ∀ term fault, f ≠ .invalidPattern term fault) := by
  by_cases hc : q.Compiles
  · exact .inl ⟨hc, hc.exists_filter marker⟩
  by_cases hm : q.IsMalformed
  · exact .inr (.inl ⟨hm, hm.exists_fault marker⟩)
  -- what is left is a pattern with one of the faults that are not of the pattern
  refine .inr (.inr ⟨hc, hm, ?_⟩)
  have hterm : q.term ≠ "" := fun h => hc (.inl h)
  have hregex : q.useRegex = true := by
    cases h : q.useRegex with
    | true => rfl
    | false => exact absurd (.inr (.inl h)) hc
  cases hparse : Regex.parse (!q.caseSensitive) q.term.toList with
  | ok r => exact absurd (.inr (.inr ⟨r, hparse⟩)) hc
  | error fault =>
    have hcompile : Filter.compile q marker = .error (Failure.ofFault q.term fault) := by
      unfold Filter.compile Filter.ofQuery
      rw [if_neg hterm, if_pos hregex, hparse]
      rfl
    refine ⟨_, hcompile, fun term fault' heq => hm ?_⟩
    refine ⟨hterm, hregex, fault, hparse, ?_, ?_, ?_, ?_⟩
    · rintro rfl
      cases heq
    · rintro digits rfl
      cases heq
    · rintro rfl
      cases heq
    · rintro rfl
      cases heq

/-- A query that compiles is not malformed. -/
theorem Query.Compiles.not_isMalformed {q : Query} (h : q.Compiles) : ¬q.IsMalformed := by
  intro hm
  obtain ⟨filter, hf⟩ := h.exists_filter defaultMarker
  obtain ⟨fault, hfault⟩ := hm.exists_fault defaultMarker
  cases hf.symm.trans hfault

/-! ### Commits -/

namespace Session

/-- **A session after a commit** of what is to be remembered, if anything is. -/
def commit (s : Session) (kept : Option Remembered) : Session :=
  { last := kept.or s.last }

@[simp] theorem commit_none (s : Session) : s.commit none = s := rfl

@[simp] theorem commit_some (s : Session) (r : Remembered) : s.commit (some r) = ⟨some r⟩ := rfl

section Runs

variable {E : Type} {step : Session → E → Session} {kept : E → Option Remembered}
  (hstep : ∀ s e, step s e = s.commit (kept e)) (s : Session)

include hstep

/-- Steps that commit nothing leave a session as it is. -/
theorem foldl_of_forall_none {events : List E} (h : ∀ e ∈ events, kept e = none) :
    events.foldl step s = s := by
  induction events with
  | nil => rfl
  | cons e events ih =>
    rw [List.foldl_cons, hstep, h e List.mem_cons_self, commit_none]
    exact ih fun e' he' => h e' (List.mem_cons_of_mem _ he')

/-- After a step that commits something and others that do not, it is what a session remembers. -/
theorem foldl_of_split {before later : List E} {e : E} {r : Remembered} (he : kept e = some r)
    (hlater : ∀ e' ∈ later, kept e' = none) : (before ++ e :: later).foldl step s = ⟨some r⟩ := by
  rw [List.foldl_append, List.foldl_cons, hstep, he, commit_some]
  exact foldl_of_forall_none hstep _ hlater

/-- **The last commit counts:** no step commits anything and a session is as it was before, or there
is a last step that does and a session remembers what it committed. -/
theorem foldl_cases (events : List E) :
    ((∀ e ∈ events, kept e = none) ∧ events.foldl step s = s) ∨
    ∃ before e later r, events = before ++ e :: later ∧ kept e = some r ∧
      (∀ e' ∈ later, kept e' = none) ∧ events.foldl step s = ⟨some r⟩ := by
  induction events generalizing s with
  | nil => exact .inl ⟨List.forall_mem_nil _, rfl⟩
  | cons e events ih =>
    rw [List.foldl_cons]
    rcases ih (step s e) with ⟨hnone, hrun⟩ | ⟨before, e', later, r, rfl, he', hlater, hrun⟩
    · -- no later step commits, so this step decides
      cases he : kept e with
      | none =>
        rw [hrun, hstep, he, commit_none]
        exact .inl ⟨List.forall_mem_cons.mpr ⟨he, hnone⟩, rfl⟩
      | some r =>
        rw [hrun, hstep, he, commit_some]
        exact .inr ⟨[], e, events, r, rfl, he, hnone, rfl⟩
    · exact .inr ⟨e :: before, e', later, r, rfl, he', hlater, hrun⟩

end Runs

/-! ### Analyses -/

/-- **What an analysis shows and has a session remember.** It is read off an empty session, since an
analysis does not look at what is remembered. -/
def computed (d : Disk) (p : Path) (request : Request) (given : Option Settings) :
    Except Failure (Analysis × Option Remembered) :=
  (Session.analyze {} d p request given).outcome.map fun r => (r.1, r.2.last)

variable {d : Disk} {p : Path} {request : Request} {given : Option Settings}

/-- A query that is refused ends an analysis. -/
theorem outcome_analyze_of_refused {s : Session} {settings : Settings} {f : Failure}
    (hs : settingsOr given d p = .ok settings)
    (hf : Filter.compile request.query settings.highlightMarker = .error f)
    (hne : ∀ term fault, f ≠ .invalidPattern term fault) :
    (s.analyze d p request given).outcome = .error f := by
  have hp : prepare d p request given = .error f := by
    rw [prepare, hs]
    simp only [bind, Except.bind, hf]
    cases f with
    | invalidPattern term fault => exact absurd rfl (hne term fault)
    | _ => rfl
  exact Run.outcome_bind_of_error (by rw [Run.outcome_liftExcept, hp]) _

/-- **An analysis is a computation and a commit.** -/
theorem outcome_analyze_eq_commit (s : Session) :
    (s.analyze d p request given).outcome =
      (computed d p request given).map fun r => (r.1, s.commit r.2) := by
  unfold computed
  cases hs : settingsOr given d p with
  | error e =>
    rw [outcome_analyze_of_settings_error hs, outcome_analyze_of_settings_error hs]
    rfl
  | ok settings =>
    -- a query compiles, or is malformed, or fails in a way that ends the analysis
    rcases request.query.compile_cases settings.highlightMarker with
      ⟨-, filter, hf⟩ | ⟨-, fault, hf⟩ | ⟨-, -, f, hf, hne⟩
    · rw [outcome_analyze_of_ok hs hf, outcome_analyze_of_ok hs hf]
      cases (SourceAtlas.analyze d p { request with query := {} } (some settings)).outcome with
      | error e => rfl
      | ok a => rfl
    · rw [outcome_analyze_of_invalid hs hf, outcome_analyze_of_invalid hs hf]
      cases (SourceAtlas.analyze d p request (some settings)).outcome with
      | error e => rfl
      | ok a => rfl
    · rw [outcome_analyze_of_refused hs hf hne, outcome_analyze_of_refused hs hf hne]
      rfl

end Session

/-! ### What is committed -/

/-- **What is remembered of an analysis:** the directory and the query that were asked for, the
marker that was set, and the result without any filter. All of it is of one analysis, whose query
compiles. -/
structure Remembered.Records (r : Remembered) (d : Disk) (p : Path) (request : Request)
    (given : Option Settings) : Prop where
  compiles : request.query.Compiles
  root : r.root = p
  query : r.query = request.query
  marker : (settingsOr given d p).map Settings.highlightMarker = .ok r.marker
  result : (analyze d p { request with query := {} } given).outcome = .ok r.result

/-- Analysing again under another query is filtering what is remembered. -/
theorem Remembered.Records.outcome_analyze {r : Remembered} {d : Disk} {p : Path}
    {request : Request} {given : Option Settings} (h : r.Records d p request given) {q : Query}
    {filter : Filter} (hf : Filter.compile q r.marker = .ok filter) :
    (analyze d p { request with query := q } given).outcome =
      .ok (r.result.refilter filter).value := by
  have hmarker := h.marker
  have hresult := h.result
  cases hs : settingsOr given d p with
  | error e =>
    rw [hs] at hmarker
    cases hmarker
  | ok settings =>
    rw [hs] at hmarker
    -- the marker that was remembered is that of the settings, so the filters are the same
    rw [← Except.ok.inj hmarker] at hf
    rw [outcome_analyze_given hs] at hresult ⊢
    have hagain : (analyze d p { request with query := q } (some settings)).outcome = _ :=
      outcome_analyze_refilter hf d p
    rw [hagain, hresult]
    rfl

namespace Session

variable {d : Disk} {p : Path} {request : Request} {given : Option Settings}

/-- What an analysis shows and commits if its query compiles. -/
theorem computed_of_compiles {settings : Settings} {filter : Filter}
    (hs : settingsOr given d p = .ok settings)
    (hf : Filter.compile request.query settings.highlightMarker = .ok filter) :
    computed d p request given =
      (SourceAtlas.analyze d p { request with query := {} } given).outcome.map fun result =>
        ((result.refilter filter).value,
          some { root := p, query := request.query, result
                 marker := settings.highlightMarker }) := by
  rw [computed, outcome_analyze_of_ok hs hf, outcome_analyze_given hs]
  cases (SourceAtlas.analyze d p { request with query := {} } (some settings)).outcome with
  | error e => rfl
  | ok a => rfl

/-- What is remembered of an analysis is what it commits, and it shows this under its query. -/
theorem computed_of_records {r : Remembered} (h : r.Records d p request given) :
    ∃ filter, Filter.compile request.query r.marker = .ok filter ∧
      computed d p request given = .ok ((r.result.refilter filter).value, some r) := by
  obtain ⟨root, query, result, marker⟩ := r
  obtain rfl : root = p := h.root
  obtain rfl : query = request.query := h.query
  have hmarker := h.marker
  cases hs : settingsOr given d root with
  | error e =>
    rw [hs] at hmarker
    cases hmarker
  | ok settings =>
    rw [hs] at hmarker
    obtain rfl : settings.highlightMarker = marker := Except.ok.inj hmarker
    obtain ⟨filter, hf⟩ := h.compiles.exists_filter settings.highlightMarker
    refine ⟨filter, hf, ?_⟩
    rw [computed_of_compiles hs hf, h.result]
    rfl

/-- **An analysis fails, or is of a malformed query and commits nothing,** or commits what is to be
remembered of it. -/
theorem computed_cases (d : Disk) (p : Path) (request : Request) (given : Option Settings) :
    (∃ f, computed d p request given = .error f) ∨
    (request.query.IsMalformed ∧ ∃ a, computed d p request given = .ok (a, none)) ∨
    ∃ r : Remembered, r.Records d p request given := by
  cases hs : settingsOr given d p with
  | error e =>
    refine .inl ⟨e, ?_⟩
    rw [computed, outcome_analyze_of_settings_error hs]
    rfl
  | ok settings =>
    -- only a query that compiles leaves something to be remembered
    rcases request.query.compile_cases settings.highlightMarker with
      ⟨hq, filter, hf⟩ | ⟨hq, fault, hf⟩ | ⟨-, -, f, hf, hne⟩
    · cases ha : (SourceAtlas.analyze d p { request with query := {} } given).outcome with
      | error e =>
        refine .inl ⟨e, ?_⟩
        rw [computed_of_compiles hs hf, ha]
        rfl
      | ok a =>
        refine .inr (.inr ⟨⟨p, request.query, a, settings.highlightMarker⟩, hq, rfl, rfl, ?_, ha⟩)
        rw [hs]
        rfl
    · rw [computed, outcome_analyze_of_invalid hs hf]
      cases (SourceAtlas.analyze d p request (some settings)).outcome with
      | error e => exact .inl ⟨e, rfl⟩
      | ok a => exact .inr (.inl ⟨hq, a, rfl⟩)
    · refine .inl ⟨f, ?_⟩
      rw [computed, outcome_analyze_of_refused hs hf hne]
      rfl

/-- What an analysis commits. -/
def kept (d : Disk) (p : Path) (request : Request) (given : Option Settings) : Option Remembered :=
  (computed d p request given).toOption.bind Prod.snd

/-- An analysis that fails leaves nothing to be remembered. -/
theorem kept_of_error {f : Failure} (h : computed d p request given = .error f) :
    kept d p request given = none := by
  rw [kept, h]
  rfl

theorem kept_of_ok {a : Analysis} {r : Option Remembered}
    (h : computed d p request given = .ok (a, r)) : kept d p request given = r := by
  rw [kept, h]
  rfl

/-- **An analysis commits what is to be remembered of it,** and nothing else. -/
theorem kept_eq_some_iff {r : Remembered} :
    kept d p request given = some r ↔ r.Records d p request given := by
  constructor
  · intro h
    rcases computed_cases d p request given with ⟨f, hc⟩ | ⟨-, a, hc⟩ | ⟨r', hr'⟩
    · cases (kept_of_error hc).symm.trans h
    · cases (kept_of_ok hc).symm.trans h
    · obtain ⟨filter, -, hc⟩ := computed_of_records hr'
      obtain rfl := Option.some.inj ((kept_of_ok hc).symm.trans h)
      exact hr'
  · intro h
    obtain ⟨filter, -, hc⟩ := computed_of_records h
    exact kept_of_ok hc

/-- A malformed query has nothing remembered. -/
theorem kept_of_isMalformed (hq : request.query.IsMalformed) : kept d p request given = none := by
  cases h : kept d p request given with
  | none => rfl
  | some r => exact absurd hq (kept_eq_some_iff.mp h).compiles.not_isMalformed

/-- **An analysis commits something** if it neither fails nor has a malformed query. -/
theorem exists_records_iff (s : Session) :
    (∃ r : Remembered, r.Records d p request given) ↔
      ¬request.query.IsMalformed ∧
        ∃ result, (s.analyze d p request given).outcome = .ok result := by
  rw [outcome_analyze_eq_commit]
  constructor
  · rintro ⟨r, hr⟩
    obtain ⟨filter, -, hc⟩ := computed_of_records hr
    rw [hc]
    exact ⟨hr.compiles.not_isMalformed, _, rfl⟩
  · rintro ⟨hq, result, hresult⟩
    rcases computed_cases d p request given with ⟨f, hc⟩ | ⟨hm, -⟩ | hr
    · rw [hc] at hresult
      cases hresult
    · exact absurd hm hq
    · exact hr

/-- Something is remembered of an analysis that succeeds with a query that compiles. -/
theorem exists_records_iff_of_compiles :
    (∃ r : Remembered, r.Records d p request given) ↔
      request.query.Compiles ∧ ∃ a, (SourceAtlas.analyze d p request given).outcome = .ok a := by
  constructor
  · rintro ⟨r, hr⟩
    obtain ⟨filter, hf⟩ := hr.compiles.exists_filter r.marker
    exact ⟨hr.compiles, _, hr.outcome_analyze hf⟩
  · rintro ⟨hq, a, ha⟩
    refine (exists_records_iff {}).mpr ⟨hq.not_isMalformed, ?_⟩
    -- a session fails where the analysis fails
    have hsame := outcome_session_analyze {} d p request given (.inl hq)
    rw [ha] at hsame
    cases hs : (Session.analyze {} d p request given).outcome with
    | error f =>
      rw [hs] at hsame
      cases hsame
    | ok result => exact ⟨result, rfl⟩

end Session

end SourceAtlas
