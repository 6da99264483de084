import SourceAtlas.Proofs.Listing
import SourceAtlas.Proofs.Session.Commit

/-!
# A session over time

A session lives through analyses, later queries and requests for what it remembers, while the files
that are analysed change in between. It is an object that is changed in place: an operation that
fails half way leaves what it has changed by then. This module therefore states an analysis once
more as a program on such an object, with its one assignment where it happens, and shows that it
does what the analysis of a session does. What holds of every history of a session follows from one
step: an operation commits what is to be remembered of it, and nothing else changes.

* `InPlace`, `InPlace.effect_analyze` — a session that is changed in place;
* `Event.after_eq_commit` — what one operation changes;
* `unfiltered_of_analyze` — an analysis without a term never speaks of matches;
* `outcome_refilter_eq_narrowed` — what a query on a session depends on;
* `Session.Follows`, `session_follows_history` — what holds of a session after any history.
-/

namespace SourceAtlas

/-! ### Sessions that are changed in place -/

/-- **Operations that change a session in place.** They report their progress and may fail; what
they changed before they failed stays changed. -/
abbrev InPlace := ExceptT Failure (StateT Session Logged)

namespace InPlace

variable {α β : Type}

/-- What an operation returns on a session, and the session afterwards. -/
def effect (x : InPlace α) (s : Session) : Except Failure α × Session :=
  (x.run.run s).value

/-- An operation that has no part in the session. -/
def ofRun (x : Run α) : InPlace α :=
  ExceptT.mk (StateT.lift x.run)

/-- **Remembers an analysis,** all that is to be remembered of it at once. -/
def remember (r : Remembered) : InPlace Unit :=
  set ({ last := some r } : Session)

@[simp] theorem effect_ofRun (x : Run α) (s : Session) : (ofRun x).effect s = (x.outcome, s) := rfl

@[simp] theorem effect_liftExcept (x : Except Failure α) (s : Session) :
    (liftM x : InPlace α).effect s = (x, s) := rfl

@[simp] theorem effect_remember (r : Remembered) (s : Session) :
    (remember r).effect s = (.ok (), ⟨some r⟩) := rfl

/-- An operation after one that succeeds finds the session as that one left it. -/
theorem effect_bind_of_ok {x : InPlace α} {s s' : Session} {a : α}
    (h : x.effect s = (.ok a, s')) (f : α → InPlace β) : (x >>= f).effect s = (f a).effect s' := by
  change (ExceptT.bindCont f (x.effect s).1 (x.effect s).2).value = _
  rw [h]
  rfl

/-- After an operation that fails, the session is as it left it. -/
theorem effect_bind_of_error {x : InPlace α} {s s' : Session} {e : Failure}
    (h : x.effect s = (.error e, s')) (f : α → InPlace β) :
    (x >>= f).effect s = (.error e, s') := by
  change (ExceptT.bindCont f (x.effect s).1 (x.effect s).2).value = _
  rw [h]
  rfl

/-- **Analyses a directory** on a session that is changed in place. -/
def analyze (d : Disk) (p : Path) (request : Request) (given : Option Settings) :
    InPlace Analysis := do
  let settings ← settingsOr given d p
  match Filter.compile request.query settings.highlightMarker with
  | .error (.invalidPattern _ _) => ofRun (SourceAtlas.analyze d p request (some settings))
  | .error f => throw f
  | .ok filter =>
    let result ← ofRun (SourceAtlas.analyze d p { request with query := {} } (some settings))
    remember { root := p, query := request.query, result, marker := settings.highlightMarker }
    ofRun (result.refilter filter)

/-- **An analysis in place is the analysis of a session:** it returns the same, and leaves the
session that the other one returns. Where it fails, the session has not been changed yet. -/
theorem effect_analyze (s : Session) (d : Disk) (p : Path) (request : Request)
    (given : Option Settings) :
    (analyze d p request given).effect s =
      match (s.analyze d p request given).outcome with
      | .ok (a, s') => (.ok a, s')
      | .error f => (.error f, s) := by
  unfold analyze
  cases hs : settingsOr given d p with
  | error e =>
    rw [Session.outcome_analyze_of_settings_error hs]
    exact effect_bind_of_error (effect_liftExcept _ s) _
  | ok settings =>
    rw [effect_bind_of_ok (effect_liftExcept _ s)]
    rcases request.query.compile_cases settings.highlightMarker with
      ⟨-, filter, hf⟩ | ⟨-, fault, hf⟩ | ⟨-, -, f, hf, hne⟩
    · rw [Session.outcome_analyze_of_ok hs hf, hf]
      cases ha : (SourceAtlas.analyze d p { request with query := {} } (some settings)).outcome with
      | error e =>
        -- the reading fails before anything is assigned
        exact effect_bind_of_error (by rw [effect_ofRun, ha]) _
      | ok a =>
        exact (effect_bind_of_ok (by rw [effect_ofRun, ha]) _).trans
          (effect_bind_of_ok (effect_remember _ s) _)
    · rw [Session.outcome_analyze_of_invalid hs hf, hf]
      change ((SourceAtlas.analyze d p request (some settings)).outcome, s) = _
      cases (SourceAtlas.analyze d p request (some settings)).outcome with
      | error e => rfl
      | ok a => rfl
    · rw [Session.outcome_analyze_of_refused hs hf hne, hf]
      cases f with
      | invalidPattern term fault => exact absurd rfl (hne term fault)
      | _ => rfl

end InPlace

/-! ### Histories -/

/-- **What a session may be asked.** -/
inductive Operation where
  /-- To analyse a directory. -/
  | analyze (p : Path) (request : Request) (given : Option Settings)
  /-- To narrow what it remembers. -/
  | refilter (q : Query)
  /-- To give what it remembers. -/
  | require

/-- Performs an operation while a disk is as it is. -/
def Operation.perform (d : Disk) : Operation → InPlace Analysis
  | .analyze p request given => InPlace.analyze d p request given
  | .refilter q => do InPlace.ofRun ((← get).refilter q)
  | .require => do return (← (← get).require).result

/-- **An operation at its time:** the disk may be another at every time. -/
structure Event where
  /-- The disk at that time. -/
  disk : Disk
  /-- The operation. -/
  operation : Operation

namespace Event

/-- What an event returns. -/
def outcome (e : Event) (s : Session) : Except Failure Analysis :=
  ((e.operation.perform e.disk).effect s).1

/-- The session after an event. -/
def after (e : Event) (s : Session) : Session :=
  ((e.operation.perform e.disk).effect s).2

/-- **An event that has a session remember something:** an analysis, and what is to be remembered of
it. -/
def Installs (e : Event) (r : Remembered) : Prop :=
  ∃ p request given, e.operation = .analyze p request given ∧ r.Records e.disk p request given

/-- What an event commits. -/
def kept (e : Event) : Option Remembered :=
  match e.operation with
  | .analyze p request given => Session.kept e.disk p request given
  | _ => none

/-- What an event leaves to be remembered, said without running it. -/
theorem kept_eq_some_iff {e : Event} {r : Remembered} : e.kept = some r ↔ e.Installs r := by
  obtain ⟨d, operation⟩ := e
  cases operation with
  | analyze p request given =>
    refine Session.kept_eq_some_iff.trans ⟨fun h => ⟨p, request, given, rfl, h⟩, ?_⟩
    rintro ⟨_, _, _, ⟨⟩, h⟩
    exact h
  | refilter q => exact iff_of_false (fun h => nomatch h) fun ⟨_, _, _, h, _⟩ => nomatch h
  | require => exact iff_of_false (fun h => nomatch h) fun ⟨_, _, _, h, _⟩ => nomatch h

theorem kept_eq_none_iff {e : Event} : e.kept = none ↔ ∀ r, ¬e.Installs r := by
  rw [Option.eq_none_iff_forall_ne_some]
  exact forall_congr' fun r => not_congr kept_eq_some_iff

/-- A later query gets what the session gives, which stays as it is. -/
theorem effect_refilter (d : Disk) (q : Query) (s : Session) :
    (Operation.perform d (.refilter q)).effect s = ((s.refilter q).outcome, s) := rfl

/-- Asking for what is remembered changes nothing. -/
theorem effect_require (d : Disk) (s : Session) :
    (Operation.perform d .require).effect s = (s.require.map Remembered.result, s) := by
  change ((liftM s.require : InPlace Remembered) >>= fun r => pure r.result).effect s = _
  cases s.require with
  | error f => rfl
  | ok r => rfl

/-- **One event commits what it installs,** whatever it returns. -/
theorem after_eq_commit (e : Event) (s : Session) : e.after s = s.commit e.kept := by
  obtain ⟨d, operation⟩ := e
  cases operation with
  | analyze p request given =>
    change ((InPlace.analyze d p request given).effect s).2 =
      s.commit (Session.kept d p request given)
    rw [InPlace.effect_analyze, Session.outcome_analyze_eq_commit, Session.kept]
    cases Session.computed d p request given with
    | error f => rfl
    | ok r => rfl
  | refilter q => rfl
  | require =>
    rw [after, effect_require]
    rfl

/-- **An event that fails installs nothing.** -/
theorem kept_of_error {e : Event} {s : Session} {f : Failure} (h : e.outcome s = .error f) :
    e.kept = none := by
  obtain ⟨d, operation⟩ := e
  cases operation with
  | analyze p request given =>
    change ((InPlace.analyze d p request given).effect s).1 = _ at h
    rw [InPlace.effect_analyze, Session.outcome_analyze_eq_commit] at h
    change Session.kept d p request given = none
    cases hc : Session.computed d p request given with
    | error f => exact Session.kept_of_error hc
    | ok r =>
      rw [hc] at h
      cases h
  | refilter q => rfl
  | require => rfl

/-- **The events that install something** are the analyses that neither fail nor have a malformed
query. -/
theorem exists_installs_iff (e : Event) (s : Session) :
    (∃ r, e.Installs r) ↔
      ∃ p request given, e.operation = .analyze p request given ∧ ¬request.query.IsMalformed ∧
        ∃ a, e.outcome s = .ok a := by
  -- the outcome of the event is the outcome of its analysis
  have houtcome : ∀ p request given, e.operation = .analyze p request given →
      ((∃ a, e.outcome s = .ok a) ↔
        ∃ result, (s.analyze e.disk p request given).outcome = .ok result) := by
    intro p request given he
    rw [outcome, he]
    change (∃ a, ((InPlace.analyze e.disk p request given).effect s).1 = .ok a) ↔ _
    rw [InPlace.effect_analyze]
    cases (s.analyze e.disk p request given).outcome with
    | error f => simp
    | ok result => simp
  constructor
  · rintro ⟨r, p, request, given, he, hr⟩
    obtain ⟨hq, hresult⟩ := (Session.exists_records_iff s).mp ⟨r, hr⟩
    exact ⟨p, request, given, he, hq, (houtcome p request given he).mpr hresult⟩
  · rintro ⟨p, request, given, he, hq, ha⟩
    obtain ⟨r, hr⟩ :=
      (Session.exists_records_iff s).mpr ⟨hq, (houtcome p request given he).mp ha⟩
    exact ⟨r, p, request, given, he, hr⟩

end Event

/-- A session after a history, the first event first. -/
def Session.afterHistory (s : Session) (history : List Event) : Session :=
  history.foldl (fun s e => e.after s) s

/-! ### What is remembered is not filtered -/

/-- Findings whose reports say nothing of matches: there is something to show, or there was nothing
to begin with. -/
def Findings.Unfiltered (r : Findings) : Prop :=
  ∀ D, r.status D = .ok ∨ r.status D = .empty

section Unfiltered

variable {g : Filter} (hg : g.isActive = false)

include hg

/-- A filter that is not active removes nothing, so it never reports that it did. -/
theorem Filter.status_keep {α : Type} (searchable : α → List String) (items : List α) :
    (g.keep searchable items).2 = .ok ∨ (g.keep searchable items).2 = .empty := by
  cases items with
  | nil => exact .inr rfl
  | cons a as => simp [keep, hg]

theorem CSharpReport.status_build (classes : List ClassEntity) (declared : List String) :
    (build classes declared g).value.status = .ok ∨
      (build classes declared g).value.status = .empty := by
  change statusOf g _ _ _ _ = .ok ∨ statusOf g _ _ _ _ = .empty
  simp only [statusOf, hg]
  split
  · exact .inr rfl
  · exact .inl rfl

/-- A report without a filter says nothing of matches, and leaves the other reports as they are. -/
theorem Findings.Unfiltered.report {r : Findings} (h : r.Unfiltered) (d : Dialect)
    (entities : List Entity) : (r.report d entities g).value.Unfiltered := by
  intro D
  by_cases hD : D = d
  · subst hD
    cases D with
    | csharp => exact CSharpReport.status_build hg _ _
    | javascript => exact Filter.status_keep hg _ _
    | react => exact Filter.status_keep hg _ _
    | vue => exact Filter.status_keep hg _ _
  · have hsame : (r.report d entities g).value.status D = r.status D := by
      cases d <;> cases D <;> simp [Findings.report, Findings.status] at hD ⊢
    rw [hsame]
    exact h D

end Unfiltered

/-- Batches without a term say nothing of matches. -/
theorem unfiltered_of_runBatches {entry : Entry} {root : Path} {request : Request}
    {settings : Settings} {ds : List Dialect} {r r' : Findings} {failed : List String}
    (hr : r.Unfiltered)
    (h : (runBatches entry root { request with query := {} } settings r ds).outcome =
      .ok (r', failed)) : r'.Unfiltered := by
  induction ds generalizing r failed with
  | nil =>
    obtain ⟨rfl, -⟩ := Prod.mk.inj (Except.ok.inj h)
    exact hr
  | cons d ds ih =>
    obtain ⟨⟨r₁, failed₁⟩, rs, hfirst, hrest, -⟩ := exists_of_runBatches_cons h
    have hcompile := Filter.compile_empty settings.highlightMarker
    rcases runBatch_cases hfirst with ⟨filter, hf, rfl, -⟩ | ⟨⟨term, fault, hf⟩, -⟩
    · obtain rfl := Except.ok.inj (hcompile.symm.trans hf)
      exact ih (hr.report (Filter.isActive_all _) d _) hrest
    · cases hcompile.symm.trans hf

/-- **An analysis without a term says nothing of matches.** -/
theorem unfiltered_of_analyze {d : Disk} {p : Path} {request : Request} {given : Option Settings}
    {a : Analysis} (h : (analyze d p { request with query := {} } given).outcome = .ok a) :
    a.findings.Unfiltered := by
  obtain ⟨root, entry, settings, failed, -, -, hbatches, -⟩ := exists_of_outcome_analyze h
  refine unfiltered_of_runBatches (r := {}) ?_ hbatches
  intro D
  cases D <;> exact .inr rfl

/-! ### What a later query depends on -/

/-- **A query on what is remembered,** in terms of the remembered analysis and the query alone. -/
def narrowed (last : Option Analysis) (q : Query) : Except Failure Analysis :=
  match last with
  | none => .error .sessionEmpty
  | some a => (Filter.compile q defaultMarker).map fun filter => (a.refilter filter).value

/-- The marker has no part in compiling a query. -/
theorem compile_marker (q : Query) (marker marker' : String) :
    Filter.compile q marker = (Filter.compile q marker').map fun f => { f with marker } := by
  unfold Filter.compile Filter.ofQuery
  split
  · rfl
  · split
    · cases Regex.parse (!q.caseSensitive) q.term.toList with
      | error fault => rfl
      | ok r => rfl
    · split
      · rfl
      · rfl

/-- **A query on a session** depends on the remembered analysis and the query alone: not on the
directory, the marker or the query that the analysis was made with. -/
theorem outcome_refilter_eq_narrowed (s : Session) (q : Query) :
    (s.refilter q).outcome = narrowed (s.last.map Remembered.result) q := by
  cases hlast : s.last with
  | none =>
    refine Run.outcome_bind_of_error (e := .sessionEmpty) ?_ _
    rw [Run.outcome_liftExcept, Session.require, hlast]
  | some r =>
    have hrequire : s.require = .ok r := by rw [Session.require, hlast]
    unfold Session.refilter
    rw [Run.outcome_bind_of_ok (by rw [Run.outcome_liftExcept, hrequire]), Run.outcome_bind,
      Run.outcome_liftExcept, compile_marker q r.marker defaultMarker]
    change _ = (Filter.compile q defaultMarker).map _
    cases Filter.compile q defaultMarker with
    | error f => rfl
    | ok filter => rfl

/-! ### What holds after every history -/

/-- **A session that follows a history:** what it remembers, and what it does when it is asked
next. -/
structure Session.Follows (s : Session) (history : List Event) : Prop where
  /-- It is as it was at the beginning, or it remembers, all of one analysis, what the last analysis
  installed that installed anything. -/
  remembered :
    (s = {} ∧ ∀ e ∈ history, ∀ r, ¬e.Installs r) ∨
    ∃ before e later r, history = before ++ e :: later ∧ e.Installs r ∧
      (∀ e' ∈ later, ∀ r', ¬e'.Installs r') ∧ s = { last := some r }
  /-- The events that install something are the analyses that neither fail nor have a malformed
  query. -/
  installs : ∀ e : Event, (∃ r, e.Installs r) ↔
    ∃ p request given, e.operation = .analyze p request given ∧ ¬request.query.IsMalformed ∧
      ∃ a, e.outcome s = .ok a
  /-- What fails changes nothing, … -/
  of_error : ∀ (e : Event) f, e.outcome s = .error f → e.after s = s
  /-- … nor does an analysis with a malformed query, … -/
  of_isMalformed : ∀ d p request given, request.query.IsMalformed →
    Event.after ⟨d, .analyze p request given⟩ s = s
  /-- … nor a later query or a request for what is remembered. -/
  of_refilter : ∀ d q, Event.after ⟨d, .refilter q⟩ s = s
  of_require : ∀ d, Event.after ⟨d, .require⟩ s = s
  /-- A later query fails for want of an analysis if there was none that installed anything, … -/
  refilter_empty : ∀ d q, Event.outcome ⟨d, .refilter q⟩ s = .error .sessionEmpty ↔
    ∀ e ∈ history, ∀ r, ¬e.Installs r
  /-- … and so does a request for what is remembered. -/
  require_empty : ∀ d, Event.outcome ⟨d, .require⟩ s = .error .sessionEmpty ↔
    ∀ e ∈ history, ∀ r, ¬e.Installs r
  /-- What is remembered says nothing of matches. -/
  unfiltered : ∀ r, s.last = some r → r.result.findings.Unfiltered
  /-- What a later query gets depends on the remembered analysis and the query alone. -/
  refilter_eq : ∀ d q, Event.outcome ⟨d, .refilter q⟩ s = narrowed (s.last.map Remembered.result) q

/-- A query that is narrowed fails for want of an analysis only if there is none. -/
theorem narrowed_eq_sessionEmpty_iff {last : Option Analysis} {q : Query} :
    narrowed last q = .error .sessionEmpty ↔ last = none := by
  cases last with
  | none => exact iff_of_true rfl rfl
  | some a =>
    -- whatever is wrong with a query, it is not that nothing was analysed
    refine iff_of_false ?_ (fun h => nomatch h)
    unfold narrowed Filter.compile
    cases Filter.ofQuery q defaultMarker with
    | ok filter => exact fun h => nomatch h
    | error fault => cases fault <;> exact fun h => nomatch h

/-- **After every history** from a new session on, whatever the disk was at every time, a session
follows this history. -/
theorem session_follows_history (history : List Event) :
    (Session.afterHistory {} history).Follows history := by
  have hcases := Session.foldl_cases (fun s e => Event.after_eq_commit e s) {} history
  change (_ ∧ Session.afterHistory {} history = {}) ∨
    ∃ before e later r, _ ∧ _ ∧ _ ∧ Session.afterHistory {} history = ⟨some r⟩ at hcases
  simp only [Event.kept_eq_none_iff, Event.kept_eq_some_iff] at hcases
  generalize Session.afterHistory {} history = s at hcases ⊢
  have hempty : s.last = none ↔ ∀ e ∈ history, ∀ r, ¬e.Installs r := by
    rcases hcases with ⟨hnone, rfl⟩ | ⟨before, e, later, r, rfl, he, -, rfl⟩
    · exact iff_of_true rfl hnone
    · refine iff_of_false (Option.some_ne_none r) ?_
      intro h
      exact h e (List.mem_append_right _ List.mem_cons_self) r he
  have hnarrow : ∀ d q, Event.outcome ⟨d, .refilter q⟩ s =
      narrowed (s.last.map Remembered.result) q := by
    intro d q
    rw [Event.outcome, Event.effect_refilter]
    exact outcome_refilter_eq_narrowed s q
  refine ⟨?_, fun e => e.exists_installs_iff s, ?_, ?_, ?_, ?_, ?_, ?_, ?_, hnarrow⟩
  · rcases hcases with ⟨hnone, rfl⟩ | hinstalled
    · exact .inl ⟨rfl, hnone⟩
    · exact .inr hinstalled
  · intro e f h
    rw [Event.after_eq_commit, Event.kept_of_error h, Session.commit_none]
  · intro d p request given hq
    rw [Event.after_eq_commit]
    exact congrArg s.commit (Session.kept_of_isMalformed hq)
  · intro d q
    exact Event.after_eq_commit _ s
  · intro d
    exact Event.after_eq_commit _ s
  · intro d q
    rw [hnarrow, narrowed_eq_sessionEmpty_iff, Option.map_eq_none_iff, hempty]
  · intro d
    rw [Event.outcome, Event.effect_require, ← hempty, Session.require]
    cases s.last with
    | none => exact iff_of_true rfl rfl
    | some r =>
      refine iff_of_false ?_ (Option.some_ne_none r)
      intro h
      cases h
  · -- what is remembered is the result of an analysis without a term
    rintro r hr
    rcases hcases with ⟨-, rfl⟩ | ⟨before, e, later, r', rfl, ⟨p, request, given, -, h⟩, -, rfl⟩
    · cases hr
    · obtain rfl := Option.some.inj hr
      exact unfiltered_of_analyze h.result

end SourceAtlas
