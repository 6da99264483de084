import SourceAtlas.Proofs.FrontEnds

/-!
# Calls that overlap

Calls of the tools share one session, and their steps may take turns. An analysis is computed, then
remembered, then rendered; a search reads what is remembered, then is rendered. Each of these steps
is one: the session is never seen half written. But what is rendered is marked with the marker that
the session has *then*, which need not be the one that was remembered together with what is shown.

Between the two reads, other calls may have remembered other analyses. The main statement says
exactly what this does to an answer: it shows one analysis that was remembered as a whole, and its
matches are marked with the marker of the last analysis that was remembered in between, if there was
one. So an answer is marked as it should be if those analyses have the same marker, and two projects
with different markers give an answer that is not.

* `Handler`, `Handler.step` — a call in progress, and its next step;
* `Server`, `Server.run` — calls in progress on one session, and a schedule of their steps;
* `Server.run_uninterrupted` — a call whose steps are not interrupted is the call as it is run
  alone;
* `responses_show_one_analysis` — what is shown in every schedule, and how it is marked;
* `overlapping_calls_mix_markers` — two projects and a schedule that mixes their markers.
-/

namespace SourceAtlas

/-! ### Calls in progress -/

/-- What a call has found and is about to show. -/
structure Shown where
  /-- The call. -/
  call : ToolCall
  /-- What it shows, still without marks. -/
  result : Analysis
  /-- What was remembered of the analysis that it shows. A malformed query has nothing
  remembered. -/
  source : Option Remembered

/-- The query of the call. -/
def Shown.query (x : Shown) : Query :=
  x.call.arguments.query

/-- The text of what is shown, its matches marked. -/
def Shown.text (x : Shown) (marker : String) : String :=
  (x.result.marked x.query marker).toJson.render

/-- A malformed query marks nothing, so it does not matter which marker is taken. -/
theorem Shown.text_of_isMalformed {x : Shown} (hq : x.query.IsMalformed) (marker : String) :
    x.text marker = x.result.toJson.render := by
  rw [text, x.result.marked_of_isMalformed hq]

/-- **A call in progress.** -/
inductive Handler where
  /-- Nothing has been done yet. -/
  | called (c : ToolCall)
  /-- An analysis has been computed and is to be remembered. -/
  | computed (c : ToolCall) (result : Analysis) (r : Remembered)
  /-- What is to be shown is known. -/
  | rendering (x : Shown)
  /-- It was shown as a text. -/
  | answered (x : Shown) (text : String)
  /-- There was nothing to show. -/
  | ended (c : ToolCall) (reply : Except Failure String)

namespace Handler

/-- The call. -/
def call : Handler → ToolCall
  | .called c | .computed c _ _ | .ended c _ => c
  | .rendering x | .answered x _ => x.call

/-- What the call has been answered with. -/
def reply? : Handler → Option (Except Failure String)
  | .answered _ text => some (.ok text)
  | .ended _ reply => some reply
  | _ => none

/-- The first step of an analysis: it is computed, and nothing of the session is looked at. -/
def beginAnalysis (d : Disk) (c : ToolCall) : Handler :=
  match c.arguments.root with
  | none => .ended c (.ok ("Unexpected error: " ++ (Failure.missingArgument "root").message))
  | some root =>
    match Session.computed d (Path.ofString root) c.arguments.request none with
    | .error (.projectNotFound path) =>
      .ended c (.ok ("Error: " ++ (Failure.projectNotFound path).message))
    | .error f => .ended c (.ok ("Unexpected error: " ++ f.message))
    | .ok (a, none) => .rendering ⟨c, a, none⟩
    | .ok (a, some r) => .computed c a r

/-- The first step of a search: it narrows what the session remembers. -/
def beginSearch (s : Session) (c : ToolCall) : Handler :=
  match (s.refilter c.arguments.query).outcome with
  | .error .sessionEmpty => .ended c (.ok (Failure.message .sessionEmpty))
  | .error (.invalidPattern term fault) =>
    .ended c (.ok ("Error: " ++ (Failure.invalidPattern term fault).message))
  | .error f => .ended c (.error f)
  | .ok a => .rendering ⟨c, a, s.last⟩

/-- The first step of a call. -/
def firstStep (d : Disk) (s : Session) (c : ToolCall) : Handler :=
  if c.tool = ToolCall.analyzeTool then beginAnalysis d c
  else if c.tool = ToolCall.searchTool then beginSearch s c
  else .ended c (.error (.unknownTool c.tool))

/-- A call of the analysis tool starts an analysis. -/
theorem firstStep_analyzeTool (d : Disk) (s : Session) (arguments : ToolArguments) :
    firstStep d s ⟨ToolCall.analyzeTool, arguments⟩ =
      beginAnalysis d ⟨ToolCall.analyzeTool, arguments⟩ :=
  if_pos rfl

/-- A call of the search tool starts from what is remembered. -/
theorem firstStep_searchTool (d : Disk) (s : Session) (arguments : ToolArguments) :
    firstStep d s ⟨ToolCall.searchTool, arguments⟩ =
      beginSearch s ⟨ToolCall.searchTool, arguments⟩ := by
  rw [firstStep, if_neg ToolCall.searchTool_ne_analyzeTool, if_pos rfl]

/-- **The next step of a call,** where all that was ever remembered is kept with the latest first. A
session is the first of it. -/
def step (d : Disk) (log : List Remembered) : Handler → List Remembered × Handler
  | .called c => (log, firstStep d ⟨log.head?⟩ c)
  | .computed c a r => (r :: log, .rendering ⟨c, a, some r⟩)
  | .rendering x => (log, .answered x (x.text (Session.marker ⟨log.head?⟩)))
  | h => (log, h)

end Handler

/-- **Calls in progress on one session.** -/
structure Server where
  /-- All that was remembered, the latest first. -/
  log : List Remembered
  /-- The calls. -/
  calls : List Handler

namespace Server

/-- The session that the calls share. -/
def session (v : Server) : Session :=
  ⟨v.log.head?⟩

/-- One of the calls takes its next step. -/
def step (v : Server) (i : Nat) (d : Disk) : Server :=
  match v.calls[i]? with
  | none => v
  | some h => { log := (h.step d v.log).1, calls := v.calls.set i (h.step d v.log).2 }

/-- **A schedule:** which call takes a step, one after the other, and the disk at that time. -/
def run (v : Server) (schedule : List (Nat × Disk)) : Server :=
  schedule.foldl (fun v e => v.step e.1 e.2) v

/-- Calls of which none has begun. -/
def start (log : List Remembered) (calls : List ToolCall) : Server :=
  { log, calls := calls.map Handler.called }

variable {v : Server} {i : Nat} {h : Handler}

/-- One step of the server is a step of one call, and the log it leaves. -/
theorem step_of_getElem? (hi : v.calls[i]? = some h) (d : Disk) :
    v.step i d = { log := (h.step d v.log).1, calls := v.calls.set i (h.step d v.log).2 } := by
  rw [step, hi]

theorem run_cons (v : Server) (e : Nat × Disk) (schedule : List (Nat × Disk)) :
    v.run (e :: schedule) = (v.step e.1 e.2).run schedule := rfl

/-- A call that has just taken a step takes another. -/
theorem step_set {log : List Remembered} {calls : List Handler} (hi : i < calls.length)
    (h : Handler) (d : Disk) :
    step { log, calls := calls.set i h } i d =
      { log := (h.step d log).1, calls := calls.set i (h.step d log).2 } := by
  have hget : (calls.set i h)[i]? = some h := List.getElem?_set_self hi
  rw [step_of_getElem? hget, List.set_set]

end Server

/-! ### Calls that are not interrupted -/

namespace Handler

/-- The three steps of a call, one behind the other. -/
def finish (d : Disk) (log : List Remembered) (c : ToolCall) : List Remembered × Handler :=
  let first := (Handler.called c).step d log
  let second := first.2.step d first.1
  second.2.step d second.1

variable (d : Disk) (log : List Remembered) (c : ToolCall)

/-- A call that computed something puts it in front of the log and answers with it. -/
theorem finish_of_computed {a : Analysis} {r : Remembered}
    (h : firstStep d ⟨log.head?⟩ c = .computed c a r) :
    finish d log c =
      (r :: log, .answered ⟨c, a, some r⟩ (Shown.text ⟨c, a, some r⟩ r.marker)) := by
  simp only [finish, step, h]
  rfl

/-- A call that only renders leaves the log, and marks its answer as the front of the log says. -/
theorem finish_of_rendering {x : Shown} (h : firstStep d ⟨log.head?⟩ c = .rendering x) :
    finish d log c = (log, .answered x (x.text (Session.marker ⟨log.head?⟩))) := by
  simp only [finish, step, h]

/-- A call that has ended changes nothing. -/
theorem finish_of_ended {reply : Except Failure String}
    (h : firstStep d ⟨log.head?⟩ c = .ended c reply) : finish d log c = (log, .ended c reply) := by
  simp only [finish, step, h]

/-- Three steps are the whole analysis. -/
theorem outcome_run_eq_finish_analysis (arguments : ToolArguments) :
    ∃ reply, (finish d log ⟨ToolCall.analyzeTool, arguments⟩).2.reply? = some reply ∧
      (ToolCall.run ⟨log.head?⟩ d ⟨ToolCall.analyzeTool, arguments⟩).outcome =
        reply.map fun text =>
          (text, ⟨(finish d log ⟨ToolCall.analyzeTool, arguments⟩).1.head?⟩) := by
  have hfirst := firstStep_analyzeTool d ⟨log.head?⟩ arguments
  cases hroot : arguments.root with
  | none =>
    simp only [beginAnalysis, hroot] at hfirst
    rw [ToolCall.outcome_run_analyzeTool_of_none hroot, finish_of_ended _ _ _ hfirst]
    exact ⟨_, rfl, rfl⟩
  | some root =>
    simp only [beginAnalysis, hroot] at hfirst
    rw [ToolCall.outcome_run_analyzeTool hroot, Session.outcome_analyze_eq_commit]
    cases hc : Session.computed d (Path.ofString root) arguments.request none with
    | error f =>
      rw [hc] at hfirst
      cases f <;> (rw [finish_of_ended _ _ _ hfirst]; exact ⟨_, rfl, rfl⟩)
    | ok found =>
      rw [hc] at hfirst
      obtain ⟨a, kept⟩ := found
      -- with nothing to be remembered the call renders at once
      cases kept with
      | none =>
        rw [finish_of_rendering _ _ _ hfirst]
        exact ⟨_, rfl, rfl⟩
      | some r =>
        rw [finish_of_computed _ _ _ hfirst]
        exact ⟨_, rfl, rfl⟩

/-- Three steps are the whole search. -/
theorem outcome_run_eq_finish_search (arguments : ToolArguments) :
    ∃ reply, (finish d log ⟨ToolCall.searchTool, arguments⟩).2.reply? = some reply ∧
      (ToolCall.run ⟨log.head?⟩ d ⟨ToolCall.searchTool, arguments⟩).outcome =
        reply.map fun text =>
          (text, ⟨(finish d log ⟨ToolCall.searchTool, arguments⟩).1.head?⟩) := by
  have hfirst := firstStep_searchTool d ⟨log.head?⟩ arguments
  rw [beginSearch] at hfirst
  rw [ToolCall.outcome_run_searchTool]
  cases ho : (Session.refilter ⟨log.head?⟩ arguments.query).outcome with
  | error f =>
    rw [ho] at hfirst
    cases f <;> (rw [finish_of_ended _ _ _ hfirst]; exact ⟨_, rfl, rfl⟩)
  | ok a =>
    rw [ho] at hfirst
    rw [finish_of_rendering _ _ _ hfirst]
    exact ⟨_, rfl, rfl⟩

/-- **Three steps are the whole call:** it has been answered as the call is when it is run at once,
and the session is left as it is then. -/
theorem outcome_run_eq_finish :
    ∃ reply, (finish d log c).2.reply? = some reply ∧
      (ToolCall.run ⟨log.head?⟩ d c).outcome =
        reply.map fun text => (text, ⟨(finish d log c).1.head?⟩) := by
  obtain ⟨tool, arguments⟩ := c
  by_cases hanalyze : tool = ToolCall.analyzeTool
  · subst hanalyze
    exact outcome_run_eq_finish_analysis d log arguments
  · by_cases hsearch : tool = ToolCall.searchTool
    · subst hsearch
      exact outcome_run_eq_finish_search d log arguments
    · have hfirst : firstStep d ⟨log.head?⟩ ⟨tool, arguments⟩ =
          .ended ⟨tool, arguments⟩ (.error (.unknownTool tool)) := by
        rw [firstStep, if_neg hanalyze, if_neg hsearch]
      rw [ToolCall.outcome_run_of_unknown hanalyze hsearch, finish_of_ended _ _ _ hfirst]
      exact ⟨_, rfl, rfl⟩

end Handler

/-- **A call whose three steps are not interrupted** is the call as it is run at once, wherever the
other calls are. -/
theorem Server.run_uninterrupted {v : Server} {i : Nat} {c : ToolCall}
    (hi : v.calls[i]? = some (.called c)) (d : Disk) :
    ∃ h reply, (v.run [(i, d), (i, d), (i, d)]).calls = v.calls.set i h ∧ h.reply? = some reply ∧
      (ToolCall.run v.session d c).outcome =
        reply.map fun text => (text, (v.run [(i, d), (i, d), (i, d)]).session) := by
  obtain ⟨hlt, -⟩ := List.getElem?_eq_some_iff.mp hi
  have hrun : v.run [(i, d), (i, d), (i, d)] =
      { log := (Handler.finish d v.log c).1
        calls := v.calls.set i (Handler.finish d v.log c).2 } := by
    show ((v.step i d).step i d).step i d = _
    rw [step_of_getElem? hi, step_set hlt, step_set hlt]
    rfl
  obtain ⟨reply, hreply, houtcome⟩ := Handler.outcome_run_eq_finish d v.log c
  rw [hrun]
  exact ⟨_, reply, rfl, hreply, houtcome⟩

/-! ### What is shown -/

/-- **What is shown is one remembered analysis, narrowed.** For an analysis it is the one of the
call itself; only a malformed query shows what is not remembered. -/
structure Shown.IsGenuine (x : Shown) : Prop where
  malformed : x.source = none → x.query.IsMalformed
  narrowed : ∀ r, x.source = some r → ∃ filter, Filter.compile x.query r.marker = .ok filter ∧
    x.result = (r.result.refilter filter).value
  own : x.call.tool = ToolCall.analyzeTool → ∀ r, x.source = some r →
    ∃ d root, x.call.arguments.root = some root ∧
      r.Records d (Path.ofString root) x.call.arguments.request none

namespace Handler

/-- A computed analysis shows what is to be remembered of it. -/
theorem isGenuine_of_computed {d : Disk} {c : ToolCall} {root : String} {a : Analysis}
    {kept : Option Remembered} (hroot : c.arguments.root = some root)
    (hc : Session.computed d (Path.ofString root) c.arguments.request none = .ok (a, kept)) :
    Shown.IsGenuine ⟨c, a, kept⟩ := by
  -- it failed, or the pattern was malformed, or something is to be remembered
  rcases Session.computed_cases d (Path.ofString root) c.arguments.request none with
    ⟨f, hf⟩ | ⟨hq, a', ha'⟩ | ⟨r, hr⟩
  · cases hc.symm.trans hf
  · obtain ⟨rfl, rfl⟩ := Prod.mk.inj (Except.ok.inj (hc.symm.trans ha'))
    exact ⟨fun _ => hq, fun _ h => (nomatch h), fun _ _ h => (nomatch h)⟩
  · obtain ⟨filter, hf, hr'⟩ := Session.computed_of_records hr
    obtain ⟨rfl, rfl⟩ := Prod.mk.inj (Except.ok.inj (hc.symm.trans hr'))
    refine ⟨fun h => (nomatch h), ?_, ?_⟩
    · intro r' hr''
      obtain rfl := Option.some.inj hr''
      exact ⟨filter, hf, rfl⟩
    · intro _ r' hr''
      obtain rfl := Option.some.inj hr''
      exact ⟨d, root, hroot, hr⟩

/-- A search shows what the session remembers. -/
theorem isGenuine_of_refilter {s : Session} {c : ToolCall} {a : Analysis}
    (htool : c.tool ≠ ToolCall.analyzeTool)
    (ha : (s.refilter c.arguments.query).outcome = .ok a) : Shown.IsGenuine ⟨c, a, s.last⟩ := by
  obtain ⟨r, filter, hlast, hf, rfl⟩ := Session.exists_of_outcome_refilter ha
  rw [hlast]
  refine ⟨fun h => (nomatch h), ?_, fun h => absurd h htool⟩
  intro r' hr'
  obtain rfl := Option.some.inj hr'
  exact ⟨filter, hf, rfl⟩

/-- **A call in progress is sound** if what it shows is genuine and is marked with the marker of
what was remembered last when it was rendered: of what it shows itself, or of something that was
remembered between this and the rendering. -/
def Sound (log : List Remembered) : Handler → Prop
  | .called _ => True
  | .computed c a r => Shown.IsGenuine ⟨c, a, some r⟩
  | .rendering x => x.IsGenuine ∧ ∀ r, x.source = some r →
      ∃ between early, log = between ++ r :: early
  | .answered x text => x.IsGenuine ∧
      (x.source = none → text = x.result.toJson.render) ∧
      ∀ r, x.source = some r → ∃ late between early, log = late ++ (between ++ r :: early) ∧
        text = x.text (between.head?.getD r).marker
  | .ended _ _ => True

/-- Remembering more keeps the calls sound that have nothing to do with it. -/
theorem Sound.append {log : List Remembered} {h : Handler} (hs : h.Sound log)
    (more : List Remembered) : h.Sound (more ++ log) := by
  cases h with
  | called c => trivial
  | computed c a r => exact hs
  | rendering x =>
    refine ⟨hs.1, ?_⟩
    intro r hr
    obtain ⟨between, early, rfl⟩ := hs.2 r hr
    exact ⟨more ++ between, early, (List.append_assoc _ _ _).symm⟩
  | answered x text =>
    refine ⟨hs.1, hs.2.1, ?_⟩
    intro r hr
    obtain ⟨late, between, early, rfl, htext⟩ := hs.2.2 r hr
    exact ⟨more ++ late, between, early, (List.append_assoc _ _ _).symm, htext⟩
  | ended c reply => trivial

/-- The first step shows nothing but what is genuine, and what a search shows has been
remembered. -/
theorem sound_firstStep (d : Disk) (log : List Remembered) (c : ToolCall) :
    (firstStep d ⟨log.head?⟩ c).Sound log := by
  unfold firstStep
  split
  · -- an analysis that is to be remembered is not in the log yet
    unfold beginAnalysis
    split
    · trivial
    · next root hroot =>
      split
      · trivial
      · trivial
      · next a hc => exact ⟨isGenuine_of_computed hroot hc, fun _ h => (nomatch h)⟩
      · next a r hc => exact isGenuine_of_computed hroot hc
  · next htool =>
    split
    · unfold beginSearch
      split
      · trivial
      · trivial
      · trivial
      · next a ha =>
        refine ⟨isGenuine_of_refilter htool ha, ?_⟩
        intro r hr
        obtain ⟨early, hlog⟩ := List.head?_eq_some_iff.mp hr
        exact ⟨[], early, hlog⟩
    · trivial

/-- The marker at the time of rendering is that of the last of what was remembered since. -/
theorem marker_of_append (between : List Remembered) (r : Remembered) (early : List Remembered) :
    Session.marker ⟨(between ++ r :: early).head?⟩ = (between.head?.getD r).marker := by
  cases between with
  | nil => rfl
  | cons r' between => rfl

/-- **A step keeps a call sound.** -/
theorem Sound.step {log : List Remembered} {h : Handler} (hs : h.Sound log) (d : Disk) :
    (h.step d log).2.Sound (h.step d log).1 := by
  cases h with
  | called c => exact sound_firstStep d log c
  | computed c a r =>
    -- what the call shows has just been remembered, and nothing since
    refine ⟨hs, ?_⟩
    intro r' hr'
    obtain rfl := Option.some.inj hr'
    exact ⟨[], log, rfl⟩
  | rendering x =>
    refine ⟨hs.1, ?_, ?_⟩
    · intro hnone
      exact Shown.text_of_isMalformed (hs.1.malformed hnone) _
    · -- the marker is read now, from a log that others may have extended
      intro r hr
      obtain ⟨between, early, hlog⟩ := hs.2 r hr
      refine ⟨[], between, early, hlog, ?_⟩
      show x.text _ = _
      rw [hlog, marker_of_append]
  | answered x text => exact hs
  | ended c reply => trivial

/-- A step remembers something or nothing, and forgets nothing. -/
theorem exists_append_step (d : Disk) (log : List Remembered) (h : Handler) :
    ∃ more, (h.step d log).1 = more ++ log := by
  cases h with
  | computed c a r => exact ⟨[r], rfl⟩
  | _ => exact ⟨[], rfl⟩

/-- A handler stays with its call. -/
@[simp] theorem call_firstStep (d : Disk) (s : Session) (c : ToolCall) :
    (firstStep d s c).call = c := by
  unfold firstStep beginAnalysis beginSearch
  repeat' split
  all_goals rfl

@[simp] theorem call_step (d : Disk) (log : List Remembered) (h : Handler) :
    (h.step d log).2.call = h.call := by
  cases h with
  | called c => exact call_firstStep d _ c
  | _ => rfl

end Handler

namespace Server

/-- **Sound calls in progress.** -/
structure Sound (v : Server) (calls : List ToolCall) : Prop where
  calls_eq : v.calls.map Handler.call = calls
  sound : ∀ h ∈ v.calls, h.Sound v.log

/-- A server that has just started is sound: all its calls are waiting. -/
theorem sound_start (log : List Remembered) (calls : List ToolCall) :
    (start log calls).Sound calls where
  calls_eq := by
    show (calls.map Handler.called).map Handler.call = calls
    rw [List.map_map]
    exact List.map_id calls
  sound := by
    intro h hh
    obtain ⟨c, -, rfl⟩ := List.mem_map.mp hh
    trivial

/-- A step keeps all calls sound, that of the others as well. -/
theorem Sound.step {v : Server} {calls : List ToolCall} (hv : v.Sound calls) (i : Nat) (d : Disk) :
    (v.step i d).Sound calls := by
  cases hi : v.calls[i]? with
  | none =>
    rw [Server.step, hi]
    exact hv
  | some h =>
    rw [step_of_getElem? hi]
    constructor
    · have hcall : (v.calls.map Handler.call)[i]? = some h.call := by
        rw [List.getElem?_map, hi]
        rfl
      obtain ⟨hlt, hget⟩ := List.getElem?_eq_some_iff.mp hcall
      show (v.calls.set i _).map Handler.call = calls
      rw [List.map_set, Handler.call_step, ← hget, List.set_getElem_self]
      exact hv.calls_eq
    · intro h' hh'
      rcases List.mem_or_eq_of_mem_set hh' with hother | rfl
      · obtain ⟨more, hmore⟩ := Handler.exists_append_step d v.log h
        show h'.Sound (h.step d v.log).1
        rw [hmore]
        exact (hv.sound h' hother).append more
      · exact (hv.sound h (List.mem_of_getElem? hi)).step d

/-- **Every schedule keeps all calls sound.** -/
theorem Sound.run {v : Server} {calls : List ToolCall} (hv : v.Sound calls)
    (schedule : List (Nat × Disk)) : (v.run schedule).Sound calls := by
  induction schedule generalizing v with
  | nil => exact hv
  | cons e schedule ih => exact ih (hv.step e.1 e.2)

end Server

/-- **Every answer shows one analysis,** in every schedule. It is what the call asks for of an
analysis that was remembered as a whole, which is that of the call itself if it analyses. The answer
is marked with the marker of the analysis that was remembered last between this one and the
rendering, or of this one if there was none: so it is marked as it should be if these have the same
marker. A malformed query marks nothing. -/
theorem responses_show_one_analysis {log : List Remembered} {calls : List ToolCall}
    {schedule : List (Nat × Disk)} {i : Nat} {x : Shown} {text : String}
    (h : ((Server.start log calls).run schedule).calls[i]? = some (.answered x text)) :
    calls[i]? = some x.call ∧ x.IsGenuine ∧
      (x.source = none → text = x.result.toJson.render) ∧
      ∀ r, x.source = some r → ∃ late between early,
        ((Server.start log calls).run schedule).log = late ++ (between ++ r :: early) ∧
        text = x.text (between.head?.getD r).marker ∧
        ((∀ r' ∈ between, r'.marker = r.marker) → text = x.text r.marker) := by
  have hsound := (Server.sound_start log calls).run schedule
  obtain ⟨hgenuine, hplain, hmarked⟩ := hsound.sound _ (List.mem_of_getElem? h)
  refine ⟨?_, hgenuine, hplain, ?_⟩
  · rw [← hsound.calls_eq, List.getElem?_map, h]
    rfl
  · intro r hr
    obtain ⟨late, between, early, hlog, htext⟩ := hmarked r hr
    refine ⟨late, between, early, hlog, htext, ?_⟩
    intro hsame
    rw [htext]
    -- the marker is that of the last one remembered in between, and that of the call itself if
    -- there is none
    cases between with
    | nil => rfl
    | cons r' between =>
      show x.text r'.marker = _
      rw [hsame r' List.mem_cons_self]

/-! ### Two projects with different markers -/

/-- A call that analyses a directory. -/
def analysisOf (root : String) (q : Query) : ToolCall :=
  { tool := ToolCall.analyzeTool, arguments := { root := some root, query := q } }

/-- A call that searches what is remembered. -/
def searchFor (q : Query) : ToolCall :=
  { tool := ToolCall.searchTool, arguments := { query := q } }

/-- The first project is analysed and searched, and the second one is analysed. -/
def overlappingCalls : List ToolCall :=
  [analysisOf "one" { term := "load" }, searchFor { term := "load" }, analysisOf "two" {}]

/-- A schedule of three calls: the last one remembers an analysis when what the other two show is
known and not yet rendered. -/
def overlappingSteps (d : Disk) : List (Nat × Disk) :=
  [(0, d), (0, d), (1, d), (2, d), (2, d), (0, d), (1, d)]

/-- **In this schedule the last call gives the others its marker,** whatever is analysed. -/
theorem run_overlappingSteps {d : Disk} {c₀ c₁ c₂ : ToolCall} {a a₁ a₂ : Analysis}
    {r r₂ : Remembered} (h₀ : Handler.firstStep d ⟨none⟩ c₀ = .computed c₀ a r)
    (h₁ : Handler.firstStep d ⟨some r⟩ c₁ = .rendering ⟨c₁, a₁, some r⟩)
    (h₂ : Handler.firstStep d ⟨some r⟩ c₂ = .computed c₂ a₂ r₂) :
    (Server.start [] [c₀, c₁, c₂]).run (overlappingSteps d) =
      { log := [r₂, r]
        calls := [.answered ⟨c₀, a, some r⟩ (Shown.text ⟨c₀, a, some r⟩ r₂.marker),
          .answered ⟨c₁, a₁, some r⟩ (Shown.text ⟨c₁, a₁, some r⟩ r₂.marker),
          .rendering ⟨c₂, a₂, some r₂⟩] } := by
  have hfirst : (Server.start [] [c₀, c₁, c₂]).step 0 d =
      ⟨[], [.computed c₀ a r, .called c₁, .called c₂]⟩ := by
    show Server.mk [] [Handler.firstStep d ⟨none⟩ c₀, .called c₁, .called c₂] = _
    rw [h₀]
  have hsecond : Server.step ⟨[r], [.rendering ⟨c₀, a, some r⟩, .called c₁, .called c₂]⟩ 1 d =
      ⟨[r], [.rendering ⟨c₀, a, some r⟩, .rendering ⟨c₁, a₁, some r⟩, .called c₂]⟩ := by
    show Server.mk [r] [_, Handler.firstStep d ⟨some r⟩ c₁, .called c₂] = _
    rw [h₁]
  have hthird : Server.step
      ⟨[r], [.rendering ⟨c₀, a, some r⟩, .rendering ⟨c₁, a₁, some r⟩, .called c₂]⟩ 2 d =
      ⟨[r], [.rendering ⟨c₀, a, some r⟩, .rendering ⟨c₁, a₁, some r⟩, .computed c₂ a₂ r₂]⟩ := by
    show Server.mk [r] [_, _, Handler.firstStep d ⟨some r⟩ c₂] = _
    rw [h₂]
  have hremember : ∀ calls, Server.step ⟨[], .computed c₀ a r :: calls⟩ 0 d =
      ⟨[r], .rendering ⟨c₀, a, some r⟩ :: calls⟩ := fun _ => rfl
  have hremember' : ∀ h h', Server.step ⟨[r], [h, h', .computed c₂ a₂ r₂]⟩ 2 d =
      ⟨[r₂, r], [h, h', .rendering ⟨c₂, a₂, some r₂⟩]⟩ := fun _ _ => rfl
  -- only now the first two are rendered
  have hrender : ∀ x h h', Server.step ⟨[r₂, r], [.rendering x, h, h']⟩ 0 d =
      ⟨[r₂, r], [.answered x (x.text r₂.marker), h, h']⟩ := fun _ _ _ => rfl
  have hrender' : ∀ y h h', Server.step ⟨[r₂, r], [h, .rendering y, h']⟩ 1 d =
      ⟨[r₂, r], [h, .answered y (y.text r₂.marker), h']⟩ := fun _ _ _ => rfl
  rw [overlappingSteps, Server.run_cons, hfirst, Server.run_cons, hremember, Server.run_cons,
    hsecond, Server.run_cons, hthird, Server.run_cons, hremember', Server.run_cons, hrender,
    Server.run_cons, hrender']
  rfl

/-- What is remembered of the first project. -/
def loadResult : Analysis :=
  { fileTypes := [(".js", 1)]
    outline := .node "one" ["a.js"] []
    findings := (Findings.report {} .javascript
      [.function { name := "load", filePath := "/one/a.js", parameters := [] }]
      (Filter.all "**")).value }

theorem outcome_analyze_one :
    (analyze twoProjects (Path.ofString "one") {} (some {})).outcome = .ok loadResult := by
  have hpath : Path.ofString "one" = ⟨.relative, ["one"]⟩ := by decide +kernel
  have hp : twoProjects.directory? ⟨.relative, ["one"]⟩ =
      some (⟨.absolute, ["one"]⟩, plainProject) := rfl
  have hpresent : presentIn plainProject {} = [.javascript] := by decide +kernel
  -- the project has one file and one function
  have hread : extracted .javascript ⟨.absolute, ["one"]⟩
      (batchFiles plainProject {} {} .javascript) =
        ([.function { name := "load", filePath := "/one/a.js", parameters := [] }], []) := by
    decide +kernel
  have htypes : Inventory.histogram (plainProject.walk []) "" "" = [(".js", 1)] := by
    decide +kernel
  have houtline : (twoProjects.outline ⟨.absolute, ["one"]⟩ ["bin", "obj"]).value =
      .node "one" ["a.js"] [] := by
    change Outline.ofDirectory ["bin", "obj"] "one" plainProject = _
    rw [Outline.ofDirectory, Entry.ordered_of_isOrdered _ (by decide)]
    rfl
  rw [hpath, outcome_analyze_of_single hp hpresent (by decide) rfl, hread]
  show Except.ok (Analysis.mk (Inventory.histogram (plainProject.walk []) "" "")
    (twoProjects.outline ⟨.absolute, ["one"]⟩ ["bin", "obj"]).value _ (sortedDistinct [])) = _
  have hfailed : sortedDistinct [] = [] := by decide +kernel
  rw [htypes, houtline, hfailed]
  rfl

/-- The analysis of the first project comes with the marker that is taken where none is set. -/
theorem computed_one :
    ∃ a r, Session.computed twoProjects (Path.ofString "one") { query := { term := "load" } } none =
        .ok (a, some r) ∧ r.marker = "**" ∧
      (a.marked { term := "load" } "#").toJson.render ≠
        (a.marked { term := "load" } "**").toJson.render := by
  have hs : settingsOr none twoProjects (Path.ofString "one") = .ok {} := by
    have hcontent :
        twoProjects.content? ((Path.ofString "one").child Settings.fileName) = none := by
      decide +kernel
    rw [settingsOr, Settings.load, Settings.loadBy, hcontent]
    rfl
  have hc : Session.computed twoProjects (Path.ofString "one") { query := { term := "load" } }
      none = _ :=
    Session.computed_of_compiles hs rfl
  rw [outcome_analyze_given hs, outcome_analyze_one] at hc
  refine ⟨_, _, hc, rfl, ?_⟩
  decide +kernel

/-- The analysis of the second project comes with the marker that is set there. -/
theorem computed_two :
    ∃ a r, Session.computed twoProjects (Path.ofString "two") {} none = .ok (a, some r) ∧
      r.marker = "#" := by
  obtain ⟨result, hresult, -⟩ := exists_analysis_two (q := {}) rfl
  have hc : Session.computed twoProjects (Path.ofString "two") {} none = _ :=
    Session.computed_of_compiles settingsOr_two rfl
  rw [hresult] at hc
  exact ⟨_, _, hc, rfl⟩

theorem firstStep_analysisOf {d : Disk} {root : String} {q : Query} {a : Analysis} {r : Remembered}
    (h : Session.computed d (Path.ofString root) { query := q } none = .ok (a, some r))
    (s : Session) :
    Handler.firstStep d s (analysisOf root q) = .computed (analysisOf root q) a r := by
  rw [analysisOf, Handler.firstStep_analyzeTool]
  unfold Handler.beginAnalysis
  show (match Session.computed d (Path.ofString root) { query := q } none with
    | .error (.projectNotFound path) => _
    | .error f => _
    | .ok (a, none) => _
    | .ok (a, some r) => _) = _
  rw [h]

/-- A search with a sound query renders what the front of the log has, filtered again. -/
theorem firstStep_searchFor {r : Remembered} {q : Query} {filter : Filter}
    (hf : Filter.compile q r.marker = .ok filter) (d : Disk) :
    Handler.firstStep d ⟨some r⟩ (searchFor q) =
      .rendering ⟨searchFor q, (r.result.refilter filter).value, some r⟩ := by
  rw [searchFor, Handler.firstStep_searchTool, Handler.beginSearch]
  show (match (Session.refilter ⟨some r⟩ q).outcome with
    | .error .sessionEmpty => _
    | .error (.invalidPattern term fault) => _
    | .error f => _
    | .ok a => _) = _
  rw [Session.outcome_refilter rfl hf]

/-- What becomes of the calls on the two projects. -/
theorem exists_run_overlapping :
    ∃ a r r₂ h,
      (Server.start [] overlappingCalls).run (overlappingSteps twoProjects) =
        { log := [r₂, r]
          calls :=
            [.answered ⟨analysisOf "one" { term := "load" }, a, some r⟩
                (a.marked { term := "load" } "#").toJson.render,
              .answered ⟨searchFor { term := "load" }, a, some r⟩
                (a.marked { term := "load" } "#").toJson.render, h] } ∧
      r.marker = "**" ∧ r₂.marker = "#" ∧
      (a.marked { term := "load" } "#").toJson.render ≠
        (a.marked { term := "load" } "**").toJson.render := by
  obtain ⟨a, r, hone, hmarker, hne⟩ := computed_one
  obtain ⟨a₂, r₂, htwo, hmarker₂⟩ := computed_two
  have hgenuine : Shown.IsGenuine ⟨analysisOf "one" { term := "load" }, a, some r⟩ :=
    Handler.isGenuine_of_computed rfl hone
  -- the search narrows what was remembered as the analysis itself did
  obtain ⟨filter, hf, rfl⟩ := hgenuine.narrowed r rfl
  have hrun := run_overlappingSteps (firstStep_analysisOf hone _)
    (firstStep_searchFor hf twoProjects) (firstStep_analysisOf htwo _)
  rw [hmarker₂] at hrun
  exact ⟨_, r, r₂, _, hrun, hmarker, hmarker₂, hne⟩

/-- The first call shows its own analysis, and another one was remembered before it was rendered. -/
theorem responses_show_one_analysis_overlapping :
    ∃ x text r, ((Server.start [] overlappingCalls).run (overlappingSteps twoProjects)).calls[0]? =
        some (.answered x text) ∧
      x.source = some r ∧ x.IsGenuine ∧ ∃ late between early,
        ((Server.start [] overlappingCalls).run (overlappingSteps twoProjects)).log =
          late ++ (between ++ r :: early) ∧
        text = x.text (between.head?.getD r).marker := by
  obtain ⟨a, r, r₂, h, hrun, -⟩ := exists_run_overlapping
  have hfirst := congrArg (fun v : Server => v.calls[0]?) hrun
  obtain ⟨-, hgenuine, -, hmarked⟩ := responses_show_one_analysis hfirst
  obtain ⟨late, between, early, hlog, htext, -⟩ := hmarked r rfl
  exact ⟨_, _, r, hfirst, rfl, hgenuine, late, between, early, hlog, htext⟩

/-- **Calls that overlap mix their markers.** What the first two calls show was remembered together
with one marker, and is marked with that of a project that they have nothing to do with. -/
theorem overlapping_calls_mix_markers :
    ∃ x y r text,
      ((Server.start [] overlappingCalls).run (overlappingSteps twoProjects)).calls[0]? =
        some (.answered x text) ∧
      ((Server.start [] overlappingCalls).run (overlappingSteps twoProjects)).calls[1]? =
        some (.answered y text) ∧
      x.source = some r ∧ y.source = some r ∧ r.marker = "**" ∧
      text = x.text "#" ∧ text ≠ x.text r.marker ∧ text ≠ y.text r.marker := by
  obtain ⟨a, r, r₂, h, hrun, hmarker, -, hne⟩ := exists_run_overlapping
  refine ⟨_, _, r, _, congrArg (fun v : Server => v.calls[0]?) hrun,
    congrArg (fun v : Server => v.calls[1]?) hrun, rfl, rfl, hmarker, rfl, ?_, ?_⟩
  · rw [hmarker]
    exact hne
  · rw [hmarker]
    exact hne

end SourceAtlas
