import SourceAtlas.Proofs.Session.Commit
import SourceAtlas.Tools

/-!
# What a tool call answers and changes

Programs reach a session through two tools: one analyses a directory, the other narrows what the
session remembers. A call answers with a text, also when something went wrong, and leaves the
session with what the analysis commits, if it was one. So a session after some calls remembers what
the last analysis committed that succeeded with a query that compiles.

* `ToolCall.outcome_run_analyzeTool`, `ToolCall.outcome_run_searchTool` — what the tools answer;
* `ToolCall.afterCall_eq_commit` — what a call changes;
* `ToolCall.Succeeds`, `ToolCall.kept_eq_none_iff` — the calls that change something.
-/

namespace SourceAtlas

/-! ### Answers -/

namespace ToolArguments

/-- The request that the arguments of a call make. -/
def request (arguments : ToolArguments) : Request :=
  { query := arguments.query, extensions := arguments.extensions, exclude := arguments.exclude }

end ToolArguments

/-- The arguments that ask a tool for a request. -/
def Request.toolArguments (request : Request) (root : String) : ToolArguments :=
  { root := some root
    query := request.query
    extensions := request.extensions
    exclude := request.exclude }

@[simp] theorem request_toolArguments (request : Request) (root : String) :
    (request.toolArguments root).request = request := rfl

namespace ToolCall

variable {s : Session} {d : Disk} {arguments : ToolArguments} {root : String}

/-- The first tool answers with the analysis, marked as the session says that it leaves; a failure
is an answer too. -/
theorem outcome_run_analyzeTool (hroot : arguments.root = some root) :
    (run s d { tool := analyzeTool, arguments }).outcome =
      .ok (match (s.analyze d (Path.ofString root) arguments.request none).outcome with
        | .error (.projectNotFound path) =>
          ("Error: " ++ (Failure.projectNotFound path).message, s)
        | .error f => ("Unexpected error: " ++ f.message, s)
        | .ok (a, s') => (answer s' a arguments.query, s')) := by
  have hrun : (run s d { tool := analyzeTool, arguments }).outcome =
      .ok (analyze s d arguments).value := by
    unfold run
    rw [if_pos rfl]
    rfl
  rw [hrun]
  unfold analyze
  rw [hroot]
  simp only [Logged.value_bind]
  -- the tool turns every failure into a text
  change Except.ok (Logged.value
    (match (s.analyze d (Path.ofString root) arguments.request none).outcome with
    | .error (.projectNotFound path) => _
    | .error f => _
    | .ok (a, s') => _)) = _
  cases (s.analyze d (Path.ofString root) arguments.request none).outcome with
  | error f => cases f <;> rfl
  | ok r => rfl

theorem outcome_run_analyzeTool_of_none (hroot : arguments.root = none) :
    (run s d { tool := analyzeTool, arguments }).outcome =
      .ok ("Unexpected error: " ++ (Failure.missingArgument "root").message, s) := by
  unfold run
  rw [if_pos rfl]
  unfold analyze
  rw [hroot]
  rfl

theorem searchTool_ne_analyzeTool : searchTool ≠ analyzeTool := by
  decide +kernel

/-- The second tool narrows what the session remembers, and leaves the session as it is. -/
theorem outcome_run_searchTool :
    (run s d { tool := searchTool, arguments }).outcome =
      match (s.refilter arguments.query).outcome with
      | .error .sessionEmpty => .ok (Failure.message .sessionEmpty, s)
      | .error (.invalidPattern term fault) =>
        .ok ("Error: " ++ (Failure.invalidPattern term fault).message, s)
      | .error f => .error f
      | .ok a => .ok (answer s a arguments.query, s) := by
  have hrun : (run s d { tool := searchTool, arguments }).outcome =
      (search s arguments.query).outcome.map fun text => (text, s) := by
    unfold run
    rw [if_neg searchTool_ne_analyzeTool, if_pos rfl, Run.outcome_bind]
    rfl
  -- the search tool turns two failures into texts and passes the others on
  have hsearch : (search s arguments.query).outcome =
      match (s.refilter arguments.query).outcome with
      | .error .sessionEmpty => .ok (Failure.message .sessionEmpty)
      | .error (.invalidPattern term fault) =>
        .ok ("Error: " ++ (Failure.invalidPattern term fault).message)
      | .error f => .error f
      | .ok a => .ok (answer s a arguments.query) := by
    unfold search
    change Logged.value (match (s.refilter arguments.query).outcome with
      | .error .sessionEmpty => _
      | .error (.invalidPattern term fault) => _
      | .error f => _
      | .ok a => _) = _
    cases (s.refilter arguments.query).outcome with
    | error f => cases f <;> rfl
    | ok a => rfl
  rw [hrun, hsearch]
  cases (s.refilter arguments.query).outcome with
  | error f => cases f <;> rfl
  | ok a => rfl

/-- There are no other tools. -/
theorem outcome_run_of_unknown {tool : String} (hanalyze : tool ≠ analyzeTool)
    (hsearch : tool ≠ searchTool) :
    (run s d { tool, arguments }).outcome = .error (.unknownTool tool) := by
  unfold run
  rw [if_neg hanalyze, if_neg hsearch]
  rfl

end ToolCall

/-! ### Changes -/

namespace ToolCall

/-- The session after a call at the time when a disk is as it is. -/
def afterCall (s : Session) (d : Disk) (c : ToolCall) : Session :=
  match (run s d c).outcome with
  | .ok (_, s') => s'
  | .error _ => s

/-- What a call commits. -/
def kept (d : Disk) (c : ToolCall) : Option Remembered :=
  if c.tool = analyzeTool then
    c.arguments.root.bind fun root =>
      Session.kept d (Path.ofString root) c.arguments.request none
  else none

/-- **A call commits what its analysis commits,** whatever it answers. -/
theorem afterCall_eq_commit (s : Session) (d : Disk) (c : ToolCall) :
    afterCall s d c = s.commit (c.kept d) := by
  obtain ⟨tool, arguments⟩ := c
  unfold afterCall kept
  -- only the tool for analysis has anything to leave
  by_cases htool : tool = analyzeTool
  · subst htool
    rw [if_pos rfl]
    cases hroot : arguments.root with
    | none =>
      rw [outcome_run_analyzeTool_of_none hroot]
      rfl
    | some root =>
      rw [outcome_run_analyzeTool hroot, Session.outcome_analyze_eq_commit]
      change _ = s.commit (Session.kept d (Path.ofString root) arguments.request none)
      unfold Session.kept
      cases Session.computed d (Path.ofString root) arguments.request none with
      | error f => cases f <;> rfl
      | ok r => rfl
  · rw [if_neg htool, Session.commit_none]
    by_cases hsearch : tool = searchTool
    · subst hsearch
      rw [outcome_run_searchTool]
      cases (s.refilter arguments.query).outcome with
      | error f => cases f <;> rfl
      | ok a => rfl
    · rw [outcome_run_of_unknown htool hsearch]

/-- **A call of the first tool that succeeds** with a query that compiles. -/
def Succeeds (d : Disk) (c : ToolCall) : Prop :=
  c.tool = analyzeTool ∧ ∃ root, c.arguments.root = some root ∧ c.arguments.query.Compiles ∧
    ∃ a, (SourceAtlas.analyze d (Path.ofString root) c.arguments.request none).outcome = .ok a

/-- **The calls that commit something** are those that succeed with a query that compiles. -/
theorem exists_kept_iff {d : Disk} {c : ToolCall} : (∃ r, c.kept d = some r) ↔ c.Succeeds d := by
  unfold kept Succeeds
  by_cases htool : c.tool = analyzeTool
  · rw [if_pos htool]
    cases hroot : c.arguments.root with
    | none => exact iff_of_false (fun ⟨_, h⟩ => nomatch h) fun ⟨_, _, h, _⟩ => nomatch h
    | some root =>
      have hcommits : (∃ r, Session.kept d (Path.ofString root) c.arguments.request none = some r) ↔
          c.arguments.query.Compiles ∧
            ∃ a, (SourceAtlas.analyze d (Path.ofString root) c.arguments.request none).outcome =
              .ok a := by
        simp only [Session.kept_eq_some_iff]
        exact Session.exists_records_iff_of_compiles
      refine hcommits.trans ⟨fun h => ⟨htool, root, rfl, h⟩, ?_⟩
      rintro ⟨-, root', hroot', h⟩
      obtain rfl := Option.some.inj hroot'
      exact h
  · rw [if_neg htool]
    exact iff_of_false (fun ⟨_, h⟩ => nomatch h) fun h => htool h.1

/-- A call leaves something to be remembered just when it succeeds. -/
theorem kept_eq_none_iff {d : Disk} {c : ToolCall} : c.kept d = none ↔ ¬c.Succeeds d := by
  rw [← exists_kept_iff, ← Option.ne_none_iff_exists', not_not]

end ToolCall

end SourceAtlas
