import SourceAtlas.Proofs.Disk.Walk
import SourceAtlas.Proofs.Session.Calls

/-!
# The front ends agree

A directory can be analysed from the command line, by a tool, and by a second tool that searches
what the first one had a session remember. Each route makes its query on its own and takes the
marker from another place: from the settings it loaded, from what its own analysis committed, from
what an earlier call committed. They show the same text, since all of them show the analysis under
the query with its matches marked as the settings of the directory say.

* `Request.arguments`, `parse?_arguments` — a request as it is written on the command line;
* `value_run_of_parse` — what the command line prints of an analysis;
* `LastAnalysed`, `exists_of_lastAnalysed` — what the calls before a search leave behind;
* `front_ends_agree` — the three texts.
-/

namespace SourceAtlas

/-! ### Requests on the command line -/

namespace Request

/-- The options that ask for a request in full, to be printed as JSON. -/
def options (request : Request) (isVerbose : Bool) : Options :=
  { search := request.query.term
    regex := some request.query.useRegex
    caseSensitive := some request.query.caseSensitive
    highlight := some request.query.highlightMatches
    extensions := request.extensions
    exclude := request.exclude
    asJson := true
    isVerbose }

/-- **The arguments that ask for a request in full.** Two dashes stand before the directory, so that
it may have any name. -/
def arguments (request : Request) (root : String) : List String :=
  ["analyze", "--search", request.query.term,
    if request.query.useRegex then "--regex" else "--no-regex",
    if request.query.caseSensitive then "--case-sensitive" else "--ignore-case",
    if request.query.highlightMatches then "--highlight" else "--no-highlight",
    "--extensions", request.extensions, "--exclude", request.exclude, "--json", "--", root]

/-- Options that ask for a request in full make its query, whatever the settings are. -/
@[simp] theorem query_options (request : Request) (isVerbose : Bool) (settings : Settings) :
    (request.options isVerbose).query settings = request.query := rfl

end Request

namespace Options

/-- An argument that is an option: more than a dash, and not the end of the options. -/
def IsOption (arg : String) : Prop :=
  arg ≠ "--" ∧ (arg.length ≤ 1 || arg.toList.head? != some '-') = false

instance (arg : String) : Decidable (IsOption arg) :=
  inferInstanceAs (Decidable (_ ∧ _))

variable {o : Options} {others args : List String}

/-- One option is read by itself, and may wait for its value. -/
theorem readAll_cons {arg : String} (harg : IsOption arg) :
    readAll none o others (arg :: args) =
      match readOption? arg.toList with
      | some (.done set) => readAll none (set o) others args
      | some (.needs set) => readAll (some set) o others args
      | none => none := by
  have hdash : ¬(arg.length ≤ 1 || arg.toList.head? != some '-') = true := by
    rw [harg.2]
    exact Bool.false_ne_true
  exact (if_neg harg.1).trans (if_neg hdash)

/-- An option that stands alone. -/
theorem readAll_flag {arg : String} {f : Options → Options} (harg : IsOption arg)
    (h : readOption? arg.toList = some (.done f)) :
    readAll none o others (arg :: args) = readAll none (f o) others args := by
  rw [readAll_cons harg, h]

/-- An option that takes a value is read with the next argument, whatever this is. -/
theorem readAll_valued {arg value : String} {f : String → Options → Options} (harg : IsOption arg)
    (h : readOption? arg.toList = some (.needs f)) :
    readAll none o others (arg :: value :: args) = readAll none (f value o) others args := by
  rw [readAll_cons harg, h]
  rfl

/-- One of two options that say yes and no to the same question. -/
theorem readAll_switch {yes no : String} {f : Bool → Options → Options} (b : Bool)
    (hyes : IsOption yes ∧ readOption? yes.toList = some (.done (f true)))
    (hno : IsOption no ∧ readOption? no.toList = some (.done (f false))) :
    readAll none o others ((if b then yes else no) :: args) = readAll none (f b o) others args := by
  cases b with
  | true => exact readAll_flag hyes.1 hyes.2
  | false => exact readAll_flag hno.1 hno.2

/-- Nothing is an option behind two dashes. -/
theorem readAll_end : readAll none o others ("--" :: args) = some (o, others.reverse ++ args) := by
  rw [readAll, if_pos rfl]

end Options

/-- **The arguments are read as they are meant.** -/
theorem parse?_arguments (request : Request) (root : String) :
    Command.parse? (request.arguments root) =
      some (.analyze root (request.options false)) := by
  -- the arguments are read from left to right, each option with its value
  have hread : Options.readAll none {} [] (request.arguments root).tail =
      some (request.options false, [root]) := by
    change Options.readAll none {} [] ("--search" :: _ :: _) = _
    rw [Options.readAll_valued (by decide +kernel) rfl,
      Options.readAll_switch (f := fun b o => { o with regex := some b }) _
        ⟨by decide +kernel, rfl⟩ ⟨by decide +kernel, rfl⟩,
      Options.readAll_switch (f := fun b o => { o with caseSensitive := some b }) _
        ⟨by decide +kernel, rfl⟩ ⟨by decide +kernel, rfl⟩,
      Options.readAll_switch (f := fun b o => { o with highlight := some b }) _
        ⟨by decide +kernel, rfl⟩ ⟨by decide +kernel, rfl⟩,
      Options.readAll_valued (by decide +kernel) rfl,
      Options.readAll_valued (by decide +kernel) rfl,
      Options.readAll_flag (by decide +kernel) rfl, Options.readAll_end]
    rfl
  have hparse : Command.parse? (request.arguments root) =
      Command.analyze? (request.arguments root).tail := rfl
  rw [hparse, Command.analyze?, hread]

/-! ### What the command line prints -/

section CommandLine

variable {d : Disk} {root : String} {request : Request} {settings : Settings} {a : Analysis}

/-- The command line analyses with a session of its own, under the settings it has loaded. -/
theorem value_run_of_parse {args : List String} {isVerbose : Bool} {s : Session}
    (hparse : Command.parse? args = some (.analyze root (request.options isVerbose)))
    (hs : settingsOr none d (Path.ofString root) = .ok settings)
    (ha : (Session.analyze {} d (Path.ofString root) request (some settings)).outcome =
      .ok (a, s)) :
    (Command.run d args).value =
      { exitCode := 0
        output := (a.marked request.query settings.highlightMarker).toJson.render ++ "\n" } := by
  have ha' : (Session.analyze {} d (Path.ofString root) request (some settings)).run.value =
      .ok (a, s) := ha
  unfold Command.run
  rw [hparse]
  change ((request.options isVerbose).run d (Path.ofString root)).value = _
  unfold Options.run
  rw [hs]
  simp only [Request.query_options, Logged.value_bind]
  have hrequest : Request.mk request.query (request.options isVerbose).extensions
      (request.options isVerbose).exclude = request := rfl
  rw [hrequest, ha']
  rfl

end CommandLine

/-! ### What is marked -/

/-- A malformed query marks nothing, whatever the marker is. -/
theorem Analysis.marked_of_isMalformed {q : Query} (hq : q.IsMalformed) (a : Analysis)
    (marker : String) : a.marked q marker = a := by
  obtain ⟨fault, hf⟩ := hq.exists_fault marker
  unfold marked
  rw [hf]
  split
  · rfl
  · rfl

theorem Session.marker_of_last {s : Session} {r : Remembered} (h : s.last = some r) :
    s.marker = r.marker := by
  rw [marker, h]
  rfl

/-! ### What the calls before a search leave behind -/

/-- The session after some calls, each at its own time. -/
def Session.afterCalls (s : Session) (calls : List (Disk × ToolCall)) : Session :=
  calls.foldl (fun s e => ToolCall.afterCall s e.1 e.2) s

/-- **Calls of which the last that succeeded with a query that compiles** was on a disk, a directory
of it, and the filter and the exclusion of a request. The path of the directory may have been
another, and so may the query. Whatever was called then has failed, or was malformed, or was a
search. -/
def LastAnalysed (calls : List (Disk × ToolCall)) (d : Disk) (p : Path) (request : Request) :
    Prop :=
  ∃ before c later root, calls = before ++ (d, c) :: later ∧ c.Succeeds d ∧
    (∀ e ∈ later, ¬e.2.Succeeds e.1) ∧
    c.arguments.root = some root ∧ d.directory? (Path.ofString root) = d.directory? p ∧
    c.arguments.extensions = request.extensions ∧ c.arguments.exclude = request.exclude

/-- What is remembered of a directory does not depend on the path by which it was reached. -/
theorem Remembered.Records.of_directory {r : Remembered} {d : Disk} {p p' root : Path}
    {entry : Entry} {request : Request} {given : Option Settings}
    (h : r.Records d p' request given) (hp : d.directory? p = some (root, entry))
    (hp' : d.directory? p' = some (root, entry)) :
    Records { r with root := p } d p request given where
  compiles := h.compiles
  root := rfl
  query := h.query
  marker := by
    rw [settingsOr_of_directory hp, ← settingsOr_of_directory hp']
    exact h.marker
  result := by
    rw [outcome_analyze_of_directory hp, ← outcome_analyze_of_directory hp']
    exact h.result

/-- **After such calls a session remembers** the directory without a filter, with its marker. -/
theorem exists_of_lastAnalysed {calls : List (Disk × ToolCall)} {d : Disk} {p root : Path}
    {entry : Entry} {request : Request} (h : LastAnalysed calls d p request)
    (hp : d.directory? p = some (root, entry)) (s : Session) :
    ∃ r q, (s.afterCalls calls).last = some r ∧
      Remembered.Records { r with root := p } d p { request with query := q } none := by
  obtain ⟨before, c, later, root', rfl, hc, hlater, hroot, hsame, hext, hexc⟩ := h
  obtain ⟨r, hr⟩ := ToolCall.exists_kept_iff.mpr hc
  -- later calls leave nothing to be remembered, so this one is remembered
  have hlast : s.afterCalls (before ++ (d, c) :: later) = ⟨some r⟩ := by
    have hstep : ∀ (s : Session) (e : Disk × ToolCall),
        ToolCall.afterCall s e.1 e.2 = s.commit (e.2.kept e.1) :=
      fun s e => ToolCall.afterCall_eq_commit s e.1 e.2
    refine Session.foldl_of_split hstep s hr ?_
    intro e he
    exact ToolCall.kept_eq_none_iff.mpr (hlater e he)
  have hrecords : r.Records d (Path.ofString root') c.arguments.request none := by
    rw [ToolCall.kept, if_pos hc.1, hroot] at hr
    exact Session.kept_eq_some_iff.mp hr
  refine ⟨r, c.arguments.query, by rw [hlast], ?_⟩
  rw [← hext, ← hexc]
  exact hrecords.of_directory hp (hsame.trans hp)

/-! ### The three routes -/

section Routes

variable {d : Disk} {p : Path} {request : Request} {given : Option Settings} {a : Analysis}

/-- Where an analysis succeeds, so does that of every session. -/
theorem exists_session_outcome (hq : request.query.Compiles ∨ request.query.IsMalformed)
    (ha : (analyze d p request given).outcome = .ok a) (s : Session) :
    ∃ s', (s.analyze d p request given).outcome = .ok (a, s') := by
  have hsame := outcome_session_analyze s d p request given hq
  rw [ha] at hsame
  cases hs : (s.analyze d p request given).outcome with
  | error f =>
    rw [hs] at hsame
    cases hsame
  | ok result =>
    rw [hs] at hsame
    obtain rfl : result.1 = a := Except.ok.inj hsame
    exact ⟨result.2, rfl⟩

/-- The first tool marks matches as the settings of the directory say. A malformed query leaves the
session with the marker of another directory, but marks nothing. -/
theorem marked_after_analyze {s s' : Session} {settings : Settings}
    (hq : request.query.Compiles ∨ request.query.IsMalformed)
    (hs : settingsOr given d p = .ok settings)
    (ha : (s.analyze d p request given).outcome = .ok (a, s')) :
    a.marked request.query s'.marker = a.marked request.query settings.highlightMarker := by
  rcases hq with hq | hq
  · obtain ⟨settings', r, hs', hlast, hmarker, -⟩ := session_remembers s d p request given hq ha
    obtain rfl := Except.ok.inj (hs.symm.trans hs')
    rw [Session.marker_of_last hlast, hmarker]
  · rw [a.marked_of_isMalformed hq, a.marked_of_isMalformed hq]

end Routes

/-- **The front ends agree.** Where the analysis of a directory succeeds, the command line prints
it, with all options given, and the first tool answers with it, whatever its session remembers: the
same text, in which matches are marked as the settings of the directory say. If the query compiles
and the last analysis that was remembered was one of the same files, then the second tool answers
with this text as well. -/
theorem front_ends_agree {d : Disk} {root : String} {request : Request} {a : Analysis}
    (hq : request.query.Compiles ∨ request.query.IsMalformed)
    (ha : (analyze d (Path.ofString root) request none).outcome = .ok a) :
    ∃ settings text, settingsOr none d (Path.ofString root) = .ok settings ∧
      text = (a.marked request.query settings.highlightMarker).toJson.render ∧
      Command.parse? (request.arguments root) = some (.analyze root (request.options false)) ∧
      (∀ args isVerbose,
        Command.parse? args = some (.analyze root (request.options isVerbose)) →
        (Command.run d args).value = { exitCode := 0, output := text ++ "\n" }) ∧
      (∀ s, ∃ s', (ToolCall.run s d
        { tool := ToolCall.analyzeTool, arguments := request.toolArguments root }).outcome =
          .ok (text, s')) ∧
      (request.query.Compiles → ∀ (s : Session) calls,
        LastAnalysed calls d (Path.ofString root) request →
        ∀ d' arguments, arguments.query = request.query →
          (ToolCall.run (s.afterCalls calls) d'
            { tool := ToolCall.searchTool, arguments }).outcome =
            .ok (text, s.afterCalls calls)) := by
  obtain ⟨place, entry, settings, -, hp, hs, -⟩ := exists_of_outcome_analyze ha
  rw [← settingsOr_of_directory hp] at hs
  refine ⟨settings, _, hs, rfl, parse?_arguments request root, ?_, ?_, ?_⟩
  · intro args isVerbose hparse
    have ha' : (analyze d (Path.ofString root) request (some settings)).outcome = .ok a := by
      rw [← outcome_analyze_given hs, ha]
    obtain ⟨s', hs'⟩ := exists_session_outcome hq ha' {}
    exact value_run_of_parse hparse hs hs'
  · intro s
    obtain ⟨s', hs'⟩ := exists_session_outcome hq ha s
    refine ⟨s', ?_⟩
    have hroot : (request.toolArguments root).root = some root := rfl
    rw [ToolCall.outcome_run_analyzeTool hroot, request_toolArguments, hs']
    change Except.ok ((a.marked request.query s'.marker).toJson.render, s') = _
    rw [marked_after_analyze hq hs hs']
  · intro hcompiles s calls hcalls d' arguments hquery
    obtain ⟨r, q, hlast, hr⟩ := exists_of_lastAnalysed hcalls hp s
    have hmarker : settings.highlightMarker = r.marker := by
      have hmarker := hr.marker
      rw [hs] at hmarker
      exact Except.ok.inj hmarker
    obtain ⟨filter, hf⟩ := hcompiles.exists_filter r.marker
    -- what was remembered, filtered, is the analysis under the query
    obtain rfl : (r.result.refilter filter).value = a := by
      have hagain := hr.outcome_analyze hf
      exact Except.ok.inj (hagain.symm.trans ha)
    rw [ToolCall.outcome_run_searchTool, hquery, Session.outcome_refilter hlast hf]
    change Except.ok
      ((Analysis.marked _ request.query (s.afterCalls calls).marker).toJson.render, _) = _
    rw [Session.marker_of_last hlast, hmarker]

/-! ### Two projects -/

/-- What a project says to have a marker of its own. -/
def markerText : String := "search: \x7bhighlight_marker: '#'\x7d"

/-- A directory with a function. -/
def plainProject : Entry :=
  .directory "one" [.file "a.js" (Text.encode "function load() \x7b \x7d")]

/-- A directory with a function and a marker of its own. -/
def markedProject : Entry :=
  .directory "two"
    [.file Settings.fileName (Text.encode markerText),
      .file "b.js" (Text.encode "function reload() \x7b \x7d")]

/-- The two directories side by side. -/
def twoProjects : Disk :=
  { entries := [plainProject, markedProject] }

theorem walk_markedProject (skip : List String) :
    markedProject.walk skip = [⟨[Settings.fileName], Text.encode markerText⟩,
      ⟨["b.js"], Text.encode "function reload() \x7b \x7d"⟩] := by
  rw [Entry.walk_of_isOrdered (by decide)]
  rfl

theorem histogram_markedProject :
    Inventory.histogram (markedProject.walk []) "" "" = [("(no extension)", 1), (".js", 1)] := by
  rw [walk_markedProject, Inventory.histogram]
  generalize htally : Inventory.tally _ = counts
  obtain rfl : counts = [("(no extension)", 1), (".js", 1)] := by
    rw [← htally]
    decide +kernel
  exact List.mergeSort_of_pairwise (by decide)

theorem directory?_two :
    twoProjects.directory? (Path.ofString "two") = some (⟨.absolute, ["two"]⟩, markedProject) := by
  have hpath : Path.ofString "two" = ⟨.relative, ["two"]⟩ := by decide +kernel
  rw [hpath]
  rfl

theorem settingsOr_two :
    settingsOr none twoProjects (Path.ofString "two") = .ok { highlightMarker := "#" } := by
  decide +kernel

/-- Under every query that compiles, the second project has its function to show. -/
theorem exists_analysis_two {q : Query} {filter : Filter}
    (hf : Filter.compile q "#" = .ok filter) :
    ∃ a, (analyze twoProjects (Path.ofString "two") { query := q } none).outcome = .ok a ∧
      a.findings = (Findings.report {} .javascript
        [.function { name := "reload", filePath := "/two/b.js", parameters := [] }]
        filter).value := by
  have hpresent : presentIn markedProject { query := q } = [.javascript] := by
    rw [presentIn, histogram_markedProject]
    decide +kernel
  have hfiles : batchFiles markedProject { query := q } { highlightMarker := "#" } .javascript =
      [⟨["b.js"], Text.encode "function reload() \x7b \x7d"⟩] := by
    rw [batchFiles, walk_markedProject]
    dsimp only
    decide +kernel
  -- the settings file has no extension of a dialect, so one file is read
  have hread : (extracted .javascript ⟨.absolute, ["two"]⟩
      [⟨["b.js"], Text.encode "function reload() \x7b \x7d"⟩]).1 =
        [.function { name := "reload", filePath := "/two/b.js", parameters := [] }] := by
    decide +kernel
  have ha : (analyze twoProjects (Path.ofString "two") { query := q }
      (some { highlightMarker := "#" })).outcome = .ok _ :=
    outcome_analyze_of_single directory?_two hpresent (by decide) hf
  rw [← outcome_analyze_given settingsOr_two] at ha
  refine ⟨_, ha, ?_⟩
  rw [hfiles, hread]

/-- The second directory is analysed by another path and under another query. Then come an analysis
of the first directory with a malformed pattern, whose marker is not to be taken, and one of a
directory that does not exist. -/
def mixedCalls : List (Disk × ToolCall) :=
  [(twoProjects, { tool := ToolCall.analyzeTool
                   arguments := { root := some "one/../two", query := { term := "re" } } }),
    (twoProjects, { tool := ToolCall.analyzeTool
                    arguments :=
                      { root := some "one", query := { term := "(", useRegex := true } } }),
    (twoProjects, { tool := ToolCall.analyzeTool
                    arguments := { root := some "three" } })]

/-- The last analysis in the sample's calls is that of the second project. -/
theorem lastAnalysed_mixedCalls (q : Query) :
    LastAnalysed mixedCalls twoProjects (Path.ofString "two") { query := q } := by
  have hplace : twoProjects.directory? (Path.ofString "one/../two") =
      some (⟨.absolute, ["two"]⟩, markedProject) := by
    have hpath : Path.ofString "one/../two" = ⟨.relative, ["one", "..", "two"]⟩ := by decide +kernel
    rw [hpath]
    rfl
  have hcompiles : Query.Compiles { term := "re" } := by decide +kernel
  have hfirst : ∃ a, (analyze twoProjects (Path.ofString "one/../two") { query := { term := "re" } }
      none).outcome = .ok a := by
    obtain ⟨filter, hf⟩ := hcompiles.exists_filter "#"
    obtain ⟨a, ha, -⟩ := exists_analysis_two hf
    rw [outcome_analyze_of_directory directory?_two, ← outcome_analyze_of_directory hplace] at ha
    exact ⟨a, ha⟩
  refine ⟨[], _, _, "one/../two", rfl, ⟨rfl, "one/../two", rfl, hcompiles, hfirst⟩, ?_, rfl,
    hplace.trans directory?_two.symm, rfl, rfl⟩
  intro e he
  rcases List.mem_cons.mp he with rfl | he
  · -- a call that fails for its pattern
    rintro ⟨-, -, -, hcompiles, -⟩
    exact absurd hcompiles (by decide +kernel)
  · obtain rfl := List.mem_singleton.mp he
    -- a call that fails for its directory
    rintro ⟨-, root, hroot, -, a, ha⟩
    obtain rfl := Option.some.inj hroot
    have hnone : twoProjects.directory? (Path.ofString "three") = none := by decide +kernel
    rw [outcome_analyze_of_none hnone] at ha
    cases ha

/-- All three routes find the function of the second project, and mark it as that project says. -/
theorem front_ends_agree_two_projects :
    ∃ a text,
      (analyze twoProjects (Path.ofString "two") { query := { term := "LOAD" } } none).outcome =
        .ok a ∧
      (a.marked { term := "LOAD" } "#").findings.javascript.functions.map FunctionEntity.name =
        ["re#load#"] ∧
      text = (a.marked { term := "LOAD" } "#").toJson.render ∧
      (Command.run twoProjects ["analyze", "--search", "LOAD", "--no-regex", "--ignore-case",
        "--highlight", "--extensions", "", "--exclude", "", "--json", "--", "two"]).value =
          { exitCode := 0, output := text ++ "\n" } ∧
      (∃ s', (ToolCall.run {} twoProjects
        { tool := ToolCall.analyzeTool
          arguments := { root := some "two", query := { term := "LOAD" } } }).outcome =
            .ok (text, s')) ∧
      (ToolCall.run (Session.afterCalls {} mixedCalls) twoProjects
        { tool := ToolCall.searchTool, arguments := { query := { term := "LOAD" } } }).outcome =
          .ok (text, Session.afterCalls {} mixedCalls) := by
  have hcompiles : Query.Compiles { term := "LOAD" } := by decide +kernel
  obtain ⟨a, ha, hfindings⟩ := exists_analysis_two (q := { term := "LOAD" }) rfl
  have hmarked : (a.marked { term := "LOAD" } "#").findings.javascript.functions.map
      FunctionEntity.name = ["re#load#"] := by
    show (a.findings.highlight _).javascript.functions.map FunctionEntity.name = _
    rw [hfindings]
    decide +kernel
  obtain ⟨settings, text, hs, htext, hparse, hprinted, hanswered, hsearched⟩ :=
    front_ends_agree (.inl hcompiles) ha
  -- the settings are those of the file in the project, whose marker is not the usual one
  obtain rfl := Except.ok.inj (settingsOr_two.symm.trans hs)
  exact ⟨a, text, ha, hmarked, htext, hprinted _ false hparse, hanswered {},
    hsearched hcompiles {} mixedCalls (lastAnalysed_mixedCalls _) twoProjects _ rfl⟩

end SourceAtlas
