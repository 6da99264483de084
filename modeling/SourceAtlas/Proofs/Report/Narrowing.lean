import SourceAtlas.Analysis
import SourceAtlas.Proofs.Report.Index

/-!
# Filters one after the other

Every filter works on what the one before it has left, and builds the reports again from that. For
the lists it is plain that this comes to keeping what all filters match. The index of C# is less
plain, since its namespaces are found again from those it had and from the classes that are left: a
filter that is applied twice must find each namespace that it kept, and no other. Statuses do
change: what was emptied by the first filter was empty to begin with for the second one.

* `Status.settled` — what becomes of a status when nothing else changes;
* `CSharpReport.build_again`, `JavaScriptReport.build_again`, `ComponentReport.build_again` — a
  filter on its own report, which for C# comes from the conditions that determine a report;
* `listed_refilter` and `listed_foldlM_refilter` — what one filter leaves, and what several do;
* `refilters_compose` — all of it for analyses.
-/

namespace SourceAtlas

namespace Status

/-- What becomes of a status when the same filter is applied again: what it emptied is empty now. -/
def settled : Status → Status
  | .noMatches => .empty
  | s => s

/-- A status after narrowing again: what was left is all there is. -/
theorem settled_of {given left : Bool} (h : left = true → given = true) :
    (Status.of given left).settled = Status.of left left := by
  cases left with
  | true =>
    rw [h rfl]
    rfl
  | false =>
    cases given with
    | true => rfl
    | false => rfl

end Status

/-! ### Lists -/

section Lists

variable {α : Type} (f : Filter) {searchable : α → List String}

/-- The status of what is kept. -/
theorem Filter.status_keep_eq (items : List α) :
    (f.keep searchable items).2 =
      Status.of (!items.isEmpty) (!(f.keep searchable items).1.isEmpty) := by
  cases items with
  | nil => rfl
  | cons a as =>
    cases hf : f.isActive with
    | true => simp [keep, hf, Status.of]
    | false => simp [keep, hf, Status.of]

/-- **Keeping what was kept** keeps all of it. -/
theorem Filter.keep_again (h : ∀ a, searchable a ≠ []) (items : List α) :
    f.keep searchable (f.keep searchable items).1 =
      ((f.keep searchable items).1, (f.keep searchable items).2.settled) := by
  have hkept : (f.keep searchable (f.keep searchable items).1).1 = (f.keep searchable items).1 := by
    rw [f.keep_eq_filter h, f.keep_eq_filter h, List.filter_eq_self]
    intro a ha
    exact (List.mem_filter.mp ha).2
  refine Prod.ext hkept ?_
  rw [f.status_keep_eq, hkept, f.status_keep_eq items, Status.settled_of]
  -- whatever is left was given
  intro hleft
  cases items with
  | nil => exact hleft
  | cons a as => rfl

theorem ComponentReport.build_again (dialect : String) (components : List ComponentEntity) :
    (build dialect (build dialect components f).value.components f).value =
      { (build dialect components f).value with
        status := (build dialect components f).value.status.settled } := by
  have hsearchable : ∀ c : ComponentEntity, c.searchable ≠ [] := fun _ => List.cons_ne_nil _ _
  have hagain := f.keep_again hsearchable components
  exact congrArg (fun kept : List ComponentEntity × Status => ComponentReport.mk kept.1 kept.2)
    hagain

/-- Functions and classes are filtered as one list, each by its own strings. -/
theorem JavaScriptReport.keep_append (functions : List FunctionEntity)
    (classes : List ClassEntity) :
    (f.keep Entity.searchable (functions.map Entity.function ++ classes.map Entity.cls)).1 =
      (functions.filter fun e => f.matchesAny e.searchable).map Entity.function ++
        (classes.filter fun e => f.matchesAny e.searchable).map Entity.cls := by
  rw [f.keep_eq_filter Entity.searchable_ne_nil, List.filter_append, List.filter_map,
    List.filter_map]
  rfl

/-- What is kept of them can be told apart again. -/
theorem JavaScriptReport.map_append_build (functions : List FunctionEntity)
    (classes : List ClassEntity) :
    (build functions classes f).value.functions.map Entity.function ++
        (build functions classes f).value.classes.map Entity.cls =
      (f.keep Entity.searchable (functions.map Entity.function ++ classes.map Entity.cls)).1 := by
  change (Entity.functions (f.keep Entity.searchable _).1).map _ ++
    (Entity.classes (f.keep Entity.searchable _).1).map _ = _
  rw [keep_append]
  simp [Entity.functions, Entity.classes]

theorem JavaScriptReport.build_again (functions : List FunctionEntity)
    (classes : List ClassEntity) :
    (build (build functions classes f).value.functions (build functions classes f).value.classes
      f).value =
      { (build functions classes f).value with
        status := (build functions classes f).value.status.settled } := by
  have hagain := (congrArg (f.keep Entity.searchable) (map_append_build f functions classes)).trans
    (f.keep_again Entity.searchable_ne_nil _)
  exact congrArg (fun kept : List Entity × Status =>
    JavaScriptReport.mk (Entity.functions kept.1) (Entity.classes kept.1) kept.2) hagain

end Lists

/-! ### The index -/

/-- Where nothing was given, nothing is left. -/
theorem CSharpReport.IsReportOn.given_of_left {classes : List ClassEntity} {declared : List String}
    {f : Filter} {r : CSharpReport} (h : IsReportOn classes declared f r) :
    (!r.classes.isEmpty || !r.namespaces.isEmpty) = true →
      (!classes.isEmpty || !declared.isEmpty) = true := by
  intro hleft
  cases classes with
  | cons c cs => rfl
  | nil =>
    cases declared with
    | cons n ns => rfl
    | nil =>
      -- nothing was given, so there is nothing to be left
      have hclasses : r.classes = [] := h.classes_eq
      have hspaces : r.namespaces.map Prod.fst = [] := by
        rw [List.eq_nil_iff_forall_not_mem]
        intro n hn
        obtain ⟨hn | ⟨c, hc, -⟩, -⟩ := (h.mem_spaces n).mp hn
        · cases hn
        · cases hc
      rwa [hclasses, List.map_eq_nil_iff.mp hspaces] at hleft

/-- **A filter on its own report.** Each namespace that was kept is found again: it is one of those
the report had, and whatever kept it is still there. -/
theorem CSharpReport.build_again (f : Filter) (classes : List ClassEntity)
    (declared : List String) :
    (build (build classes declared f).value.classes
      ((build classes declared f).value.namespaces.map Prod.fst) f).value =
      { (build classes declared f).value with
        status := (build classes declared f).value.status.settled } := by
  have h := isReportOn_build classes declared f
  generalize (build classes declared f).value = r at h
  refine (isReportOn_build _ _ f).unique ⟨?_, h.increasing, ?_, h.names_increasing, h.mem_names,
    h.indexed, ?_⟩
  · -- the filter has nothing left to take away
    symm
    rw [List.filter_eq_self]
    intro c hc
    rw [h.classes_eq] at hc
    exact (List.mem_filter.mp hc).2
  · intro n
    constructor
    · intro hn
      exact ⟨.inl hn, ((h.mem_spaces n).mp hn).2⟩
    · -- a namespace that is named by a class which is left was in the index already
      rintro ⟨hn | ⟨c, hc, rfl⟩, -⟩
      · exact hn
      · obtain ⟨entry, hentry, heq, -⟩ := h.indexed c hc
        exact heq ▸ List.mem_map_of_mem hentry
  · rw [h.status_eq, Status.settled_of h.given_of_left, List.isEmpty_map]

/-! ### Findings and analyses -/

/-- Findings after the same filter is applied again. -/
def Findings.settled (r : Findings) : Findings :=
  { csharp := { r.csharp with status := r.csharp.status.settled }
    javascript := { r.javascript with status := r.javascript.status.settled }
    react := { r.react with status := r.react.status.settled }
    vue := { r.vue with status := r.vue.status.settled } }

/-- An analysis after the same filter is applied again. -/
def Analysis.settled (a : Analysis) : Analysis :=
  { a with findings := a.findings.settled }

/-- **Filtering twice is filtering once,** but for a status that has settled. -/
theorem refilter_again (r : Findings) (f : Filter) :
    ((r.refilter f).value.refilter f).value = (r.refilter f).value.settled := by
  simp only [Findings.refilter, Logged.value_bind, Logged.value_pure, Findings.settled,
    CSharpReport.build_again, JavaScriptReport.build_again, ComponentReport.build_again]

/-- **What one filter leaves,** in every dialect. -/
theorem listed_refilter (r : Findings) (f : Filter) (d : Dialect) :
    (r.refilter f).value.listed d = (r.listed d).filter f.matchesEntity := by
  cases d with
  | csharp => exact map_keep f ClassEntity.searchable Entity.cls (fun _ => rfl) _
  | javascript =>
    -- the one dialect with two lists, which are filtered together
    refine (JavaScriptReport.map_append_build f _ _).trans ?_
    exact f.keep_eq_filter Entity.searchable_ne_nil _
  | react => exact map_keep f ComponentEntity.searchable Entity.component (fun _ => rfl) _
  | vue => exact map_keep f ComponentEntity.searchable Entity.component (fun _ => rfl) _

/-- **What several filters leave:** the entities that all of them match. -/
theorem listed_foldlM_refilter (r : Findings) (fs : List Filter) (d : Dialect) :
    (fs.foldlM Findings.refilter r).value.listed d =
      (r.listed d).filter fun e => fs.all fun f => f.matchesEntity e := by
  induction fs generalizing r with
  | nil => exact (List.filter_eq_self.mpr fun _ _ => rfl).symm
  | cons f fs ih =>
    rw [List.foldlM_cons, Logged.value_bind, ih, listed_refilter, List.filter_filter]
    refine List.filter_congr fun e _ => ?_
    rw [List.all_cons, Bool.and_comm]

/-- Filters change nothing but the findings of an analysis. -/
theorem foldlM_refilter_eq (a : Analysis) (fs : List Filter) :
    (fs.foldlM Analysis.refilter a).value =
      { a with findings := (fs.foldlM Findings.refilter a.findings).value } := by
  induction fs generalizing a with
  | nil => rfl
  | cons f fs ih =>
    rw [List.foldlM_cons, List.foldlM_cons, Logged.value_bind, Logged.value_bind]
    exact ih (a.refilter f).value

/-- **Filters compose.** One after the other, they leave of each list the entities that all of them
match, in their order; so in any order they leave the same. The rest of the analysis is never
changed. A filter that is applied a second time changes no list and no index, and of the statuses
those only that told of no matches. -/
theorem refilters_compose (a : Analysis) (fs : List Filter) :
    (∀ d, (fs.foldlM Analysis.refilter a).value.findings.listed d =
        (a.findings.listed d).filter fun e => fs.all fun f => f.matchesEntity e) ∧
      (∀ gs : List Filter, gs.Perm fs → ∀ d,
        (gs.foldlM Analysis.refilter a).value.findings.listed d =
          (fs.foldlM Analysis.refilter a).value.findings.listed d) ∧
      (fs.foldlM Analysis.refilter a).value.fileTypes = a.fileTypes ∧
      (fs.foldlM Analysis.refilter a).value.outline = a.outline ∧
      (fs.foldlM Analysis.refilter a).value.failedFiles = a.failedFiles ∧
      ∀ f, ((a.refilter f).value.refilter f).value = (a.refilter f).value.settled := by
  -- an entity is left if it passes every filter, in whatever order
  have hlisted : ∀ (gs : List Filter) (d : Dialect),
      (gs.foldlM Analysis.refilter a).value.findings.listed d =
        (a.findings.listed d).filter fun e => gs.all fun f => f.matchesEntity e := by
    intro gs d
    rw [foldlM_refilter_eq]
    exact listed_foldlM_refilter a.findings gs d
  refine ⟨hlisted fs, ?_, ?_, ?_, ?_, ?_⟩
  · intro gs hperm d
    rw [hlisted gs, hlisted fs]
    refine List.filter_congr fun e _ => ?_
    exact hperm.all_eq
  · rw [foldlM_refilter_eq]
  · rw [foldlM_refilter_eq]
  · rw [foldlM_refilter_eq]
  · intro f
    exact congrArg (fun r => { a with findings := r }) (refilter_again a.findings f)

/-- Two components that one filter matches by name and another by a hook: together they leave one,
in either order. A filter that matches neither finds nothing left when it comes again. -/
theorem refilters_compose_components :
    let button : ComponentEntity :=
      { name := "LoadButton", filePath := "a.jsx", hooks := ["useState"] }
    let label : ComponentEntity := { name := "Label", filePath := "a.jsx", hooks := ["useState"] }
    let a : Analysis :=
      { fileTypes := [(".jsx", 1)], outline := ⟨"home", ["a.jsx"], []⟩,
        findings := { react := { components := [button, label], status := .ok } } }
    let named (term : String) : Filter := ⟨.exactly term.toList, "**"⟩
    [named "Load", named "State"].Perm [named "State", named "Load"] ∧
      ([named "Load", named "State"].foldlM Analysis.refilter a).value.findings.listed .react =
        [.component button] ∧
      ([named "State", named "Load"].foldlM Analysis.refilter a).value.findings.listed .react =
        [.component button] ∧
      (a.refilter (named "Store")).value.findings.react.status = .noMatches ∧
      ((a.refilter (named "Store")).value.refilter (named "Store")).value.findings.react.status =
        .empty := by
  intro button label a named
  have hperm : [named "Load", named "State"].Perm [named "State", named "Load"] := .swap _ _ _
  obtain ⟨hlisted, hshuffled, -, -, -, htwice⟩ :=
    refilters_compose a [named "State", named "Load"]
  -- the button has both terms, one in its name and one in a hook; the label has one of them
  have hleft : ([named "State", named "Load"].foldlM Analysis.refilter a).value.findings.listed
      .react = [.component button] := (hlisted .react).trans (by decide)
  refine ⟨hperm, (hshuffled _ hperm .react).trans hleft, hleft, by decide, ?_⟩
  rw [htwice]
  decide

end SourceAtlas
