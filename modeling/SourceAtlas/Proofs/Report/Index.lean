import SourceAtlas.Proofs.Listing
import SourceAtlas.Proofs.Order

/-!
# The report on C# is consistent

A report on C# shows the same classes twice: as a list, and by name in an index of namespaces. Its
status speaks of both. The three come from overlapping sets of names, since a namespace may be
declared without a class, named by a class without being declared, and matched without any class
that is kept. What they have to be is said here without the way they are computed (`IsReportOn`):
what is listed, which namespaces there are, what stands under each of them, and when which status is
told. These conditions leave one report only, the one that `CSharpReport.build` gives.

* `Status.of` — a status by what was given and what is left;
* `mem_listed_iff`, `mem_classNames_iff` — the namespaces of the index, and what stands under them;
* `IsReportOn.unique` — the conditions determine the report;
* `isReportOn_iff_eq_build` — and `CSharpReport.build` meets them.
-/

namespace SourceAtlas

/-- **The status of a report,** by whether anything was given to it and whether anything of that is
left: it is empty just where nothing was given, and tells of no matches just where something was and
nothing is left. -/
def Status.of (given left : Bool) : Status :=
  if !given then .empty else if !left then .noMatches else .ok

namespace CSharpReport

/-- **The report on some classes and declared namespaces,** under a filter. -/
structure IsReportOn (classes : List ClassEntity) (declared : List String) (f : Filter)
    (r : CSharpReport) : Prop where
  /-- The classes that match are listed in the order given. -/
  classes_eq : r.classes = classes.filter fun c => f.matchesAny c.searchable
  /-- The namespaces stand in strict order. -/
  increasing : (r.namespaces.map Prod.fst).Pairwise CodeLt
  /-- There are those that are declared or named by a class; if the filter looks for something,
  those of them that match or hold a listed class. -/
  mem_spaces : ∀ n, n ∈ r.namespaces.map Prod.fst ↔
    (n ∈ declared ∨ ∃ c ∈ classes, c.namespaceName = n) ∧
      (f.isActive = false ∨ (∃ c ∈ r.classes, c.namespaceName = n) ∨ f.matchesText n = true)
  /-- Under each of them, names stand in strict order. -/
  names_increasing : ∀ entry ∈ r.namespaces, entry.2.Pairwise CodeLt
  /-- They are the names of its listed classes. -/
  mem_names : ∀ entry ∈ r.namespaces, ∀ x,
    x ∈ entry.2 ↔ ∃ c ∈ r.classes, c.namespaceName = entry.1 ∧ c.name = x
  /-- Every listed class stands under its namespace. -/
  indexed : ∀ c ∈ r.classes, ∃ entry ∈ r.namespaces, entry.1 = c.namespaceName ∧ c.name ∈ entry.2
  /-- The status goes by the classes and namespaces that were given, and by those that are left. -/
  status_eq : r.status = Status.of (!classes.isEmpty || !declared.isEmpty)
    (!r.classes.isEmpty || !r.namespaces.isEmpty)

variable {classes kept : List ClassEntity} {declared spaces : List String} {f : Filter}

/-! ### What is computed -/

/-- Which namespaces a report lists. -/
theorem mem_listed_iff {n : String} : n ∈ listed f spaces kept ↔
    n ∈ spaces ∧
      (f.isActive = false ∨ (∃ c ∈ kept, c.namespaceName = n) ∨ f.matchesText n = true) := by
  unfold listed
  cases f.isActive with
  | false => simp
  | true => simp [List.mem_filter]

/-- The namespaces of an index stand in the order of those there are. -/
theorem listed_sublist : (listed f spaces kept).Sublist spaces := by
  unfold listed
  split
  · exact List.filter_sublist
  · exact List.Sublist.refl spaces

theorem mem_classNames_iff {n x : String} :
    x ∈ classNames kept n ↔ ∃ c ∈ kept, c.namespaceName = n ∧ c.name = x := by
  simp only [classNames, mem_sortedDistinct, List.mem_map, List.mem_filter, beq_iff_eq, and_assoc]

/-- The classes that a report lists. -/
theorem classes_build_eq_filter :
    (build classes declared f).value.classes =
      classes.filter fun c => f.matchesAny c.searchable :=
  f.keep_eq_filter (fun _ => List.cons_ne_nil _ _) classes

/-- The namespaces of its index. -/
theorem map_fst_namespaces_build :
    (build classes declared f).value.namespaces.map Prod.fst =
      listed f (sortedDistinct (declared ++ classes.map ClassEntity.namespaceName))
        (build classes declared f).value.classes := by
  refine (List.map_map ..).trans ?_
  exact List.map_id _

theorem isEmpty_sortedDistinct (names : List String) :
    (sortedDistinct names).isEmpty = names.isEmpty := by
  rw [Bool.eq_iff_iff, List.isEmpty_iff, List.isEmpty_iff, List.eq_nil_iff_forall_not_mem,
    List.eq_nil_iff_forall_not_mem]
  simp only [mem_sortedDistinct]

/-- The status asks whether the filter looks for anything. It need not: a filter that does not
leaves everything. -/
theorem status_build_eq :
    (build classes declared f).value.status =
      Status.of (!classes.isEmpty || !declared.isEmpty)
        (!(build classes declared f).value.classes.isEmpty ||
          !(build classes declared f).value.namespaces.isEmpty) := by
  have hgiven : (classes.isEmpty && (sortedDistinct
      (declared ++ classes.map ClassEntity.namespaceName)).isEmpty) =
      (classes.isEmpty && declared.isEmpty) := by
    rw [isEmpty_sortedDistinct]
    cases classes with
    | nil => rw [List.map_nil, List.append_nil]
    | cons c cs => rfl
  change statusOf f classes _ _ _ = Status.of _ _
  simp only [statusOf, hgiven, Status.of, ← Bool.not_and, Bool.not_not]
  split
  · rfl
  · next hsome =>
    rw [← List.isEmpty_map (f := Prod.fst) (l := (build classes declared f).value.namespaces),
      map_fst_namespaces_build]
    cases hf : f.isActive with
    | true => rfl
    | false =>
      -- everything is left, so what was given decides
      have hkept : (build classes declared f).value.classes = classes := by
        rw [classes_build_eq_filter, List.filter_eq_self]
        intro c _
        exact Filter.matchesAny_of_not_isActive hf (List.cons_ne_nil _ _)
      simp only [listed, hf, hkept, hgiven, Bool.false_and, Bool.false_eq_true, if_false, hsome]

/-! ### The conditions determine the report -/

section Conditions

variable {r r' : CSharpReport}

/-- The index is given by its namespaces and the listed classes. -/
theorem IsReportOn.namespaces_eq (h : IsReportOn classes declared f r) :
    r.namespaces = (r.namespaces.map Prod.fst).map fun n => (n, classNames r.classes n) := by
  have hnames : ∀ entry ∈ r.namespaces, (entry.1, classNames r.classes entry.1) = entry := by
    intro entry hentry
    refine Prod.ext rfl ?_
    refine eq_of_pairwise_of_mem_iff (fun _ _ => CodeLt.asymm) (pairwise_sortedDistinct _)
      (h.names_increasing entry hentry) fun x => ?_
    exact mem_classNames_iff.trans (h.mem_names entry hentry x).symm
  rw [List.map_map]
  exact ((List.map_congr_left hnames).trans (List.map_id _)).symm

/-- **The conditions determine the report.** -/
theorem IsReportOn.unique (h : IsReportOn classes declared f r)
    (h' : IsReportOn classes declared f r') : r = r' := by
  have hclasses : r.classes = r'.classes := h.classes_eq.trans h'.classes_eq.symm
  -- two strictly ordered lists with the same members are one
  have hspaces : r.namespaces.map Prod.fst = r'.namespaces.map Prod.fst := by
    refine eq_of_pairwise_of_mem_iff (fun _ _ => CodeLt.asymm) h.increasing h'.increasing
      fun n => ?_
    rw [h.mem_spaces, h'.mem_spaces, hclasses]
  have hnamespaces : r.namespaces = r'.namespaces := by
    rw [h.namespaces_eq, h'.namespaces_eq, hspaces, hclasses]
  have hstatus : r.status = r'.status := by
    rw [h.status_eq, h'.status_eq, hclasses, hnamespaces]
  obtain ⟨namespaces, classes, status⟩ := r
  obtain ⟨namespaces', classes', status'⟩ := r'
  cases hclasses
  cases hnamespaces
  cases hstatus
  rfl

end Conditions

/-! ### They hold of what is computed -/

/-- The report that is built fulfils its description. -/
theorem isReportOn_build (classes : List ClassEntity) (declared : List String) (f : Filter) :
    IsReportOn classes declared f (build classes declared f).value := by
  have hspaces : ∀ n, n ∈ (build classes declared f).value.namespaces.map Prod.fst ↔
      (n ∈ declared ∨ ∃ c ∈ classes, c.namespaceName = n) ∧ (f.isActive = false ∨
        (∃ c ∈ (build classes declared f).value.classes, c.namespaceName = n) ∨
          f.matchesText n = true) := by
    intro n
    rw [map_fst_namespaces_build, mem_listed_iff, mem_sortedDistinct, List.mem_append, List.mem_map]
  have hentry : ∀ entry ∈ (build classes declared f).value.namespaces,
      entry.2 = classNames (build classes declared f).value.classes entry.1 := by
    intro entry hentry
    obtain ⟨n, -, rfl⟩ := List.mem_map.mp hentry
    rfl
  have hnames : ∀ entry ∈ (build classes declared f).value.namespaces, ∀ x, x ∈ entry.2 ↔
      ∃ c ∈ (build classes declared f).value.classes, c.namespaceName = entry.1 ∧ c.name = x := by
    intro entry he x
    rw [hentry entry he]
    exact mem_classNames_iff
  refine ⟨classes_build_eq_filter, ?_, hspaces, ?_, hnames, ?_, status_build_eq⟩
  · rw [map_fst_namespaces_build]
    exact (pairwise_sortedDistinct _).sublist listed_sublist
  · intro entry he
    rw [hentry entry he]
    exact pairwise_sortedDistinct _
  · -- a listed class was given, so its namespace is there and holds it
    intro c hc
    have hgiven : c ∈ classes := by
      rw [classes_build_eq_filter] at hc
      exact (List.mem_filter.mp hc).1
    have hspace := (hspaces c.namespaceName).mpr ⟨.inr ⟨c, hgiven, rfl⟩, .inr (.inl ⟨c, hc, rfl⟩)⟩
    obtain ⟨entry, he, heq⟩ := List.mem_map.mp hspace
    exact ⟨entry, he, heq, (hnames entry he c.name).mpr ⟨c, hc, heq.symm, rfl⟩⟩

/-- **The report on C# is consistent, and the only one that is.** -/
theorem isReportOn_iff_eq_build (classes : List ClassEntity) (declared : List String) (f : Filter)
    (r : CSharpReport) :
    IsReportOn classes declared f r ↔ r = (build classes declared f).value := by
  constructor
  · intro h
    exact h.unique (isReportOn_build classes declared f)
  · rintro rfl
    exact isReportOn_build classes declared f

end CSharpReport

end SourceAtlas
