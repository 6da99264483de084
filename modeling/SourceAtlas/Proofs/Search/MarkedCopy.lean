import SourceAtlas.Analysis
import SourceAtlas.Proofs.Listing
import SourceAtlas.Proofs.Search.Literal

/-!
# A marked copy shows what matched

Which entities are kept goes by the strings that a search looks at, which are gathered into one
list. Which strings are marked for display goes by the fields they stand in, kind by kind. That the
two go over the same strings is said by taking an entity apart: `Entity.searchable` is the list, and
`Entity.frame` is everything else, with the strings blanked out. Both together make up the entity
(`Entity.eq_of_frame_eq`), so a copy whose frame is the same and whose strings are all highlighted
is the marked copy and no other. What is marked then decides what was kept: a string that changes
has a match, and under a plain term a string with a match changes.

* `Entity.frame` — an entity without the strings that a search looks at;
* `Filter.marks_iff` — the marked copy of an entity is determined by its frame and its strings;
* `isMarkedBy_iff` — so is the marked copy of an analysis;
* `highlight_eq_self_iff` — when a highlighted text is the text;
* `marked_copy_shows_matches` — the copy and the filter, side by side.
-/

namespace SourceAtlas

/-! ### Entities in two parts -/

/-- A method without its name. -/
def Method.frame (m : Method) : Method :=
  { m with name := "" }

/-- **An entity without the strings that a search looks at.** They are blanked out where they stand,
so how many there are in each field is left, and so is everything that is not searched. -/
def Entity.frame : Entity → Entity
  | .function e => .function { e with name := "", parameters := e.parameters.map fun _ => "" }
  | .cls e => .cls { e with name := "", methods := e.methods.map Method.frame }
  | .space e => .space { e with name := "" }
  | .component e =>
    .component
      { e with
        name := ""
        props := e.props.map fun _ => ""
        hooks := e.hooks.map fun _ => ""
        data := e.data.map fun _ => ""
        methods := e.methods.map fun _ => ""
        computedProperties := e.computedProperties.map fun _ => "" }

/-- Methods with the same names are the same if all but their names is. -/
theorem Method.eq_of_frame_eq {ms ms' : List Method} (hframe : ms.map frame = ms'.map frame)
    (hname : ms.map name = ms'.map name) : ms = ms' := by
  induction ms generalizing ms' with
  | nil => exact (List.map_eq_nil_iff.mp hname.symm).symm
  | cons m ms ih =>
    cases ms' with
    | nil => cases hname
    | cons m' ms' =>
      obtain ⟨hm, hms⟩ := List.cons.inj hframe
      obtain ⟨hn, hns⟩ := List.cons.inj hname
      have hhead : m = m' := by
        obtain ⟨name, returnType, isPublic, isStatic, parameters⟩ := m
        cases hn
        cases hm
        rfl
      rw [hhead, ih hms hns]

/-- As many blanks, as many strings. -/
theorem length_eq_of_blanks {ss ss' : List String}
    (h : (ss.map fun _ => "") = ss'.map fun _ => "") : ss.length = ss'.length := by
  simpa using congrArg List.length h

/-- **An entity is made up of its frame and the strings that a search looks at.** -/
theorem Entity.eq_of_frame_eq {e e' : Entity} (hframe : e.frame = e'.frame)
    (hstrings : e.searchable = e'.searchable) : e = e' := by
  -- frames of entities of different kinds differ
  cases e <;> cases e' <;>
    simp only [Entity.frame, reduceCtorEq, Entity.function.injEq, Entity.cls.injEq,
      Entity.space.injEq, Entity.component.injEq, FunctionEntity.mk.injEq, ClassEntity.mk.injEq,
      NamespaceEntity.mk.injEq, ComponentEntity.mk.injEq, true_and] at hframe ⊢
  case function.function e e' =>
    obtain ⟨hpath, -⟩ := hframe
    obtain ⟨hname, hparameters⟩ := List.cons.inj hstrings
    cases e
    cases e'
    cases hpath
    cases hname
    cases hparameters
    rfl
  case cls.cls e e' =>
    obtain ⟨hpath, hspace, hbase, hmethods⟩ := hframe
    obtain ⟨hname, hnames⟩ := List.cons.inj hstrings
    have hmethods := Method.eq_of_frame_eq hmethods hnames
    cases e
    cases e'
    cases hpath
    cases hspace
    cases hbase
    cases hname
    cases hmethods
    rfl
  case space.space e e' =>
    obtain ⟨hname, -⟩ := List.cons.inj hstrings
    cases e
    cases e'
    cases hframe
    cases hname
    rfl
  case component.component e e' =>
    obtain ⟨hpath, hprops, hhooks, hdata, hmethods, hcomputed, halternate⟩ := hframe
    obtain ⟨hname, hlists⟩ := List.cons.inj hstrings
    -- the frame tells how long the lists are, so their concatenation can be taken apart
    obtain ⟨hlists, hcomputed⟩ := List.append_inj' hlists (length_eq_of_blanks hcomputed)
    obtain ⟨hlists, hmethods⟩ := List.append_inj' hlists (length_eq_of_blanks hmethods)
    obtain ⟨hlists, hdata⟩ := List.append_inj' hlists (length_eq_of_blanks hdata)
    obtain ⟨hprops, hhooks⟩ := List.append_inj' hlists (length_eq_of_blanks hhooks)
    cases e
    cases e'
    cases hpath
    cases hname
    cases hprops
    cases hhooks
    cases hdata
    cases hmethods
    cases hcomputed
    cases halternate
    rfl

/-! ### The marked copy of an entity -/

namespace Filter

variable (f : Filter)

/-- **A marked copy of an entity:** the strings that a search looks at are highlighted, and
everything else is the same. -/
structure Marks (e e' : Entity) : Prop where
  /-- The frame is the same. -/
  frame : e'.frame = e.frame
  /-- Each string is highlighted. -/
  searchable : e'.searchable = e.searchable.map f.highlight

/-- Highlighting touches nothing but the texts that are searched. -/
theorem frame_highlightEntity (e : Entity) : (f.highlightEntity e).frame = e.frame := by
  cases e with
  | function e => simp [highlightEntity, highlightFunction, Entity.frame, Function.comp_def]
  | cls e =>
    simp [highlightEntity, highlightClass, highlightMethod, Entity.frame, Method.frame,
      Function.comp_def]
  | space e => rfl
  | component e => simp [highlightEntity, highlightComponent, Entity.frame, Function.comp_def]

/-- Highlighting touches each text that is searched. -/
theorem searchable_highlightEntity (e : Entity) :
    (f.highlightEntity e).searchable = e.searchable.map f.highlight := by
  cases e with
  | function e => rfl
  | cls e =>
    simp [highlightEntity, highlightClass, highlightMethod, Entity.searchable,
      ClassEntity.searchable, Function.comp_def]
  | space e => rfl
  | component e =>
    simp [highlightEntity, highlightComponent, Entity.searchable, ComponentEntity.searchable]

/-- **There is one marked copy of an entity.** -/
theorem marks_iff {e e' : Entity} : f.Marks e e' ↔ f.highlightEntity e = e' := by
  constructor
  · intro h
    refine Entity.eq_of_frame_eq ((f.frame_highlightEntity e).trans h.frame.symm) ?_
    exact (f.searchable_highlightEntity e).trans h.searchable.symm
  · rintro rfl
    exact ⟨f.frame_highlightEntity e, f.searchable_highlightEntity e⟩

/-- An entity is its own marked copy just where highlighting leaves each of its strings alone. -/
theorem highlightEntity_eq_self_iff {e : Entity} :
    f.highlightEntity e = e ↔ ∀ s ∈ e.searchable, f.highlight s = s := by
  have hstrings : e.searchable.map f.highlight = e.searchable.map id ↔
      ∀ s ∈ e.searchable, f.highlight s = s := List.map_inj_left
  rw [List.map_id] at hstrings
  rw [← marks_iff, ← hstrings]
  constructor
  · intro h
    exact h.searchable.symm
  · intro h
    exact ⟨rfl, h.symm⟩

/-! ### What changes, and what matches -/

/-- **A highlighted text is the text** just where the marker is empty or nothing is marked. -/
theorem highlight_eq_self_iff {s : String} :
    f.highlight s = s ↔ f.marker = "" ∨ f.marked s = [] := by
  have hinserted := f.toList_highlight s
  have hlength : (f.highlight s).toList.length =
      s.toList.length + 2 * f.marker.toList.length * (f.marked s).length := by
    rw [hinserted]
    exact length_insertAt f.marker.toList (f.inOrder_marked s)
  have hsub : s.toList.Sublist (f.highlight s).toList := by
    rw [hinserted]
    exact sublist_insertAt _ _ _ _
  -- markers are only put in, so the text is the same as soon as it is as long
  have hsame : f.highlight s = s ↔ 2 * f.marker.toList.length * (f.marked s).length = 0 := by
    constructor
    · intro h
      rw [h] at hlength
      omega
    · intro h
      rw [h, Nat.add_zero] at hlength
      exact String.toList_injective (hsub.eq_of_length hlength.symm).symm
  have hmarker : f.marker.toList = [] ↔ f.marker = "" := String.toList_eq_nil_iff
  rw [hsame, Nat.mul_eq_zero, Nat.mul_eq_zero, List.length_eq_zero_iff, List.length_eq_zero_iff,
    hmarker, or_iff_right (Nat.succ_ne_zero 1)]

/-- A text that highlighting changes is one that the filter finds. -/
theorem matchesText_of_highlight_ne {s : String} (h : f.highlight s ≠ s) :
    f.matchesText s = true := by
  by_contra hno
  obtain ⟨-, hfound⟩ := (f.matchesText_eq_false_iff s).mp (Bool.eq_false_iff.mpr hno)
  refine h (f.highlight_eq_self_iff.mpr (.inr ?_))
  rw [marked, hfound]
  rfl

/-- An entity is found by any of its texts. -/
theorem matchesEntity_iff {e : Entity} :
    f.matchesEntity e = true ↔ ∃ s ∈ e.searchable, f.matchesText s = true :=
  List.any_eq_true

/-- **What is changed has matched.** -/
theorem matchesEntity_of_highlightEntity_ne {e : Entity} (h : f.highlightEntity e ≠ e) :
    f.matchesEntity e = true := by
  rw [Ne, highlightEntity_eq_self_iff] at h
  push Not at h
  obtain ⟨s, hs, hchanged⟩ := h
  exact f.matchesEntity_iff.mpr ⟨s, hs, f.matchesText_of_highlight_ne hchanged⟩

section Plain

variable {f} {same : Char → Char → Bool} {term : List Char}
  (hregex : f.regex? = some (Regex.literal same term)) (hterm : term ≠ [])
  (hactive : f.isActive = true) (hmarker : f.marker ≠ "")

include hregex hterm hactive hmarker

/-- Under a plain term and with a marker, whatever matches is changed. -/
theorem highlight_ne_of_matchesText {s : String} (h : f.matchesText s = true) :
    f.highlight s ≠ s := by
  rw [Ne, highlight_eq_self_iff, marked_eq_found hregex hterm]
  rintro (hempty | hfound)
  · exact hmarker hempty
  · rw [(f.matchesText_eq_false_iff s).mpr ⟨hactive, hfound⟩] at h
    cases h

/-- **Under a plain term, what matches is what is changed.** -/
theorem matchesEntity_iff_highlightEntity_ne {e : Entity} :
    f.matchesEntity e = true ↔ f.highlightEntity e ≠ e := by
  refine ⟨?_, f.matchesEntity_of_highlightEntity_ne⟩
  intro h hsame
  obtain ⟨s, hs, hmatch⟩ := f.matchesEntity_iff.mp h
  refine highlight_ne_of_matchesText hregex hterm hactive hmarker hmatch ?_
  exact f.highlightEntity_eq_self_iff.mp hsame s hs

end Plain

/-- A filter that looks for nothing changes nothing. -/
theorem highlightEntity_of_not_isActive (hf : f.isActive = false) (e : Entity) :
    f.highlightEntity e = e := by
  rw [highlightEntity_eq_self_iff]
  intro s _
  obtain ⟨criterion, marker⟩ := f
  cases criterion with
  | everything => rfl
  | exactly term => cases hf
  | upToCase term => cases hf
  | pattern r => cases hf

end Filter

/-! ### The marked copy of an analysis -/

/-- **A marked copy of an analysis:** each listed entity has its marked copy at the same place, and
nothing else differs. -/
structure Analysis.IsMarkedBy (a : Analysis) (f : Filter) (b : Analysis) : Prop where
  /-- The histogram is the same. -/
  fileTypes : b.fileTypes = a.fileTypes
  /-- The tree of names is the same. -/
  outline : b.outline = a.outline
  /-- The same files failed. -/
  failedFiles : b.failedFiles = a.failedFiles
  /-- The index of C# is the same. -/
  namespaces : b.findings.csharp.namespaces = a.findings.csharp.namespaces
  /-- The statuses are the same. -/
  status : ∀ d, b.findings.status d = a.findings.status d
  /-- The entities are listed in the same order, and marked. -/
  listed : ∀ d, List.Forall₂ f.Marks (a.findings.listed d) (b.findings.listed d)

/-- Findings are made up of what they list, their statuses and the index of C#. -/
theorem Findings.eq_of_listed_eq {r r' : Findings} (hlisted : ∀ d, r.listed d = r'.listed d)
    (hstatus : ∀ d, r.status d = r'.status d)
    (hnamespaces : r.csharp.namespaces = r'.csharp.namespaces) : r = r' := by
  -- the parts of each report are read back off what it lists, by their kinds
  have hcsharp : r.csharp.classes = r'.csharp.classes := by
    simpa [listed, Entity.classes] using congrArg Entity.classes (hlisted .csharp)
  have hfunctions : r.javascript.functions = r'.javascript.functions := by
    simpa [listed, Entity.functions] using congrArg Entity.functions (hlisted .javascript)
  have hclasses : r.javascript.classes = r'.javascript.classes := by
    simpa [listed, Entity.classes] using congrArg Entity.classes (hlisted .javascript)
  have hreact : r.react.components = r'.react.components := by
    simpa [listed, Entity.components] using congrArg Entity.components (hlisted .react)
  have hvue : r.vue.components = r'.vue.components := by
    simpa [listed, Entity.components] using congrArg Entity.components (hlisted .vue)
  obtain ⟨⟨_, _, _⟩, ⟨_, _, _⟩, ⟨_, _⟩, ⟨_, _⟩⟩ := r
  obtain ⟨⟨_, _, _⟩, ⟨_, _, _⟩, ⟨_, _⟩, ⟨_, _⟩⟩ := r'
  simp only [mk.injEq, CSharpReport.mk.injEq, JavaScriptReport.mk.injEq, ComponentReport.mk.injEq]
  exact ⟨⟨hnamespaces, hcsharp, hstatus .csharp⟩, ⟨hfunctions, hclasses, hstatus .javascript⟩,
    ⟨hreact, hstatus .react⟩, hvue, hstatus .vue⟩

section Analyses

variable {a b : Analysis} {f : Filter}

/-- **What is listed in a marked copy.** -/
theorem listed_highlight (r : Findings) (f : Filter) (d : Dialect) :
    (r.highlight f).listed d = (r.listed d).map f.highlightEntity := by
  cases hf : f.isActive with
  | false =>
    -- such a filter is not applied at all, which comes to the same
    have hsame : f.highlightEntity = id := funext (f.highlightEntity_of_not_isActive hf)
    rw [hsame, List.map_id, Findings.highlight, hf]
    rfl
  | true =>
    rw [Findings.highlight, hf]
    cases d with
    | csharp => simp [Findings.listed, Filter.highlightEntity]
    | javascript => simp [Findings.listed, Filter.highlightEntity, Function.comp_def]
    | react => simp [Findings.listed, Filter.highlightEntity]
    | vue => simp [Findings.listed, Filter.highlightEntity]

theorem status_highlight (r : Findings) (f : Filter) (d : Dialect) :
    (r.highlight f).status d = r.status d := by
  unfold Findings.highlight
  split
  · rfl
  · cases d <;> rfl

theorem namespaces_highlight (r : Findings) (f : Filter) :
    (r.highlight f).csharp.namespaces = r.csharp.namespaces := by
  unfold Findings.highlight
  split
  · rfl
  · rfl

/-- **Marking is a relation that determines the copy.** -/
theorem forall₂_marks_iff {es es' : List Entity} :
    List.Forall₂ f.Marks es es' ↔ es' = es.map f.highlightEntity := by
  have hmarks : f.Marks = fun e e' => f.highlightEntity e = e' := by
    funext e e'
    exact propext f.marks_iff
  rw [hmarks, ← List.forall₂_map_left_iff, List.forall₂_eq_eq_eq]
  exact eq_comm

/-- **There is one marked copy of an analysis.** -/
theorem isMarkedBy_iff : a.IsMarkedBy f b ↔ b = a.highlight f := by
  constructor
  · -- the relation fixes every part of the copy
    intro h
    have hfindings : b.findings = a.findings.highlight f := by
      refine Findings.eq_of_listed_eq ?_ ?_ ?_
      · intro d
        rw [listed_highlight]
        exact forall₂_marks_iff.mp (h.listed d)
      · intro d
        rw [status_highlight]
        exact h.status d
      · rw [namespaces_highlight]
        exact h.namespaces
    have hfileTypes := h.fileTypes
    have houtline := h.outline
    have hfailed := h.failedFiles
    obtain ⟨_, _, _, _⟩ := b
    simp only [Analysis.highlight, Analysis.mk.injEq]
    exact ⟨hfileTypes, houtline, hfindings, hfailed⟩
  · rintro rfl
    refine ⟨rfl, rfl, rfl, namespaces_highlight _ _, fun d => status_highlight _ _ d, ?_⟩
    intro d
    exact forall₂_marks_iff.mpr (listed_highlight _ _ d)

/-- **A marked copy shows what matched.** It differs from the analysis in the searched strings of
the listed entities, each of which is highlighted, and in nothing else. An entity that is changed
has matched; under a plain term and with a marker, those that are kept are those that are
changed. -/
theorem marked_copy_shows_matches (a : Analysis) (f : Filter) :
    (∀ b, a.IsMarkedBy f b ↔ b = a.highlight f) ∧
      (∀ e, f.highlightEntity e ≠ e → f.matchesEntity e = true) ∧
      ∀ (q : Query) (marker : String), Filter.ofQuery q marker = .ok f → q.term ≠ "" →
        q.useRegex = false → marker ≠ "" →
        (∀ e, f.matchesEntity e = true ↔ f.highlightEntity e ≠ e) ∧
          ∀ items, ∀ e ∈ items,
            e ∈ (f.keep Entity.searchable items).1 ↔ f.highlightEntity e ≠ e := by
  refine ⟨fun b => isMarkedBy_iff, fun e => f.matchesEntity_of_highlightEntity_ne, ?_⟩
  intro q marker hf hterm hplain hmarker
  have hchars : q.term.toList ≠ [] := mt String.toList_eq_nil_iff.mp hterm
  obtain ⟨g, hg, rfl, hactive, hregex⟩ := Filter.exists_ofQuery marker hterm hplain
  obtain rfl : g = f := Except.ok.inj (hg.symm.trans hf)
  -- a marker that is not empty changes every text it is put into
  have hmatches : ∀ e, g.matchesEntity e = true ↔ g.highlightEntity e ≠ e := fun e =>
    Filter.matchesEntity_iff_highlightEntity_ne hregex hchars hactive hmarker
  refine ⟨hmatches, ?_⟩
  intro items e he
  rw [g.keep_eq_filter Entity.searchable_ne_nil, List.mem_filter, and_iff_right he]
  exact hmatches e

/-- A class with the term in the name of a method, and one with the term in its file, its namespace,
its base class and what a method returns and takes: the first is kept and changed, the second
neither. -/
theorem marked_copy_shows_matches_classes :
    let q : Query := { term := "load", caseSensitive := true }
    let f : Filter := ⟨.exactly "load".toList, "**"⟩
    let store : ClassEntity :=
      { name := "Store", filePath := "a.cs", methods := [{ name := "reload" }] }
    let other : ClassEntity :=
      { name := "Other", filePath := "load.cs", namespaceName := "load", baseClass := some "load",
        methods := [{ name := "run", returnType := "load", parameters := ["load"] }] }
    let a : Analysis :=
      { fileTypes := [(".cs", 2)], outline := ⟨"home", ["a.cs", "load.cs"], []⟩,
        findings := { csharp :=
          { namespaces := [("", ["Store"]), ("load", ["Other"])], classes := [store, other],
            status := .ok } } }
    Filter.ofQuery q "**" = .ok f ∧ q.term ≠ "" ∧ q.useRegex = false ∧ "**" ≠ "" ∧
      a.IsMarkedBy f (a.highlight f) ∧
      f.highlightEntity (.cls store) ≠ .cls store ∧
      f.highlightEntity (.cls other) = .cls other ∧
      Entity.cls store ∈ (f.keep Entity.searchable [.cls store, .cls other]).1 ∧
      Entity.cls other ∉ (f.keep Entity.searchable [.cls store, .cls other]).1 := by
  intro q f store other a
  have hf : Filter.ofQuery q "**" = .ok f := rfl
  obtain ⟨hcopy, -, hplain⟩ := marked_copy_shows_matches a f
  obtain ⟨hmatches, hkept⟩ := hplain q "**" hf (by decide) rfl (by decide)
  have hstore : f.highlightEntity (.cls store) ≠ .cls store := (hmatches _).mp (by decide)
  -- the term is in its path, its namespace, its base and its types, none of which are searched
  have hother : f.highlightEntity (.cls other) = .cls other :=
    not_not.mp (mt (hmatches _).mpr (by decide))
  refine ⟨hf, by decide, rfl, by decide, (hcopy _).mpr rfl, hstore, hother, ?_, ?_⟩
  · exact (hkept _ _ List.mem_cons_self).mpr hstore
  · exact mt (hkept _ _ (List.mem_cons_of_mem _ List.mem_cons_self)).mp (not_not.mpr hother)

end Analyses

end SourceAtlas
