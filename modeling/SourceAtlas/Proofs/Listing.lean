import SourceAtlas.Report.Dialect

/-!
# What a report lists

A report is built in its own way for every dialect, but what it lists is always the same thing: of
the merged entities of the dialect those of the kinds that it shows, one kind after the other, and
of these the ones that match. This also holds for a filter that looks for nothing, since every
entity has a name to match.

* `Findings.listed` — the entities that the report of a dialect lists;
* `Filter.keep_eq_filter` — keeping is filtering, whether or not the filter looks for anything;
* `listed_report` — what the report on some entities lists.
-/

namespace SourceAtlas

/-- The kinds of entity that the report of a dialect lists, in the order of its lists. -/
def Dialect.listedKinds : Dialect → List String
  | .csharp => ["class"]
  | .javascript => ["function", "class"]
  | .react => ["component"]
  | .vue => ["component"]

/-- **The entities that the report of a dialect lists,** one list after the other. -/
def Findings.listed (r : Findings) : Dialect → List Entity
  | .csharp => r.csharp.classes.map Entity.cls
  | .javascript => r.javascript.functions.map Entity.function ++ r.javascript.classes.map Entity.cls
  | .react => r.react.components.map Entity.component
  | .vue => r.vue.components.map Entity.component

/-- The status of the report of a dialect. -/
def Findings.status (r : Findings) : Dialect → Status
  | .csharp => r.csharp.status
  | .javascript => r.javascript.status
  | .react => r.react.status
  | .vue => r.vue.status

/-! ### Keeping is filtering -/

/-- A filter that looks for nothing matches every list of texts that is not empty. -/
theorem Filter.matchesAny_of_not_isActive {f : Filter} (hf : f.isActive = false)
    {texts : List String} (h : texts ≠ []) : f.matchesAny texts = true := by
  obtain ⟨t, ts, rfl⟩ := List.exists_cons_of_ne_nil h
  have htext : f.matchesText t = true := by
    obtain ⟨criterion, marker⟩ := f
    cases criterion with
    | everything => rfl
    | exactly term => cases hf
    | upToCase term => cases hf
    | pattern r => cases hf
  rw [matchesAny, List.any_cons, htext, Bool.true_or]

/-- **Keeping is filtering,** whether or not the filter looks for anything. -/
theorem Filter.keep_eq_filter {α : Type} (f : Filter) {searchable : α → List String}
    (h : ∀ a, searchable a ≠ []) (items : List α) :
    (f.keep searchable items).1 = items.filter fun a => f.matchesAny (searchable a) := by
  unfold keep
  by_cases hempty : items.isEmpty = true
  · rw [if_pos hempty, List.isEmpty_iff.mp hempty]
    rfl
  · rw [if_neg hempty]
    cases hf : f.isActive with
    | true => rfl
    | false =>
      rw [Bool.not_false, if_pos rfl]
      symm
      rw [List.filter_eq_self]
      intro a _
      exact matchesAny_of_not_isActive hf (h a)

/-! ### Entities by kind -/

/-- Selecting the entities of a kind and putting them back is filtering by kind. -/
theorem map_filterMap_kind {α : Type} {select : Entity → Option α} {entity : α → Entity}
    {kind : String}
    (h : ∀ e, (select e).map entity = Option.guard (fun e => e.kind == kind) e)
    (entities : List Entity) :
    (entities.filterMap select).map entity = entities.filter (·.kind == kind) := by
  rw [List.map_filterMap, funext h, List.filterMap_eq_filter]

/-- The functions among entities, told by their kind. -/
theorem map_functions (entities : List Entity) :
    (Entity.functions entities).map Entity.function =
      entities.filter (·.kind == "function") := by
  refine map_filterMap_kind (fun e => ?_) entities
  cases e <;> rfl

theorem map_classes (entities : List Entity) :
    (Entity.classes entities).map Entity.cls = entities.filter (·.kind == "class") := by
  refine map_filterMap_kind (fun e => ?_) entities
  cases e <;> rfl

theorem map_components (entities : List Entity) :
    (Entity.components entities).map Entity.component =
      entities.filter (·.kind == "component") := by
  refine map_filterMap_kind (fun e => ?_) entities
  cases e <;> rfl

theorem Entity.searchable_ne_nil (e : Entity) : e.searchable ≠ [] := by
  cases e <;> exact List.cons_ne_nil _ _

/-! ### Reports -/

/-- What the report of a dialect lists of some entities. -/
def Dialect.shown (d : Dialect) (f : Filter) (entities : List Entity) : List Entity :=
  d.listedKinds.flatMap fun kind => entities.filter fun e => e.kind == kind && f.matchesEntity e

/-- What is kept of some items are those that match as entities. -/
theorem map_keep {α : Type} (f : Filter) (searchable : α → List String) (entity : α → Entity)
    (h : ∀ a, (entity a).searchable = searchable a) (items : List α) :
    (f.keep searchable items).1.map entity = (items.map entity).filter f.matchesEntity := by
  have hne : ∀ a, searchable a ≠ [] := fun a => h a ▸ (entity a).searchable_ne_nil
  have hmatches : (fun a => f.matchesAny (searchable a)) = f.matchesEntity ∘ entity := by
    funext a
    rw [Function.comp_apply, Filter.matchesEntity, h]
  rw [f.keep_eq_filter hne, List.filter_map, hmatches]

/-- Filtering by kind and then by match. -/
theorem filter_kind_filter (f : Filter) (entities : List Entity) (kind : String) :
    (entities.filter (·.kind == kind)).filter f.matchesEntity =
      entities.filter fun e => e.kind == kind && f.matchesEntity e := by
  rw [List.filter_filter]
  congr 1
  funext e
  rw [Bool.and_comm]

/-- Entities of one kind are of no other kind. -/
theorem filter_kind_of_kind (p : Entity → Bool) (entities : List Entity) (kind kind' : String) :
    (entities.filter fun e => e.kind == kind && p e).filter (·.kind == kind') =
      if kind = kind' then entities.filter fun e => e.kind == kind && p e else [] := by
  have hkind : ∀ e ∈ entities.filter fun e => e.kind == kind && p e, e.kind = kind := by
    intro e he
    exact beq_iff_eq.mp (Bool.and_eq_true_iff.mp (List.mem_filter.mp he).2).1
  split
  · next h =>
    rw [List.filter_eq_self]
    intro e he
    exact beq_iff_eq.mpr ((hkind e he).trans h)
  · next h =>
    rw [List.filter_eq_nil_iff]
    intro e he heq
    exact h ((hkind e he).symm.trans (beq_iff_eq.mp heq))

/-- A report of components lists those that the filter finds. -/
theorem components_build (dialect : String) (f : Filter) (entities : List Entity) :
    (ComponentReport.build dialect (Entity.components entities) f).value.components.map
        Entity.component =
      entities.filter fun e => e.kind == "component" && f.matchesEntity e := by
  change (f.keep ComponentEntity.searchable (Entity.components entities)).1.map _ = _
  rw [map_keep f ComponentEntity.searchable Entity.component fun _ => rfl, map_components,
    filter_kind_filter]

theorem classes_build (f : Filter) (entities : List Entity) (declared : List String) :
    (CSharpReport.build (Entity.classes entities) declared f).value.classes.map Entity.cls =
      entities.filter fun e => e.kind == "class" && f.matchesEntity e := by
  change (f.keep ClassEntity.searchable (Entity.classes entities)).1.map _ = _
  rw [map_keep f ClassEntity.searchable Entity.cls fun _ => rfl, map_classes, filter_kind_filter]

/-- The two lists of a report are filtered as one and taken apart again. -/
theorem functions_classes_build (f : Filter) (entities : List Entity) :
    let r := (JavaScriptReport.build (Entity.functions entities) (Entity.classes entities) f).value
    r.functions.map Entity.function ++ r.classes.map Entity.cls =
      (entities.filter fun e => e.kind == "function" && f.matchesEntity e) ++
        entities.filter fun e => e.kind == "class" && f.matchesEntity e := by
  have hkept : (f.keep Entity.searchable ((Entity.functions entities).map Entity.function ++
      (Entity.classes entities).map Entity.cls)).1 =
      (entities.filter fun e => e.kind == "function" && f.matchesEntity e) ++
        entities.filter fun e => e.kind == "class" && f.matchesEntity e := by
    rw [f.keep_eq_filter Entity.searchable_ne_nil, map_functions, map_classes]
    change List.filter f.matchesEntity _ = _
    rw [List.filter_append, filter_kind_filter, filter_kind_filter]
  change (Entity.functions (f.keep Entity.searchable _).1).map _ ++
    (Entity.classes (f.keep Entity.searchable _).1).map _ = _
  -- picking the functions out of the joint list drops the classes, and the other way round
  rw [hkept, map_functions, map_classes]
  simp only [List.filter_append, filter_kind_of_kind]
  simp

/-- **What the report on some entities lists.** -/
theorem listed_report (r : Findings) (d : Dialect) (entities : List Entity) (f : Filter) :
    (r.report d entities f).value.listed d = d.shown f entities := by
  cases d with
  -- one kind is listed, except in JavaScript, whose two lists stand one behind the other
  | csharp => exact (classes_build f entities _).trans (List.append_nil _).symm
  | javascript =>
    refine (functions_classes_build f entities).trans ?_
    rw [Dialect.shown]
    simp [Dialect.listedKinds]
  | react => exact (components_build "React" f entities).trans (List.append_nil _).symm
  | vue => exact (components_build "Vue" f entities).trans (List.append_nil _).symm

/-- The report of a dialect leaves those of the others as they are. -/
theorem listed_report_of_ne (r : Findings) {d d' : Dialect} (h : d' ≠ d) (entities : List Entity)
    (f : Filter) : (r.report d entities f).value.listed d' = r.listed d' := by
  cases d <;> cases d' <;> simp [Findings.report, Findings.listed] at h ⊢

/-- What is shown of one kind. -/
theorem filter_kind_shown {d : Dialect} {kind : String} (h : kind ∈ d.listedKinds) (f : Filter)
    (entities : List Entity) :
    (d.shown f entities).filter (·.kind == kind) =
      entities.filter fun e => e.kind == kind && f.matchesEntity e := by
  -- a dialect lists its kinds one after another, so only the one asked for is left
  have hshown : (d.shown f entities).filter (·.kind == kind) =
      d.listedKinds.flatMap fun kind' =>
        if kind' = kind then entities.filter fun e => e.kind == kind' && f.matchesEntity e
        else [] := by
    rw [Dialect.shown, List.filter_flatMap]
    simp only [filter_kind_of_kind]
  rw [hshown]
  cases d with
  | csharp =>
    obtain rfl := List.mem_singleton.mp h
    simp [Dialect.listedKinds]
  | javascript =>
    rcases List.mem_cons.mp h with rfl | h
    · simp [Dialect.listedKinds]
    · obtain rfl := List.mem_singleton.mp h
      simp [Dialect.listedKinds]
  | react =>
    obtain rfl := List.mem_singleton.mp h
    simp [Dialect.listedKinds]
  | vue =>
    obtain rfl := List.mem_singleton.mp h
    simp [Dialect.listedKinds]

/-- What is shown of some of the entities. -/
theorem filter_shown (d : Dialect) (f : Filter) (p : Entity → Bool) (entities : List Entity) :
    (d.shown f entities).filter p = d.shown f (entities.filter p) := by
  rw [Dialect.shown, Dialect.shown, List.filter_flatMap]
  congr 1
  funext kind
  rw [List.filter_filter, List.filter_filter]
  congr 1
  funext e
  rw [Bool.and_comm]

/-- What is shown is there. -/
theorem mem_of_mem_shown {d : Dialect} {f : Filter} {entities : List Entity} {e : Entity}
    (h : e ∈ d.shown f entities) : e ∈ entities := by
  obtain ⟨kind, -, he⟩ := List.mem_flatMap.mp h
  exact (List.mem_filter.mp he).1

end SourceAtlas
