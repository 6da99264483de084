import SourceAtlas.Proofs.Order

/-!
# The merge of several discoveries is canonical

`aggregate` concatenates what the files gave, keeps the first entity of every key and sorts what is
left. Keys and sort keys are different things: a key is a kind, a name and a file, while the sort
key of a class also holds its namespace, which a key does not. Still the sort has no tie to break,
since entities with equal sort keys have equal keys (`Entity.key_eq_of_sortKey_eq`) and only one of
them survives. So the merge is pinned down by two conditions that do not mention how it was computed
(`IsMerge`): it is strictly increasing, and its members are the first carriers of their keys.

* `IsMerge.unique` — at most one list meets the two conditions;
* `isMerge_aggregate` — `aggregate` meets them;
* `aggregate_filter_filePath` — restricting the merge to some files is merging what these files
  gave;
* `aggregate_canonical` — what the merge promises, independence of the order of the files included.
-/

namespace SourceAtlas

/-- **The order of entities:** code point order of their sort keys. -/
def Entity.Before (a b : Entity) : Prop :=
  KeyLt a.sortKey b.sortKey

/-- **The first carrier of its key** in a list: no entity further ahead has the same key. -/
def IsFirst (entities : List Entity) (e : Entity) : Prop :=
  ∃ ahead behind, entities = ahead ++ e :: behind ∧ ∀ x ∈ ahead, x.key ≠ e.key

/-- **The merge of several discoveries.** -/
structure IsMerge (partials : List (List Entity)) (merged : List Entity) : Prop where
  /-- The entities stand in strictly increasing order. -/
  increasing : merged.Pairwise Entity.Before
  /-- They are those that come first, of all that carry their key, in the concatenation. -/
  firsts : ∀ e, e ∈ merged ↔ IsFirst partials.flatten e

/-- No file has given entities to two of the discoveries. -/
def FilesApart (partials : List (List Entity)) : Prop :=
  partials.Pairwise fun a b => ∀ x ∈ a, ∀ y ∈ b, x.filePath ≠ y.filePath

/-! ### Keys and sort keys -/

theorem Entity.Before.asymm {a b : Entity} (h : a.Before b) : ¬b.Before a :=
  KeyLt.asymm h

/-- Equal sort keys make equal keys. The converse fails for classes of different namespaces. -/
theorem Entity.key_eq_of_sortKey_eq {a b : Entity} (h : a.sortKey = b.sortKey) :
    a.key = b.key := by
  -- the kind comes first in a sort key, so entities of different kinds are told apart by it
  cases a <;> cases b <;>
    simp only [Entity.sortKey, Entity.key, Entity.kind, Entity.name, Entity.filePath,
      List.cons.injEq, reduceCtorEq, String.reduceEq, and_false, false_and, and_true,
      true_and] at h ⊢
  · rw [h.1, h.2]
  · rw [h.2.1, h.2.2]
  · rw [h.1, h.2]
  · rw [h.1, h.2]

/-- Of two entities with different keys, the one that the sort puts first comes strictly first. -/
theorem Entity.before_of_le {a b : Entity} (hne : a.key ≠ b.key) (hle : a.le b = true) :
    a.Before b :=
  ((keyLe_iff a.sortKey b.sortKey).mp hle).resolve_left fun h =>
    hne (Entity.key_eq_of_sortKey_eq h)

theorem Entity.le_trans (a b c : Entity) (hab : a.le b = true) (hbc : b.le c = true) :
    a.le c = true :=
  keyLe_trans _ _ _ hab hbc

theorem Entity.le_total (a b : Entity) : (a.le b || b.le a) = true :=
  keyLe_total _ _

/-! ### First carriers -/

/-- A first one of its key is one. -/
theorem IsFirst.mem {l : List Entity} {e : Entity} (h : IsFirst l e) : e ∈ l := by
  obtain ⟨ahead, behind, rfl, -⟩ := h
  exact List.mem_append_right _ List.mem_cons_self

theorem not_isFirst_nil (e : Entity) : ¬IsFirst [] e :=
  fun h => List.not_mem_nil h.mem

/-- The first of a key is at the front, or the first of the others if the front has another key. -/
theorem isFirst_cons_iff (x : Entity) (l : List Entity) (e : Entity) :
    IsFirst (x :: l) e ↔ e = x ∨ x.key ≠ e.key ∧ IsFirst l e := by
  constructor
  · rintro ⟨ahead, behind, hl, hne⟩
    cases ahead with
    | nil => exact Or.inl (List.cons.inj hl).1.symm
    | cons y ahead =>
      obtain ⟨rfl, rfl⟩ := List.cons.inj hl
      refine Or.inr ⟨hne x List.mem_cons_self, ahead, behind, rfl, fun z hz => ?_⟩
      exact hne z (List.mem_cons_of_mem x hz)
  · rintro (rfl | ⟨hx, ahead, behind, rfl, hne⟩)
    · exact ⟨[], l, rfl, fun z hz => absurd hz List.not_mem_nil⟩
    · refine ⟨x :: ahead, behind, rfl, fun z hz => ?_⟩
      rcases List.mem_cons.mp hz with rfl | hz
      · exact hx
      · exact hne z hz

/-- A first carrier of a concatenation comes from the first part, or from the second while the first
has nothing of its key. -/
theorem isFirst_append_iff (l l' : List Entity) (e : Entity) :
    IsFirst (l ++ l') e ↔ IsFirst l e ∨ (∀ x ∈ l, x.key ≠ e.key) ∧ IsFirst l' e := by
  induction l with
  | nil =>
    have hnil := not_isFirst_nil e
    simp only [List.nil_append, List.not_mem_nil, false_implies, implies_true, true_and]
    tauto
  | cons x l ih =>
    rw [List.cons_append, isFirst_cons_iff, isFirst_cons_iff, ih, List.forall_mem_cons]
    tauto

/-- The first carriers after some entities are gone, where an entity is kept or not by its file. -/
theorem isFirst_filter_iff (keep : String → Bool) (l : List Entity) (e : Entity) :
    IsFirst (l.filter fun x => keep x.filePath) e ↔ IsFirst l e ∧ keep e.filePath = true := by
  induction l with
  | nil =>
    have hnil := not_isFirst_nil e
    rw [List.filter_nil]
    tauto
  | cons x l ih =>
    by_cases hx : keep x.filePath = true
    · -- `x` stays and hides the same entities as before
      rw [List.filter_cons, if_pos hx, isFirst_cons_iff, isFirst_cons_iff, ih]
      have hself : e = x → keep e.filePath = true := fun h => h ▸ hx
      tauto
    · rw [List.filter_cons, if_neg hx, ih, isFirst_cons_iff]
      -- `x` is gone, and whatever is kept differs from it in its file
      have hself : keep e.filePath = true → e ≠ x := fun he h => hx (h ▸ he)
      have hkey : keep e.filePath = true → x.key ≠ e.key := fun he h =>
        hx (by rw [show x.filePath = e.filePath from congrArg (fun k => k.2.2) h]; exact he)
      tauto

/-- Where every key occurs once, every entity is the first carrier of its key. -/
theorem isFirst_of_mem {l : List Entity} (h : l.Pairwise fun a b => a.key ≠ b.key) {e : Entity}
    (he : e ∈ l) : IsFirst l e := by
  obtain ⟨ahead, behind, rfl⟩ := List.append_of_mem he
  refine ⟨ahead, behind, rfl, fun x hx => ?_⟩
  exact (List.pairwise_append.mp h).2.2 x hx e List.mem_cons_self

/-- Every key of a list has a first carrier. -/
theorem exists_isFirst {l : List Entity} {x : Entity} (hx : x ∈ l) :
    ∃ e, IsFirst l e ∧ e.key = x.key := by
  induction l with
  | nil => exact absurd hx List.not_mem_nil
  | cons y l ih =>
    by_cases hy : y.key = x.key
    · exact ⟨y, (isFirst_cons_iff y l y).mpr (Or.inl rfl), hy⟩
    · rcases List.mem_cons.mp hx with rfl | hx
      · exact absurd rfl hy
      · obtain ⟨e, he, hkey⟩ := ih hx
        exact ⟨e, (isFirst_cons_iff y l e).mpr (Or.inr ⟨hkey ▸ hy, he⟩), hkey⟩

/-! ### Keeping the first of each key -/

/-- Of the entities whose key was not seen, the first of each is kept. -/
theorem mem_keepNew_iff (seen : List (String × String × String)) (l : List Entity) (e : Entity) :
    e ∈ deduplicate.keepNew seen l ↔ e.key ∉ seen ∧ IsFirst l e := by
  fun_induction deduplicate.keepNew seen l with
  | case1 seen =>
    have hnil := not_isFirst_nil e
    rw [List.mem_nil_iff]
    tauto
  | case2 seen x l hx ih =>
    -- `x` was seen before, so it hides no entity that has not been seen
    rw [List.contains_iff_mem] at hx
    rw [ih, isFirst_cons_iff]
    have hself : e.key ∉ seen → e ≠ x := fun he h => he (h ▸ hx)
    have hkey : e.key ∉ seen → x.key ≠ e.key := fun he h => he (h ▸ hx)
    tauto
  | case3 seen x l hx ih =>
    -- `x` is new: it is kept, and its key counts as seen from here on
    rw [List.contains_iff_mem] at hx
    rw [List.mem_cons, ih, isFirst_cons_iff, List.mem_cons, not_or]
    have hself : e = x → e.key ∉ seen := fun h => h ▸ hx
    have hsymm : e.key ≠ x.key ↔ x.key ≠ e.key := ne_comm
    tauto

/-- **Of entities with one key the first is kept.** -/
theorem mem_deduplicate_iff (l : List Entity) (e : Entity) : e ∈ deduplicate l ↔ IsFirst l e := by
  rw [deduplicate, mem_keepNew_iff]
  exact and_iff_right List.not_mem_nil

/-- What is kept has distinct keys. -/
theorem pairwise_key_keepNew (seen : List (String × String × String)) (l : List Entity) :
    (deduplicate.keepNew seen l).Pairwise fun a b => a.key ≠ b.key := by
  fun_induction deduplicate.keepNew seen l with
  | case1 seen => exact List.Pairwise.nil
  | case2 seen x l hx ih => exact ih
  | case3 seen x l hx ih =>
    refine List.pairwise_cons.mpr ⟨fun y hy => ?_, ih⟩
    have hy' := ((mem_keepNew_iff (x.key :: seen) l y).mp hy).1
    exact fun h => hy' (h ▸ List.mem_cons_self)

/-! ### The merge -/

/-- **At most one list is the merge.** A strictly increasing list is determined by its members. -/
theorem IsMerge.unique {partials : List (List Entity)} {merged others : List Entity}
    (h : IsMerge partials merged) (h' : IsMerge partials others) : merged = others := by
  refine eq_of_pairwise_of_mem_iff (fun _ _ => Entity.Before.asymm) h.increasing h'.increasing ?_
  intro e
  rw [h.firsts, h'.firsts]

/-- **`aggregate` computes the merge.** After the keys are made distinct, the sort has no tie to
break. -/
theorem isMerge_aggregate (partials : List (List Entity)) :
    IsMerge partials (aggregate partials) where
  increasing := by
    refine pairwise_mergeSort_of_strict Entity.le_trans Entity.le_total ?_
    refine (pairwise_key_keepNew [] partials.flatten).imp fun hne => ⟨?_, ?_⟩
    · exact Entity.before_of_le hne
    · exact Entity.before_of_le hne.symm
  firsts e := by
    rw [aggregate, List.mem_mergeSort, mem_deduplicate_iff]

/-- Two concatenations with the same first carriers have the same merge. -/
theorem aggregate_eq_of_isFirst_iff {partials others : List (List Entity)}
    (h : ∀ e, IsFirst partials.flatten e ↔ IsFirst others.flatten e) :
    aggregate partials = aggregate others := by
  refine (isMerge_aggregate partials).unique ⟨(isMerge_aggregate others).increasing, fun e => ?_⟩
  rw [(isMerge_aggregate others).firsts, h]

/-- **A merged list has distinct keys.** -/
theorem pairwise_key_aggregate (partials : List (List Entity)) :
    (aggregate partials).Pairwise fun a b => a.key ≠ b.key := by
  have hperm := (List.mergeSort_perm (deduplicate partials.flatten) Entity.le).symm
  exact (pairwise_key_keepNew [] partials.flatten).perm hperm fun h => h.symm

/-- Where the files are apart, an entity comes first in the concatenation just if it does in the
discoveries of its own file. -/
theorem FilesApart.isFirst_flatten_iff {partials : List (List Entity)} (h : FilesApart partials)
    (e : Entity) : IsFirst partials.flatten e ↔ ∃ part ∈ partials, IsFirst part e := by
  induction partials with
  | nil => exact iff_of_false (not_isFirst_nil e) fun ⟨_, hpart, _⟩ => List.not_mem_nil hpart
  | cons part partials ih =>
    obtain ⟨hpart, hrest⟩ := List.pairwise_cons.mp h
    rw [List.flatten_cons, isFirst_append_iff, List.exists_mem_cons_iff, ← ih hrest]
    -- an entity of another file cannot share a key with one of `part`
    have hkey : IsFirst partials.flatten e → ∀ x ∈ part, x.key ≠ e.key := by
      intro he x hx heq
      obtain ⟨other, hother, heother⟩ := List.mem_flatten.mp he.mem
      exact hpart other hother x hx e heother (congrArg (fun k => k.2.2) heq)
    tauto

/-- **Restricting the merge to some files is merging what these files gave.** -/
theorem aggregate_filter_filePath (keep : String → Bool) (partials : List (List Entity)) :
    (aggregate partials).filter (fun e => keep e.filePath) =
      aggregate (partials.map fun part => part.filter fun e => keep e.filePath) := by
  symm
  refine (isMerge_aggregate _).unique
    ⟨(isMerge_aggregate partials).increasing.filter _, fun e => ?_⟩
  rw [← List.filter_flatten, isFirst_filter_iff, List.mem_filter,
    (isMerge_aggregate partials).firsts]

/-- **The merge is canonical.** `aggregate` gives the one strictly increasing list of the first
carriers of all keys. So no key occurs twice and none is lost, merging again changes nothing, and as
long as no file has given entities to two discoveries, their order does not matter. -/
theorem aggregate_canonical (partials : List (List Entity)) :
    IsMerge partials (aggregate partials) ∧
      (∀ merged, IsMerge partials merged → merged = aggregate partials) ∧
      (aggregate partials).Pairwise (fun a b => a.key ≠ b.key) ∧
      (∀ x ∈ partials.flatten, ∃ e ∈ aggregate partials, e.key = x.key) ∧
      aggregate [aggregate partials] = aggregate partials ∧
      ∀ shuffled : List (List Entity), shuffled.Perm partials → FilesApart partials →
        aggregate shuffled = aggregate partials := by
  have hmerge := isMerge_aggregate partials
  refine ⟨hmerge, fun merged h => h.unique hmerge, pairwise_key_aggregate partials, ?_, ?_, ?_⟩
  · intro x hx
    obtain ⟨e, he, hkey⟩ := exists_isFirst hx
    exact ⟨e, (hmerge.firsts e).mpr he, hkey⟩
  · -- the merge is strictly increasing, and each of its entities is alone with its key
    refine ((isMerge_aggregate [aggregate partials]).unique ⟨hmerge.increasing, fun e => ?_⟩)
    rw [List.flatten_singleton]
    exact ⟨isFirst_of_mem (pairwise_key_aggregate partials), IsFirst.mem⟩
  · -- apart, files do not hide entities from one another: first carriers are found file by file
    intro shuffled hperm hapart
    have hapart' : FilesApart shuffled :=
      hapart.perm hperm.symm fun h y hy x hx heq => h x hx y hy heq.symm
    refine aggregate_eq_of_isFirst_iff fun e => ?_
    rw [hapart.isFirst_flatten_iff, hapart'.isFirst_flatten_iff]
    exact ⟨fun ⟨part, hpart, he⟩ => ⟨part, hperm.mem_iff.mp hpart, he⟩,
      fun ⟨part, hpart, he⟩ => ⟨part, hperm.mem_iff.mpr hpart, he⟩⟩

/-- Two files declare `f`, one of them twice as a function and once as a class: the first function
and the class of that file are kept, and the files may come in either order. -/
theorem aggregate_canonical_two_files :
    let cls : Entity := .cls { name := "f", filePath := "a.js" }
    let first : Entity := .function { name := "f", filePath := "a.js", parameters := ["x"] }
    let second : Entity := .function { name := "f", filePath := "a.js" }
    let other : Entity := .function { name := "f", filePath := "b.js" }
    [cls, first, other] = aggregate [[first, cls, second], [other]] ∧
      aggregate [[other], [first, cls, second]] = aggregate [[first, cls, second], [other]] := by
  intro cls first second other
  obtain ⟨-, hunique, -, -, -, hshuffled⟩ := aggregate_canonical [[first, cls, second], [other]]
  refine ⟨hunique _ ⟨?_, fun e => ?_⟩, hshuffled _ (List.Perm.swap _ _ _) ?_⟩
  · refine .cons ?_ (.cons ?_ (.cons ?_ .nil)) <;> intro e he
    · simp only [List.mem_cons, List.not_mem_nil, or_false] at he
      rcases he with rfl | rfl <;> exact Entity.before_of_le (by decide) (by decide)
    · obtain rfl := List.mem_singleton.mp he
      exact Entity.before_of_le (by decide) (by decide)
    · exact absurd he List.not_mem_nil
  · -- the second function has the key of the first and is left out
    have hkept : deduplicate [first, cls, second, other] = [first, cls, other] := by decide
    have hperm : [cls, first, other].Perm [first, cls, other] := List.Perm.swap _ _ _
    rw [show [[first, cls, second], [other]].flatten = [first, cls, second, other] from rfl,
      ← mem_deduplicate_iff, hkept]
    exact hperm.mem_iff
  · unfold FilesApart
    decide

end SourceAtlas
