import Mathlib.Data.List.Lex
import Mathlib.Data.List.Sort
import SourceAtlas.Entity.Aggregate

/-!
# Code point order

Everything that is listed is listed in code point order: strings by their code points, and sort
keys, which are lists of strings, string by string. Both orders are lexicographic, so they are
stated here through `List.Lex` over the numbers of the characters, and the Boolean comparisons that
the sorting functions are given are shown to decide them.

* `stringLe_iff` and `keyLe_iff` — the comparisons on strings and on sort keys;
* `sortedDistinct_eq_of_mem_iff` — the strictly increasing list of some strings is determined by its
  members, so `sortedDistinct` depends on nothing but the set of the strings it is given.
-/

namespace SourceAtlas

/-- The numbers of the characters of a string. -/
def codePoints (s : String) : List Nat :=
  s.toList.map Char.toNat

/-- **Code point order on strings.** -/
def CodeLt (a b : String) : Prop :=
  List.Lex (· < ·) (codePoints a) (codePoints b)

/-- **Code point order on lists of strings,** string by string. -/
def KeyLt (a b : List String) : Prop :=
  List.Lex (List.Lex (· < ·)) (a.map codePoints) (b.map codePoints)

/-! ### Strings -/

/-- A lexicographic order does not change when the letters are renamed by a map that keeps and
reflects their order. -/
theorem lex_map_iff {α β : Type} {r : α → α → Prop} {s : β → β → Prop} {f : α → β}
    (hinj : Function.Injective f) (hrel : ∀ a b, r a b ↔ s (f a) (f b)) (as bs : List α) :
    List.Lex s (as.map f) (bs.map f) ↔ List.Lex r as bs := by
  induction as generalizing bs with
  | nil =>
    cases bs with
    | nil => exact ⟨fun h => (nomatch h), fun h => (nomatch h)⟩
    | cons b bs => exact ⟨fun _ => .nil, fun _ => .nil⟩
  | cons a as ih =>
    cases bs with
    | nil => exact ⟨fun h => (nomatch h), fun h => (nomatch h)⟩
    | cons b bs =>
      rw [List.map_cons, List.map_cons, List.cons_lex_cons_iff, List.cons_lex_cons_iff, ih bs,
        ← hrel a b, hinj.eq_iff]

/-- A text is determined by its code points. -/
theorem codePoints_injective : Function.Injective codePoints := by
  intro a b h
  have hchar : Function.Injective Char.toNat := fun c c' hc => Char.toNat_inj.mp hc
  exact String.toList_injective (hchar.list_map h)

/-- The order of strings is code point order. -/
theorem lt_iff_codeLt (a b : String) : a < b ↔ CodeLt a b := by
  have hchar : Function.Injective Char.toNat := fun c c' hc => Char.toNat_inj.mp hc
  have hrel : ∀ c c' : Char, c < c' ↔ c.toNat < c'.toNat := fun _ _ => Iff.rfl
  exact (lex_map_iff hchar hrel a.toList b.toList).symm

theorem codeLt_irrefl (a : String) : ¬CodeLt a a := by
  rw [← lt_iff_codeLt]
  exact String.lt_irrefl a

/-- The order of texts is transitive. -/
theorem CodeLt.trans {a b c : String} (hab : CodeLt a b) (hbc : CodeLt b c) : CodeLt a c := by
  rw [← lt_iff_codeLt] at hab hbc ⊢
  exact String.lt_trans hab hbc

theorem CodeLt.asymm {a b : String} (h : CodeLt a b) : ¬CodeLt b a :=
  fun h' => codeLt_irrefl a (h.trans h')

/-- Any two texts are ordered one way or the other, or equal. -/
theorem codeLt_trichotomous (a b : String) : CodeLt a b ∨ a = b ∨ CodeLt b a := by
  rw [← lt_iff_codeLt, ← lt_iff_codeLt]
  by_cases hab : a < b
  · exact Or.inl hab
  · by_cases hba : b < a
    · exact Or.inr (Or.inr hba)
    · exact Or.inr (Or.inl (String.le_antisymm hba hab))

/-- The comparison that sorting runs is the order of texts, or equality. -/
theorem stringLe_iff (a b : String) : stringLe a b = true ↔ a = b ∨ CodeLt a b := by
  have hle : stringLe a b = true ↔ ¬CodeLt b a := by
    rw [← lt_iff_codeLt, stringLe, Bool.not_eq_true', decide_eq_false_iff_not]
  rw [hle]
  constructor
  · -- not above is below or equal, the order being total
    intro h
    rcases codeLt_trichotomous a b with hlt | heq | hgt
    · exact Or.inr hlt
    · exact Or.inl heq
    · exact absurd hgt h
  · rintro (rfl | hlt)
    · exact codeLt_irrefl a
    · exact hlt.asymm

theorem stringLe_trans (a b c : String) (hab : stringLe a b = true) (hbc : stringLe b c = true) :
    stringLe a c = true := by
  rw [stringLe_iff] at hab hbc ⊢
  rcases hab with rfl | hab
  · exact hbc
  · rcases hbc with rfl | hbc
    · exact Or.inr hab
    · exact Or.inr (hab.trans hbc)

theorem stringLe_total (a b : String) : (stringLe a b || stringLe b a) = true := by
  rw [Bool.or_eq_true, stringLe_iff, stringLe_iff]
  rcases codeLt_trichotomous a b with hlt | heq | hgt
  · exact Or.inl (Or.inr hlt)
  · exact Or.inl (Or.inl heq)
  · exact Or.inr (Or.inr hgt)

/-! ### Sort keys -/

/-- Keys are compared by their first texts, and by the rest where those are equal. -/
theorem keyLt_cons_iff (a b : String) (as bs : List String) :
    KeyLt (a :: as) (b :: bs) ↔ CodeLt a b ∨ a = b ∧ KeyLt as bs := by
  unfold KeyLt
  rw [List.map_cons, List.map_cons, List.cons_lex_cons_iff, codePoints_injective.eq_iff]
  exact Iff.rfl

/-- Nothing is before the empty key. -/
theorem not_keyLt_nil (as : List String) : ¬KeyLt as [] := by
  intro h
  cases as <;> exact nomatch h

theorem nil_keyLt_cons (b : String) (bs : List String) : KeyLt [] (b :: bs) :=
  List.Lex.nil

theorem keyLt_irrefl (a : List String) : ¬KeyLt a a := by
  induction a with
  | nil => exact not_keyLt_nil []
  | cons x xs ih =>
    rw [keyLt_cons_iff]
    rintro (h | ⟨-, h⟩)
    · exact codeLt_irrefl x h
    · exact ih h

/-- The order of keys is transitive, by induction on the three of them. -/
theorem KeyLt.trans {a b c : List String} (hab : KeyLt a b) (hbc : KeyLt b c) : KeyLt a c := by
  induction a generalizing b c with
  | nil =>
    cases c with
    | nil => exact absurd hbc (not_keyLt_nil b)
    | cons z zs => exact nil_keyLt_cons z zs
  | cons x xs ih =>
    cases b with
    | nil => exact absurd hab (not_keyLt_nil _)
    | cons y ys =>
      cases c with
      | nil => exact absurd hbc (not_keyLt_nil _)
      | cons z zs =>
        -- decided by the first texts, or passed on to the rest
        rw [keyLt_cons_iff] at hab hbc ⊢
        rcases hab with hxy | ⟨rfl, hab⟩
        · rcases hbc with hyz | ⟨rfl, -⟩
          · exact Or.inl (hxy.trans hyz)
          · exact Or.inl hxy
        · exact hbc.imp_right fun h => ⟨h.1, ih hab h.2⟩

theorem KeyLt.asymm {a b : List String} (h : KeyLt a b) : ¬KeyLt b a :=
  fun h' => keyLt_irrefl a (h.trans h')

/-- The comparison of sort keys decides their code point order. -/
theorem keyLe_iff (a b : List String) : keyLe a b = true ↔ a = b ∨ KeyLt a b := by
  induction a generalizing b with
  | nil =>
    cases b with
    | nil => exact iff_of_true rfl (Or.inl rfl)
    | cons y ys => exact iff_of_true rfl (Or.inr (nil_keyLt_cons y ys))
  | cons x xs ih =>
    cases b with
    | nil => exact iff_of_false Bool.false_ne_true (by rintro (h | h) <;> exact nomatch h)
    | cons y ys =>
      rw [keyLe, keyLt_cons_iff]
      by_cases hxy : x = y
      · -- equal strings leave the decision to the rest of the keys
        subst hxy
        rw [if_pos rfl, ih ys, List.cons_inj_right]
        have hxx := codeLt_irrefl x
        tauto
      · rw [if_neg hxy, decide_eq_true_iff, lt_iff_codeLt, List.cons_eq_cons]
        tauto

/-- The comparison of keys that sorting runs is transitive. -/
theorem keyLe_trans (a b c : List String) (hab : keyLe a b = true) (hbc : keyLe b c = true) :
    keyLe a c = true := by
  rw [keyLe_iff] at hab hbc ⊢
  rcases hab with rfl | hab
  · exact hbc
  · rcases hbc with rfl | hbc
    · exact Or.inr hab
    · exact Or.inr (hab.trans hbc)

theorem keyLe_total (a b : List String) : (keyLe a b || keyLe b a) = true := by
  induction a generalizing b with
  | nil => simp only [keyLe, Bool.true_or]
  | cons x xs ih =>
    cases b with
    | nil => simp only [keyLe, Bool.or_true]
    | cons y ys =>
      rw [Bool.or_eq_true, keyLe_iff, keyLe_iff, keyLt_cons_iff, keyLt_cons_iff]
      rcases codeLt_trichotomous x y with hlt | rfl | hgt
      · exact Or.inl (Or.inr (Or.inl hlt))
      · have htail := ih ys
        rw [Bool.or_eq_true, keyLe_iff, keyLe_iff] at htail
        rcases htail with (rfl | h) | (rfl | h)
        · exact Or.inl (Or.inl rfl)
        · exact Or.inl (Or.inr (Or.inr ⟨rfl, h⟩))
        · exact Or.inl (Or.inl rfl)
        · exact Or.inr (Or.inr (Or.inr ⟨rfl, h⟩))
      · exact Or.inr (Or.inr (Or.inl hgt))

/-! ### Strictly increasing lists -/

/-- A list that is strictly increasing in an asymmetric relation is determined by its members. -/
theorem eq_of_pairwise_of_mem_iff {α : Type} {r : α → α → Prop} (hasymm : ∀ a b, r a b → ¬r b a)
    {as bs : List α} (ha : as.Pairwise r) (hb : bs.Pairwise r) (h : ∀ x, x ∈ as ↔ x ∈ bs) :
    as = bs := by
  -- no repetitions, so the same members make a permutation, and a sorted one is unique
  have hnodup : ∀ {l : List α}, l.Pairwise r → l.Nodup := by
    intro l hl
    refine List.Pairwise.imp ?_ hl
    intro x y hxy heq
    subst heq
    exact hasymm x x hxy hxy
  have hperm : as.Perm bs := (List.perm_ext_iff_of_nodup (hnodup ha) (hnodup hb)).mpr h
  exact hperm.eq_of_pairwise (fun x y _ _ hxy hyx => absurd hyx (hasymm x y hxy)) ha hb

/-- Sorting a list without ties gives a strictly increasing list: what the comparison `le` leaves
open between two items is decided by `r`, unless they are equal under it. -/
theorem pairwise_mergeSort_of_strict {α : Type} {le : α → α → Bool} {r : α → α → Prop}
    (htrans : ∀ a b c, le a b = true → le b c = true → le a c = true)
    (htotal : ∀ a b, (le a b || le b a) = true) {l : List α}
    (hstrict : l.Pairwise fun a b => (le a b = true → r a b) ∧ (le b a = true → r b a)) :
    (l.mergeSort le).Pairwise r := by
  have hsorted := List.pairwise_mergeSort htrans htotal l
  -- the strictness condition is symmetric, so it survives the sort
  have hstrict' : (l.mergeSort le).Pairwise
      fun a b => (le a b = true → r a b) ∧ (le b a = true → r b a) :=
    hstrict.perm (List.mergeSort_perm l le).symm fun h => ⟨h.2, h.1⟩
  exact hsorted.imp₂ (fun a b hle h => h.1 hle) hstrict'

/-- Leaving out repetitions loses no member. -/
theorem mem_distinct {α : Type} [BEq α] [LawfulBEq α] (as : List α) (x : α) :
    x ∈ distinct as ↔ x ∈ as := by
  induction as with
  | nil => exact Iff.rfl
  | cons a as ih =>
    rw [distinct, List.mem_cons, List.mem_cons, List.mem_filter, ih]
    by_cases hxa : x = a
    · exact iff_of_true (Or.inl hxa) (Or.inl hxa)
    · have hne : (!(x == a)) = true := by rw [beq_eq_false_iff_ne.mpr hxa]; rfl
      rw [hne]
      tauto

/-- What is left has no repetitions. -/
theorem nodup_distinct {α : Type} [BEq α] [LawfulBEq α] (as : List α) : (distinct as).Nodup := by
  induction as with
  | nil => exact List.nodup_nil
  | cons a as ih =>
    rw [distinct, List.nodup_cons]
    refine ⟨fun h => ?_, ih.filter _⟩
    rw [List.mem_filter, BEq.rfl] at h
    exact Bool.false_ne_true h.2

/-- Sorting names and leaving out repetitions loses no name. -/
@[simp] theorem mem_sortedDistinct (names : List String) (x : String) :
    x ∈ sortedDistinct names ↔ x ∈ names := by
  rw [sortedDistinct, List.mem_mergeSort, mem_distinct]

/-- Each name that is left is strictly before the next. -/
theorem pairwise_sortedDistinct (names : List String) : (sortedDistinct names).Pairwise CodeLt := by
  refine pairwise_mergeSort_of_strict stringLe_trans stringLe_total ?_
  refine (nodup_distinct names).imp fun hne => ⟨fun hle => ?_, fun hle => ?_⟩
  · exact ((stringLe_iff _ _).mp hle).resolve_left hne
  · exact ((stringLe_iff _ _).mp hle).resolve_left hne.symm

/-- **The strictly increasing list of some strings is determined by its members.** -/
theorem sortedDistinct_eq_of_mem_iff {names others : List String}
    (h : ∀ x, x ∈ names ↔ x ∈ others) : sortedDistinct names = sortedDistinct others := by
  refine eq_of_pairwise_of_mem_iff (fun _ _ => CodeLt.asymm) (pairwise_sortedDistinct names)
    (pairwise_sortedDistinct others) fun x => ?_
  rw [mem_sortedDistinct, mem_sortedDistinct]
  exact h x

end SourceAtlas
