import SourceAtlas.Proofs.Regex.Quoted
import SourceAtlas.Proofs.Search.Highlight

/-!
# Searching for a plain term

Whether a text contains a plain term is decided by one procedure and where to mark it by another,
which reads a pattern. Both come down to the occurrences of the term: a text is included just where
there is one, and what is marked are the occurrences met from left to right. Where case matters,
this is the same as replacing the term by itself between markers.

* `insertAt_ends_eq_replaceAll` — markers at both ends of the occurrences, as a replacement;
* `matchesText_iff_exists_occursAt` — inclusion is occurrence;
* `literal_search_exact` — all of it for the filters of plain queries.
-/

namespace SourceAtlas.Filter

open Regex (Leftmost OccursAt asIs sameUnder literal)
open Text (replaceAll)

/-! ### Marking is replacing -/

section Replacing

variable {same : Char → Char → Bool} {term text : List Char} {pos : Nat}
  {spans : List (Nat × Nat)}

theorem le_of_mem_ends (h : Leftmost same term text pos spans) :
    ∀ p ∈ ends spans, pos ≤ p := by
  intro p hp
  obtain ⟨sp, hsp, hp⟩ := List.mem_flatMap.mp hp
  obtain ⟨hstart, -, hend⟩ := h.occurs sp hsp
  simp only [List.mem_cons, List.not_mem_nil, or_false] at hp
  omega

/-- **Markers at both ends of the occurrences of a term,** met from left to right, replace the term
by itself between markers. -/
theorem insertAt_ends_eq_replaceAll (marker : List Char) (hterm : term ≠ [])
    (h : Leftmost asIs term text pos spans) :
    insertAt marker (ends spans) pos (text.drop pos) =
      replaceAll term (marker ++ term ++ marker) (text.drop pos) := by
  have hlength := List.length_pos_of_ne_nil hterm
  -- the induction goes along the replacement, which the spans follow
  generalize hrest : text.drop pos = rest
  fun_induction replaceAll term (marker ++ term ++ marker) rest generalizing pos spans with
  | case1 =>
    rw [h.eq_nil_of_length_le hterm (List.drop_eq_nil_iff.mp hrest)]
    exact insertAt_nil marker pos []
  | case2 c rest hprefix ih =>
    have hhere : term <+: c :: rest := List.isPrefixOf_iff_prefix.mp hprefix
    have hoccurs : OccursAt asIs term text pos := by
      rw [Regex.occursAt_asIs_iff, hrest]
      exact hhere
    obtain ⟨later, rfl, hlater⟩ := h.exists_cons_of_occursAt hterm hoccurs
    have hskip : rest.drop (term.length - 1) = (c :: rest).drop term.length := by
      obtain ⟨n, hn⟩ := Nat.exists_eq_add_one_of_ne_zero (Nat.ne_of_gt hlength)
      rw [hn, List.drop_succ_cons, Nat.add_sub_cancel]
    have hnext : text.drop (pos + term.length) = rest.drop (term.length - 1) := by
      rw [← List.drop_drop, hrest, hskip]
    have hfits : pos + term.length ≤ pos + (c :: rest).length :=
      Nat.add_le_add_left hhere.length_le pos
    have hends : ends ((pos, pos + term.length) :: later) =
      pos :: (pos + term.length) :: ends later := rfl
    rw [hends, insertAt_span marker (Nat.le_refl pos) (Nat.le_add_right _ _) hfits
      (le_of_mem_ends hlater), Nat.sub_self, Nat.add_sub_cancel_left, List.take_zero,
      List.drop_zero, ← List.prefix_iff_eq_take.mp hhere, ← hskip, ih hlater hnext]
    rfl
  | case3 c rest hprefix ih =>
    have hno : ¬OccursAt asIs term text pos := by
      rw [Regex.occursAt_asIs_iff, hrest, ← List.isPrefixOf_iff_prefix]
      exact hprefix
    have hlater := h.of_not_occursAt hno
    have hnext : text.drop (pos + 1) = rest := by rw [← List.drop_drop, hrest]; rfl
    have hone : 1 ≤ (c :: rest).length := Nat.succ_le_succ (Nat.zero_le _)
    rw [insertAt_eq_take_append marker hone (le_of_mem_ends hlater)]
    exact congrArg (c :: ·) (ih hlater hnext)

end Replacing

/-! ### The filters of plain terms -/

section Plain

variable {q : Query} {f : Filter} {same : Char → Char → Bool} {term : List Char}

/-- A plain query compiles to the pattern of its term. -/
theorem exists_ofQuery (marker : String) (hterm : q.term ≠ "") (hplain : q.useRegex = false) :
    ∃ f, ofQuery q marker = .ok f ∧ f.marker = marker ∧ f.isActive = true ∧
      f.regex? = some (literal (sameUnder (!q.caseSensitive)) q.term.toList) := by
  unfold ofQuery
  rw [if_neg hterm, hplain]
  cases q.caseSensitive with
  | true => exact ⟨_, rfl, rfl, rfl, rfl⟩
  | false => exact ⟨_, rfl, rfl, rfl, rfl⟩

/-- The matches of a term are its occurrences from left to right. -/
theorem leftmost_found (hregex : f.regex? = some (literal same term)) (hterm : term ≠ [])
    (s : String) : Leftmost same term s.toList 0 (f.found s) := by
  rw [found, hregex]
  exact Regex.leftmost_findAll same hterm s.toList

/-- All of them are marked. -/
theorem marked_eq_found (hregex : f.regex? = some (literal same term)) (hterm : term ≠ [])
    (s : String) : f.marked s = f.found s := by
  rw [marked, List.filter_eq_self]
  intro sp hsp
  have hend := ((leftmost_found hregex hterm s).occurs sp hsp).2.2
  have hlength := List.length_pos_of_ne_nil hterm
  exact decide_eq_true (by omega)

/-- **A text is included just where the term occurs.** -/
theorem matchesText_iff_exists_occursAt (hactive : f.isActive = true)
    (hregex : f.regex? = some (literal same term)) (hterm : term ≠ []) (s : String) :
    f.matchesText s = true ↔ ∃ p, OccursAt same term s.toList p := by
  rw [← (leftmost_found hregex hterm s).ne_nil_iff, ← Bool.not_eq_false,
    f.matchesText_eq_false_iff s, and_iff_right hactive]

/-- **Searching for a plain term is exact.** The query compiles to what the quoted term reads as.
The term's occurrences met from left to right, of which there is one list, are what is marked; a
text is included just where there are any. Where case matters, marking is replacing, and inclusion
is being a part of the text. What is included then is also included where case does not matter. -/
theorem literal_search_exact (q : Query) (marker s : String) (hterm : q.term ≠ "")
    (hplain : q.useRegex = false) :
    ∃ f r, ofQuery q marker = .ok f ∧ f.regex? = some r ∧
      Regex.parse (!q.caseSensitive) (Regex.quote q.term.toList) = .ok r ∧
      (∃ spans, Leftmost (sameUnder (!q.caseSensitive)) q.term.toList s.toList 0 spans ∧
        (∀ spans', Leftmost (sameUnder (!q.caseSensitive)) q.term.toList s.toList 0 spans' →
          spans' = spans) ∧
        (f.highlight s).toList = insertAt marker.toList (ends spans) 0 s.toList ∧
        (f.matchesText s = true ↔ spans ≠ [])) ∧
      (q.caseSensitive = true →
        f.highlight s = String.ofList (replaceAll q.term.toList
          (marker.toList ++ q.term.toList ++ marker.toList) s.toList) ∧
        (f.matchesText s = true ↔ q.term.toList <:+: s.toList)) ∧
      ∃ g, ofQuery { q with caseSensitive := false } marker = .ok g ∧
        (f.matchesText s = true → g.matchesText s = true) := by
  have hchars : q.term.toList ≠ [] := by
    intro hnil
    exact hterm (String.toList_injective hnil)
  obtain ⟨f, hf, hmarker, hactive, hregex⟩ := exists_ofQuery marker hterm hplain
  -- the same query without regard to case
  obtain ⟨g, hg, -, hactive', hregex'⟩ :=
    exists_ofQuery (q := { q with caseSensitive := false }) marker hterm hplain
  have hfound := leftmost_found hregex hchars s
  have hmatches := matchesText_iff_exists_occursAt hactive hregex hchars s
  have hmarked := f.toList_highlight s
  rw [marked_eq_found hregex hchars, hmarker] at hmarked
  refine ⟨f, _, hf, hregex, Regex.parse_quote _ _, ⟨f.found s, hfound, ?_, hmarked, ?_⟩, ?_, g, hg,
    ?_⟩
  · intro spans' hspans'
    exact hspans'.unique hchars hfound
  · rw [hmatches, hfound.ne_nil_iff]
  · -- with regard to case, marking the matches is replacing them
    intro hcase
    have hsame : sameUnder (!q.caseSensitive) = asIs := by rw [hcase]; rfl
    rw [hsame] at hfound hmatches
    constructor
    · apply String.toList_injective
      rw [hmarked, String.toList_ofList]
      exact insertAt_ends_eq_replaceAll marker.toList hchars hfound
    · rw [hmatches, Regex.infix_iff_exists_occursAt]
      constructor
      · rintro ⟨p, hp⟩
        exact ⟨p, Nat.le_of_add_right_le (hp.le hchars), hp⟩
      · rintro ⟨p, -, hp⟩
        exact ⟨p, hp⟩
  · rw [hmatches, matchesText_iff_exists_occursAt hactive' hregex' hchars s]
    rintro ⟨p, hp⟩
    refine ⟨p, ?_⟩
    cases hcase : q.caseSensitive with
    | true =>
      rw [hcase] at hp
      exact OccursAt.of_asIs hp Text.sameFold_refl
    | false =>
      rw [hcase] at hp
      exact hp

/-- A term that overlaps itself and has a sign with a meaning in it. -/
theorem literal_search_overlapping :
    "a.a" ≠ "" ∧ ∃ f, ofQuery { term := "a.a", caseSensitive := true } "**" = .ok f ∧
      f.highlight "a.a.a" = "**a.a**.a" ∧ f.matchesText "a.a.a" = true := by
  obtain ⟨f, r, hf, -, -, -, hcase, -⟩ :=
    literal_search_exact { term := "a.a", caseSensitive := true } "**" "a.a.a" (by decide) rfl
  obtain ⟨hhighlight, hmatches⟩ := hcase rfl
  refine ⟨by decide, f, hf, ?_, hmatches.mpr ⟨[], ['.', 'a'], rfl⟩⟩
  rw [hhighlight]
  simp [replaceAll]

end Plain

end SourceAtlas.Filter
