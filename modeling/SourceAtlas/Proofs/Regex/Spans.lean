import SourceAtlas.Proofs.Regex.Ways

/-!
# The matches in a text, from left to right

A search for all matches looks at every place of a text once, skips the places inside of a match,
and may find two matches at one place, an empty one and a longer one behind it. This file says what
the matches that come out are, as a list: they follow each other without overlapping, and no place
where the pattern matches is passed over, except inside of a match.

* `IsMatch.startPos_le_endPos` — matching never goes back;
* `matchesAt_cases` — what is found at one place;
* `pairwise_findAll` — the matches follow each other, none starting before the last one has ended;
* `exists_mem_findAll` — wherever the pattern matches, a match starts or is being passed;
* `findAll_eq_nil_iff` — there are no matches just where a search finds none.
-/

namespace SourceAtlas.Regex

/-! ### Matching never goes back -/

namespace Cursor

variable {c c' : Cursor}

theorem pos_next? {ch : Char} (h : c.next? = some (ch, c')) : c'.pos = c.pos + 1 := by
  obtain ⟨before, after, pos, left⟩ := c
  cases after with
  | nil => cases h
  | cons ch' after =>
    obtain ⟨-, rfl⟩ := Prod.mk.inj (Option.some.inj h)
    rfl

/-- Reading a word moves on by its length. -/
theorem pos_read? {same : Char → Char → Bool} {word : List Char} (h : c.read? same word = some c') :
    c'.pos = c.pos + word.length := by
  induction word generalizing c with
  | nil =>
    obtain rfl := Option.some.inj h
    rfl
  | cons w ws ih =>
    simp only [read?] at h
    split at h
    · next ch c₁ hnext =>
      split at h
      · rw [ih h, pos_next? hnext, List.length_cons]
        omega
      · cases h
    · cases h

theorem IsIn.pos_le {text : List Char} (h : c.IsIn text) : c.pos ≤ text.length := by
  rw [h.pos, ← h.split, List.length_append, List.length_reverse]
  omega

/-- A place of a text is given by its offset. -/
theorem IsIn.eq_of_pos {text : List Char} (h : c.IsIn text) (h' : c'.IsIn text)
    (hpos : c.pos = c'.pos) : c = c' := by
  have hafter : c.after = c'.after := by rw [← h.drop_pos, ← h'.drop_pos, hpos]
  have hbefore : c.before = c'.before := by
    have hsplit := h.split.trans h'.split.symm
    rw [hafter] at hsplit
    exact List.reverse_inj.mp (List.append_cancel_right hsplit)
  have hleft : c.left = c'.left := by rw [h.left, h'.left, hafter]
  obtain ⟨before, after, pos, left⟩ := c
  obtain ⟨before', after', pos', left'⟩ := c'
  cases hafter
  cases hbefore
  cases hpos
  cases hleft
  rfl

end Cursor

/-- **No way goes back.** -/
theorem pos_le_of_mem_ways {r : Regex} {s s' : State} (h : s' ∈ ways r s) :
    s.cursor.pos ≤ s'.cursor.pos := by
  refine ways_induction (R := fun s s' => s.cursor.pos ≤ s'.cursor.pos)
    (fun s => Nat.le_refl _) (fun hab hbc => Nat.le_trans hab hbc) ?_ ?_ ?_ ?_ r s s' h
  · intro s ch c hnext
    exact (Cursor.pos_next? hnext).symm ▸ Nat.le_succ _
  · intro s same word c hread
    exact (Cursor.pos_read? hread).symm ▸ Nat.le_add_right _ _
  · intro s s' index capture hss
    exact hss
  · -- after a look around the cursor is where it was
    intro s s' c _
    exact Nat.le_refl _

section Matches

variable {r : Regex} {text : List Char} {m : Match}

/-- A match does not end before it starts. -/
theorem IsMatch.startPos_le_endPos (h : IsMatch r text m) : m.startPos ≤ m.endPos :=
  pos_le_of_mem_ways h.final

/-- A match ends in the text. -/
theorem IsMatch.endPos_le (h : IsMatch r text m) : m.endPos ≤ text.length :=
  h.isIn_final.pos_le

/-! ### What is found at one place -/

/-- There is a match at a place just where a way of the pattern ends acceptably. -/
theorem isSome_matchAt_iff {accept : Cursor → Bool} {c : Cursor} :
    (matchAt r accept c).isSome = true ↔ ∃ s ∈ ways r ⟨c, []⟩, accept s.cursor = true := by
  rw [matchAt, Option.isSome_map, run_eq_findSome?, List.findSome?_isSome_iff]
  refine exists_congr fun s => and_congr_right fun _ => ?_
  split
  · next h => exact iff_of_true rfl h
  · next h => exact iff_of_false Bool.false_ne_true h

/-- A pattern matches at a place just where it has a way from there. -/
theorem matchAt_eq_none_iff {c : Cursor} :
    matchAt r (fun _ => true) c = none ↔ ways r ⟨c, []⟩ = [] := by
  rw [matchAt, Option.map_eq_none_iff, run_eq_findSome?, List.findSome?_eq_none_iff]
  constructor
  · intro h
    rw [List.eq_nil_iff_forall_not_mem]
    intro s hs
    cases h s hs
  · intro h s hs
    rw [h] at hs
    cases hs

/-- **What is found at one place:** nothing, a match that is not empty, or an empty match, perhaps
with a longer one behind it. -/
theorem matchesAt_cases (r : Regex) (c : Cursor) :
    matchesAt r c = [] ∨
    (∃ m, m.start = c ∧ m.endPos ≠ c.pos ∧ matchesAt r c = [m]) ∨
    ∃ m, m.start = c ∧ m.endPos = c.pos ∧
      (matchesAt r c = [m] ∨ ∃ m', m'.start = c ∧ m'.endPos ≠ c.pos ∧ matchesAt r c = [m, m']) := by
  unfold matchesAt
  cases hfirst : matchAt r (fun _ => true) c with
  | none => exact .inl rfl
  | some m =>
    obtain ⟨hstart, -, -⟩ := matchAt_eq_some hfirst
    by_cases hempty : m.endPos = c.pos
    · refine .inr (.inr ⟨m, hstart, hempty, ?_⟩)
      simp only [hempty, ne_eq, not_true, if_false]
      cases hlonger : matchAt r (fun e => decide (¬e.pos = c.pos)) c with
      | none => exact .inl rfl
      | some m' =>
        obtain ⟨hstart', -, haccept⟩ := matchAt_eq_some hlonger
        exact .inr ⟨m', hstart', of_decide_eq_true haccept, rfl⟩
    · refine .inr (.inl ⟨m, hstart, hempty, ?_⟩)
      simp only [ne_eq, hempty, not_false_eq_true, if_true]

/-- Something is found at a place just where the pattern has a way from there. -/
theorem matchesAt_eq_nil_iff {c : Cursor} : matchesAt r c = [] ↔ ways r ⟨c, []⟩ = [] := by
  rw [← matchAt_eq_none_iff, matchesAt]
  cases matchAt r (fun _ => true) c with
  | none => exact iff_of_true rfl rfl
  | some m =>
    refine iff_of_false ?_ (Option.some_ne_none m)
    dsimp only
    split
    · exact List.cons_ne_nil _ _
    · split
      · exact List.cons_ne_nil _ _
      · exact List.cons_ne_nil _ _

theorem start_of_mem_matchesAt {c : Cursor} (h : m ∈ matchesAt r c) : m.start = c := by
  rcases matchesAt_cases r c with heq | ⟨m₁, hstart, -, heq⟩ | ⟨m₁, hstart, -, heq | heq⟩
  · rw [heq] at h
    cases h
  · rw [heq, List.mem_singleton] at h
    exact h ▸ hstart
  · rw [heq, List.mem_singleton] at h
    exact h ▸ hstart
  · obtain ⟨m₂, hstart', -, heq⟩ := heq
    rw [heq, List.mem_cons, List.mem_singleton] at h
    rcases h with rfl | rfl
    · exact hstart
    · exact hstart'

/-- The matches at one place do not overlap: of two, the first is empty. -/
theorem pairwise_matchesAt (c : Cursor) :
    (matchesAt r c).Pairwise fun a b => a.endPos ≤ b.startPos := by
  rcases matchesAt_cases r c with heq | ⟨m₁, -, -, heq⟩ | ⟨m₁, -, hend, heq | heq⟩
  · rw [heq]
    exact .nil
  · rw [heq]
    exact List.pairwise_singleton _ _
  · rw [heq]
    exact List.pairwise_singleton _ _
  · obtain ⟨m₂, hstart, -, heq⟩ := heq
    have htouch : m₁.endPos = m₂.startPos := hend.trans (congrArg Cursor.pos hstart).symm
    rw [heq, List.pairwise_pair]
    exact Nat.le_of_eq htouch

/-- **Where the search goes on:** behind the place, and behind all that was found there, though at
the end of one of these matches if that is more than one character on. -/
theorem resumeAfter_matchesAt {c : Cursor} (hc : c.IsIn text) :
    c.pos < resumeAfter c.pos (matchesAt r c) ∧
      (∀ m ∈ matchesAt r c, m.endPos ≤ resumeAfter c.pos (matchesAt r c)) ∧
      (resumeAfter c.pos (matchesAt r c) = c.pos + 1 ∨
        ∃ m ∈ matchesAt r c, m.endPos = resumeAfter c.pos (matchesAt r c)) := by
  have hforward : ∀ m ∈ matchesAt r c, c.pos ≤ m.endPos := by
    intro m hm
    have hle := (isMatch_of_mem_matchesAt hc hm).startPos_le_endPos
    rwa [Match.startPos, start_of_mem_matchesAt hm] at hle
  -- no match, a match that is not empty, an empty one, or an empty one and a longer one
  rcases matchesAt_cases r c with heq | ⟨m₁, -, hend, heq⟩ | ⟨m₁, -, hend, heq | heq⟩
  · rw [heq]
    exact ⟨Nat.lt_succ_self _, List.forall_mem_nil _, .inl rfl⟩
  · rw [heq] at hforward ⊢
    have hresume : resumeAfter c.pos [m₁] = m₁.endPos := if_pos hend
    have hle := hforward m₁ (List.mem_singleton_self m₁)
    rw [hresume]
    refine ⟨by omega, ?_, .inr ⟨m₁, List.mem_singleton_self m₁, rfl⟩⟩
    intro m hm
    obtain rfl := List.mem_singleton.mp hm
    exact Nat.le_refl _
  · rw [heq]
    have hresume : resumeAfter c.pos [m₁] = c.pos + 1 := if_neg (not_not_intro hend)
    rw [hresume]
    refine ⟨Nat.lt_succ_self _, ?_, .inl rfl⟩
    intro m hm
    rw [List.mem_singleton.mp hm, hend]
    exact Nat.le_succ _
  · obtain ⟨m₂, -, hend', heq⟩ := heq
    rw [heq] at hforward ⊢
    have hresume : resumeAfter c.pos [m₁, m₂] = m₂.endPos := if_pos hend'
    have hmem : m₂ ∈ [m₁, m₂] := List.mem_cons_of_mem _ (List.mem_singleton_self m₂)
    have hle := hforward m₂ hmem
    rw [hresume]
    refine ⟨by omega, ?_, .inr ⟨m₂, hmem, rfl⟩⟩
    intro m hm
    rcases List.mem_cons.mp hm with rfl | hm
    · omega
    · obtain rfl := List.mem_singleton.mp hm
      exact Nat.le_refl _

/-! ### All matches -/

/-- The matches from a place on follow each other, and start no earlier than told. -/
theorem pairwise_findAllFrom (after before : List Char) (pos left resume : Nat)
    (hc : (⟨before, after, pos, left⟩ : Cursor).IsIn text) :
    (findAllFrom r before pos left resume after).Pairwise (fun a b => a.endPos ≤ b.startPos) ∧
      ∀ m ∈ findAllFrom r before pos left resume after, resume ≤ m.startPos := by
  induction after generalizing before pos left resume with
  | nil =>
    rw [findAllFrom]
    split
    · exact ⟨.nil, List.forall_mem_nil _⟩
    · next hresume =>
      refine ⟨pairwise_matchesAt _, ?_⟩
      intro m hm
      rw [Match.startPos, start_of_mem_matchesAt hm]
      exact Nat.le_of_not_lt hresume
  | cons ch rest ih =>
    rw [findAllFrom]
    split
    · exact ih _ _ _ _ hc.next
    · next hresume =>
      obtain ⟨hlater, hbehind, -⟩ := resumeAfter_matchesAt (r := r) hc
      obtain ⟨hpairs, hstarts⟩ := ih (ch :: before) (pos + 1) (left - 1)
        (resumeAfter pos (matchesAt r ⟨before, ch :: rest, pos, left⟩)) hc.next
      constructor
      · -- what is found further on starts behind everything found here
        refine List.pairwise_append.mpr ⟨pairwise_matchesAt _, hpairs, ?_⟩
        intro a ha b hb
        exact Nat.le_trans (hbehind a ha) (hstarts b hb)
      · intro m hm
        rcases List.mem_append.mp hm with hm | hm
        · rw [Match.startPos, start_of_mem_matchesAt hm]
          exact Nat.le_of_not_lt hresume
        · have hstart := hstarts m hm
          dsimp only at hlater
          omega

/-- **The matches in a text follow each other:** none starts before the one in front of it has
ended. -/
theorem pairwise_findAll (r : Regex) (text : List Char) :
    (r.findAll text).Pairwise fun a b => a.endPos ≤ b.startPos :=
  (pairwise_findAllFrom text [] 0 text.length 0 (Cursor.isIn_start text)).1

/-- The search from a place on leaves out no place where the pattern matches, unless told to. -/
theorem exists_mem_findAllFrom {c : Cursor} (hin : c.IsIn text) (hways : ways r ⟨c, []⟩ ≠ [])
    (after before : List Char) (pos left resume : Nat)
    (hc : (⟨before, after, pos, left⟩ : Cursor).IsIn text) (hpos : pos ≤ c.pos)
    (hresume : resume ≤ c.pos) :
    ∃ m ∈ findAllFrom r before pos left resume after,
      m.startPos ≤ c.pos ∧ (c.pos < m.endPos ∨ m.startPos = c.pos) := by
  -- at the place itself something is found
  have hhere : ∀ {before after pos left},
      (⟨before, after, pos, left⟩ : Cursor).IsIn text → pos = c.pos →
      ∃ m ∈ matchesAt r ⟨before, after, pos, left⟩, m.startPos = c.pos := by
    intro before after pos left hc' heq
    obtain rfl := hc'.eq_of_pos hin heq
    obtain ⟨m, hm⟩ := List.exists_mem_of_ne_nil _ (mt matchesAt_eq_nil_iff.mp hways)
    exact ⟨m, hm, congrArg Cursor.pos (start_of_mem_matchesAt hm)⟩
  induction after generalizing before pos left resume with
  | nil =>
    have heq : pos = c.pos := by
      have hle := hin.pos_le
      have hend : pos = before.length := hc.pos
      have hall : before.reverse ++ [] = text := hc.split
      rw [← hall, List.append_nil, List.length_reverse] at hle
      omega
    obtain ⟨m, hm, hstart⟩ := hhere hc heq
    rw [findAllFrom, if_neg (by omega)]
    exact ⟨m, hm, Nat.le_of_eq hstart, .inr hstart⟩
  | cons ch rest ih =>
    rw [findAllFrom]
    split
    · exact ih _ _ _ _ hc.next (by omega) hresume
    · rcases Nat.eq_or_lt_of_le hpos with heq | hlt
      · obtain ⟨m, hm, hstart⟩ := hhere hc heq
        exact ⟨m, List.mem_append_left _ hm, Nat.le_of_eq hstart, .inr hstart⟩
      · -- the place lies further on: it is reached, or a match found here reaches beyond it
        obtain ⟨-, -, hend⟩ := resumeAfter_matchesAt (r := r) hc
        dsimp only at hend
        rcases Nat.lt_or_ge c.pos
          (resumeAfter pos (matchesAt r ⟨before, ch :: rest, pos, left⟩)) with hinside | hbeyond
        · rcases hend with heq | ⟨m, hm, heq⟩
          · omega
          · refine ⟨m, List.mem_append_left _ hm, ?_, .inl (by omega)⟩
            rw [Match.startPos, start_of_mem_matchesAt hm]
            exact hpos
        · obtain ⟨m, hm, hspan⟩ := ih _ _ _ _ hc.next hlt hbeyond
          exact ⟨m, List.mem_append_right _ hm, hspan⟩

/-- **No place where the pattern matches is left out:** a match starts there, or one is being
passed
passed. -/
theorem exists_mem_findAll {c : Cursor} (hin : c.IsIn text) (hways : ways r ⟨c, []⟩ ≠ []) :
    ∃ m ∈ r.findAll text, m.startPos ≤ c.pos ∧ (c.pos < m.endPos ∨ m.startPos = c.pos) :=
  exists_mem_findAllFrom hin hways text [] 0 text.length 0 (Cursor.isIn_start text)
    (Nat.zero_le _) (Nat.zero_le _)

/-- **There are no matches just where a search finds none.** -/
theorem findAll_eq_nil_iff : r.findAll text = [] ↔ r.search text = none := by
  -- on what is left of the text; nothing was found, so the scan resumes at each place
  have hfrom : ∀ (after before : List Char) (pos left resume : Nat), resume ≤ pos →
      (findAllFrom r before pos left resume after = [] ↔
        searchFrom r before pos left after = none) := by
    intro after
    induction after with
    | nil =>
      intro before pos left resume hresume
      rw [findAllFrom, if_neg (Nat.not_lt_of_le hresume), searchFrom, matchesAt_eq_nil_iff,
        matchAt_eq_none_iff]
    | cons ch rest ih =>
      intro before pos left resume hresume
      rw [findAllFrom, if_neg (Nat.not_lt_of_le hresume), searchFrom, Option.orElse_eq_orElse,
        Option.orElse_eq_or, Option.or_eq_none_iff, matchAt_eq_none_iff, ← matchesAt_eq_nil_iff,
        List.append_eq_nil_iff]
      refine and_congr_right fun hnil => ?_
      rw [hnil]
      exact ih _ _ _ _ (Nat.le_refl _)
  exact hfrom text [] 0 text.length 0 (Nat.le_refl 0)

end Matches

end SourceAtlas.Regex
