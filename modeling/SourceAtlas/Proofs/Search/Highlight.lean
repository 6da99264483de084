import SourceAtlas.Proofs.Regex.Literal
import SourceAtlas.Search.Filter

/-!
# Highlighting only inserts markers

A text is highlighted by going through the spans of its matches and putting the pieces between them
together again. What comes out is described here without any pieces: each character of the text in
its place, and in front of it, or at the end, one marker for each time that a marked span begins or
ends there. That the two agree needs nothing of the spans but that they follow each other, which
`Regex.pairwise_findAll` says of the matches of every pattern. Empty matches, which may stand
between others or touch them, are passed over and leave no trace.

* `insertAt` — a text with a marker put in at given offsets;
* `insertAt_span` — one span of it: what stands before, inside and behind;
* `markSpans_eq_insertAt` — putting the pieces together is inserting at both ends of every span;
* `matchesText_eq_false_iff` — inclusion and highlighting see the same matches;
* `highlight_only_inserts` — what follows for the highlighted text.
-/

namespace SourceAtlas.Filter

/-- The spans of all matches of a filter in a text, from left to right. -/
def found (f : Filter) (s : String) : List (Nat × Nat) :=
  match f.regex? with
  | none => []
  | some r => spans r s.toList

/-- The spans that are marked: all but the empty ones. -/
def marked (f : Filter) (s : String) : List (Nat × Nat) :=
  (f.found s).filter fun sp => sp.1 ≠ sp.2

/-- Both ends of each span. -/
def ends (spans : List (Nat × Nat)) : List Nat :=
  spans.flatMap fun sp => [sp.1, sp.2]

/-- **A text with a marker put in at some offsets,** once for each time that an offset is listed;
`pos` is the offset of the text itself. -/
def insertAt (marker : List Char) (cuts : List Nat) (pos : Nat) : List Char → List Char
  | [] => (List.replicate (cuts.count pos) marker).flatten
  | c :: rest =>
    (List.replicate (cuts.count pos) marker).flatten ++ c :: insertAt marker cuts (pos + 1) rest

section Insertion

variable (marker : List Char)

/-! ### What is inserted -/

/-- Only how often each offset from the text's own on is listed matters. -/
theorem insertAt_congr {cuts cuts' : List Nat} {pos : Nat} (rest : List Char)
    (h : ∀ p, pos ≤ p → cuts.count p = cuts'.count p) :
    insertAt marker cuts pos rest = insertAt marker cuts' pos rest := by
  induction rest generalizing pos with
  | nil => rw [insertAt, insertAt, h pos (Nat.le_refl pos)]
  | cons c rest ih =>
    rw [insertAt, insertAt, h pos (Nat.le_refl pos), ih fun p hp => h p (Nat.le_of_succ_le hp)]

@[simp]
theorem insertAt_nil (pos : Nat) (rest : List Char) : insertAt marker [] pos rest = rest := by
  induction rest generalizing pos with
  | nil => rfl
  | cons c rest ih => rw [insertAt, ih]; rfl

/-- Up to the first offset listed the text stays as it is. -/
theorem insertAt_eq_take_append {cuts : List Nat} {pos n : Nat} {rest : List Char}
    (hn : n ≤ rest.length) (h : ∀ p ∈ cuts, pos + n ≤ p) :
    insertAt marker cuts pos rest =
      rest.take n ++ insertAt marker cuts (pos + n) (rest.drop n) := by
  induction n generalizing pos rest with
  | zero => rfl
  | succ n ih =>
    cases rest with
    | nil => cases hn
    | cons c rest =>
      -- no cut is here, so the character is copied
      have hnone : cuts.count pos = 0 := by
        rw [List.count_eq_zero]
        intro hmem
        have hle := h pos hmem
        omega
      have hpos : pos + 1 + n = pos + (n + 1) := by omega
      rw [insertAt, hnone, ih (Nat.le_of_succ_le_succ hn) (hpos ▸ h), hpos]
      rfl

/-- An offset that is listed puts a marker there. -/
theorem insertAt_cons_self (cuts : List Nat) (pos : Nat) (rest : List Char) :
    insertAt marker (pos :: cuts) pos rest = marker ++ insertAt marker cuts pos rest := by
  cases rest with
  | nil => rw [insertAt, insertAt, List.count_cons_self, List.replicate_succ, List.flatten_cons]
  | cons c rest =>
    have hlater : insertAt marker (pos :: cuts) (pos + 1) rest =
        insertAt marker cuts (pos + 1) rest := by
      refine insertAt_congr marker rest fun p hp => ?_
      exact List.count_cons_of_ne (by omega)
    rw [insertAt, insertAt, hlater, List.count_cons_self, List.replicate_succ, List.flatten_cons,
      List.append_assoc]

/-- **One span:** the text before it, a marker, the text inside, a marker, and what follows. -/
theorem insertAt_span {cuts : List Nat} {pos start stop : Nat} {rest : List Char}
    (hstart : pos ≤ start) (hspan : start ≤ stop) (hstop : stop ≤ pos + rest.length)
    (hcuts : ∀ p ∈ cuts, stop ≤ p) :
    insertAt marker (start :: stop :: cuts) pos rest =
      rest.take (start - pos) ++ marker ++ (rest.drop (start - pos)).take (stop - start) ++
        marker ++ insertAt marker cuts stop (rest.drop (stop - pos)) := by
  -- no cut is in front of the span, and none is inside it
  have hbefore : ∀ p ∈ start :: stop :: cuts, pos + (start - pos) ≤ p := by
    intro p hp
    rcases List.mem_cons.mp hp with rfl | hp
    · omega
    · rcases List.mem_cons.mp hp with rfl | hp
      · omega
      · have hle := hcuts p hp
        omega
  have hinside : ∀ p ∈ stop :: cuts, start + (stop - start) ≤ p := by
    intro p hp
    rcases List.mem_cons.mp hp with rfl | hp
    · omega
    · have hle := hcuts p hp
      omega
  have hlength : stop - start ≤ (rest.drop (start - pos)).length := by
    rw [List.length_drop]
    omega
  have hskip : start - pos + (stop - start) = stop - pos := by omega
  calc insertAt marker (start :: stop :: cuts) pos rest
      = rest.take (start - pos) ++
          insertAt marker (start :: stop :: cuts) start (rest.drop (start - pos)) := by
        rw [insertAt_eq_take_append marker (by omega) hbefore, Nat.add_sub_cancel' hstart]
    _ = rest.take (start - pos) ++ marker ++
          insertAt marker (stop :: cuts) start (rest.drop (start - pos)) := by
        rw [insertAt_cons_self, List.append_assoc]
    _ = rest.take (start - pos) ++ marker ++ (rest.drop (start - pos)).take (stop - start) ++
          insertAt marker (stop :: cuts) stop (rest.drop (stop - pos)) := by
        rw [insertAt_eq_take_append marker hlength hinside, Nat.add_sub_cancel' hspan,
          List.drop_drop, hskip, ← List.append_assoc]
    _ = rest.take (start - pos) ++ marker ++ (rest.drop (start - pos)).take (stop - start) ++
          marker ++ insertAt marker cuts stop (rest.drop (stop - pos)) := by
        rw [insertAt_cons_self, ← List.append_assoc]

/-! ### What is kept -/

/-- The text is left in its order. -/
theorem sublist_insertAt (cuts : List Nat) (pos : Nat) (rest : List Char) :
    rest.Sublist (insertAt marker cuts pos rest) := by
  induction rest generalizing pos with
  | nil => exact List.nil_sublist _
  | cons c rest ih => exact ((ih (pos + 1)).cons_cons c).trans (List.sublist_append_right _ _)

/-- Without the characters of the marker, a text that has none of them is left. -/
theorem filter_insertAt (cuts : List Nat) (pos : Nat) {rest : List Char}
    (h : ∀ c ∈ marker, c ∉ rest) :
    (insertAt marker cuts pos rest).filter (fun c => c ∉ marker) = rest := by
  have hcopies : ∀ n, ((List.replicate n marker).flatten).filter (fun c => c ∉ marker) = [] := by
    intro n
    rw [List.filter_eq_nil_iff]
    intro c hc
    obtain ⟨l, hl, hcl⟩ := List.mem_flatten.mp hc
    rw [List.eq_of_mem_replicate hl] at hcl
    simp [hcl]
  induction rest generalizing pos with
  | nil => exact hcopies _
  | cons c rest ih =>
    have hc : c ∉ marker := fun hmem => h c hmem List.mem_cons_self
    rw [insertAt, List.filter_append, hcopies, List.nil_append,
      List.filter_cons_of_pos (by simp [hc]),
      ih (pos + 1) fun c' hc' hmem => h c' hc' (List.mem_cons_of_mem c hmem)]

/-! ### Spans that follow each other -/

/-- Spans, none of them empty, that follow each other between two offsets. -/
def InOrder (stop : Nat) : Nat → List (Nat × Nat) → Prop
  | pos, [] => pos ≤ stop
  | pos, sp :: spans => pos ≤ sp.1 ∧ sp.1 < sp.2 ∧ InOrder stop sp.2 spans

namespace InOrder

variable {stop pos : Nat} {spans : List (Nat × Nat)}

theorem le (h : InOrder stop pos spans) : pos ≤ stop := by
  induction spans generalizing pos with
  | nil => exact h
  | cons sp spans ih =>
    obtain ⟨hstart, hspan, hlater⟩ := h
    have hle := ih hlater
    omega

/-- The ends of spans in order are not before their start. -/
theorem le_of_mem_ends (h : InOrder stop pos spans) : ∀ p ∈ ends spans, pos ≤ p := by
  induction spans generalizing pos with
  | nil => exact List.forall_mem_nil _
  | cons sp spans ih =>
    obtain ⟨hstart, hspan, hlater⟩ := h
    intro p hp
    rcases List.mem_append.mp hp with hp | hp
    · simp only [List.mem_cons, List.not_mem_nil, or_false] at hp
      omega
    · have hle := ih hlater p hp
      omega

/-- Spans that do not overlap are in order. -/
theorem of_pairwise (hpairs : spans.Pairwise fun a b => a.2 ≤ b.1)
    (h : ∀ sp ∈ spans, pos ≤ sp.1 ∧ sp.1 < sp.2 ∧ sp.2 ≤ stop) (hpos : pos ≤ stop) :
    InOrder stop pos spans := by
  induction spans generalizing pos with
  | nil => exact hpos
  | cons sp spans ih =>
    obtain ⟨hstart, hspan, hstop⟩ := h sp List.mem_cons_self
    refine ⟨hstart, hspan, ih hpairs.of_cons ?_ hstop⟩
    intro sp' hsp'
    obtain ⟨-, hspan', hstop'⟩ := h sp' (List.mem_cons_of_mem sp hsp')
    exact ⟨List.rel_of_pairwise_cons hpairs hsp', hspan', hstop'⟩

end InOrder

section Ends

variable {spans : List (Nat × Nat)} {pos : Nat} {rest : List Char}

/-- The spans behind the first one lie in what follows it. -/
theorem InOrder.tail {sp : Nat × Nat} (h : InOrder (pos + rest.length) pos (sp :: spans)) :
    InOrder (sp.2 + (rest.drop (sp.2 - pos)).length) sp.2 spans := by
  obtain ⟨hstart, hspan, hlater⟩ := h
  have hstop := hlater.le
  have hend : sp.2 + (rest.drop (sp.2 - pos)).length = pos + rest.length := by
    rw [List.length_drop]
    omega
  rwa [hend]

/-- The ends of spans that follow each other are met one span after the other. -/
theorem insertAt_ends_cons {start stop : Nat}
    (h : InOrder (pos + rest.length) pos ((start, stop) :: spans)) :
    insertAt marker (ends ((start, stop) :: spans)) pos rest =
      rest.take (start - pos) ++ marker ++ (rest.drop (start - pos)).take (stop - start) ++
        marker ++ insertAt marker (ends spans) stop (rest.drop (stop - pos)) := by
  obtain ⟨hstart, hspan, hlater⟩ := h
  exact insertAt_span marker hstart (Nat.le_of_lt hspan) hlater.le hlater.le_of_mem_ends

/-- **Putting the pieces together is inserting at both ends of every span.** -/
theorem markSpans_eq_insertAt (h : InOrder (pos + rest.length) pos spans) :
    markSpans marker spans pos rest = insertAt marker (ends spans) pos rest := by
  induction spans generalizing pos rest with
  | nil => exact (insertAt_nil marker pos rest).symm
  | cons sp spans ih =>
    obtain ⟨start, stop⟩ := sp
    have hne : start ≠ stop := Nat.ne_of_lt h.2.1
    rw [markSpans, if_neg hne, ih h.tail, insertAt_ends_cons marker h]

/-- Each span adds two markers. -/
theorem length_insertAt (h : InOrder (pos + rest.length) pos spans) :
    (insertAt marker (ends spans) pos rest).length =
      rest.length + 2 * marker.length * spans.length := by
  induction spans generalizing pos rest with
  | nil =>
    change (insertAt marker [] pos rest).length = _
    rw [insertAt_nil]
    rfl
  | cons sp spans ih =>
    obtain ⟨start, stop⟩ := sp
    have hstart : pos ≤ start := h.1
    have hspan : start < stop := h.2.1
    have hstop : stop ≤ pos + rest.length := h.2.2.le
    have hpieces := ih h.tail
    rw [insertAt_ends_cons marker h]
    simp only [List.length_append, List.length_take, List.length_drop, List.length_cons, hpieces,
      Nat.mul_succ]
    -- the pieces of the text add up, since the span lies in it
    omega

end Ends

/-- Empty spans leave no trace. -/
theorem markSpans_filter (spans : List (Nat × Nat)) (pos : Nat) (rest : List Char) :
    markSpans marker (spans.filter fun sp => sp.1 ≠ sp.2) pos rest =
      markSpans marker spans pos rest := by
  induction spans generalizing pos rest with
  | nil => rfl
  | cons sp spans ih =>
    obtain ⟨start, stop⟩ := sp
    by_cases hempty : start = stop
    · rw [List.filter_cons_of_neg (by simp [hempty]), markSpans, if_pos hempty, ih]
    · rw [List.filter_cons_of_pos (by simp [hempty]), markSpans, markSpans, if_neg hempty,
        if_neg hempty, ih]

end Insertion

/-! ### The matches of a filter -/

section Filters

variable (f : Filter) (s : String)

/-- The matches of a filter follow each other. -/
theorem pairwise_found : (f.found s).Pairwise fun a b => a.2 ≤ b.1 := by
  unfold found
  cases f.regex? with
  | none => exact .nil
  | some r => exact List.pairwise_map.mpr (r.pairwise_findAll s.toList)

/-- The matches of a filter lie in the text. -/
theorem found_within : ∀ sp ∈ f.found s, sp.1 ≤ sp.2 ∧ sp.2 ≤ s.length := by
  unfold found
  cases f.regex? with
  | none => exact List.forall_mem_nil _
  | some r =>
    intro sp hsp
    obtain ⟨m, hm, rfl⟩ := List.mem_map.mp hsp
    have hmatch := Regex.isMatch_of_mem_findAll hm
    rw [← String.length_toList]
    exact ⟨hmatch.startPos_le_endPos, hmatch.endPos_le⟩

/-- The spans that are marked in a text are in order. -/
theorem inOrder_marked : InOrder (0 + s.toList.length) 0 (f.marked s) := by
  rw [Nat.zero_add, String.length_toList]
  refine InOrder.of_pairwise ((f.pairwise_found s).filter _) ?_ (Nat.zero_le _)
  intro sp hsp
  obtain ⟨hfound, hne⟩ := List.mem_filter.mp hsp
  obtain ⟨hspan, hstop⟩ := f.found_within s sp hfound
  exact ⟨Nat.zero_le _, Nat.lt_of_le_of_ne hspan (of_decide_eq_true hne), hstop⟩

/-- **A highlighted text** is the text with the marker put in at both ends of each marked span. -/
theorem toList_highlight :
    (f.highlight s).toList = insertAt f.marker.toList (ends (f.marked s)) 0 s.toList := by
  rw [← markSpans_eq_insertAt f.marker.toList (f.inOrder_marked s), marked, markSpans_filter,
    highlight, found]
  cases f.regex? with
  | none => rfl
  | some r => exact String.toList_ofList

/-- **A text is left out just where an active filter has no match in it.** -/
theorem matchesText_eq_false_iff :
    f.matchesText s = false ↔ f.isActive = true ∧ f.found s = [] := by
  obtain ⟨criterion, marker⟩ := f
  have hsearch : ∀ r : Regex, (r.search s.toList).isSome = false ↔ spans r s.toList = [] := by
    intro r
    rw [Option.isSome_eq_false_iff, Option.isNone_iff_eq_none, ← Regex.findAll_eq_nil_iff, spans,
      List.map_eq_nil_iff]
  cases criterion with
  | everything => exact iff_of_false Bool.true_eq_false.mp fun h => Bool.false_ne_true h.1
  | exactly term =>
    refine Iff.trans ?_ (and_iff_right rfl).symm
    exact Regex.findAll_literal_eq_nil_iff.symm.trans List.map_eq_nil_iff.symm
  | upToCase term => exact (hsearch _).trans (and_iff_right rfl).symm
  | pattern r => exact (hsearch r).trans (and_iff_right rfl).symm

/-- **Highlighting only inserts markers:** one before and one behind each match that is not empty,
and nothing else. The matches follow each other, so the text is left in its order, grows by two
markers for each of them, and comes back when the characters of a marker that is foreign to it are
deleted. A text without a match stays as it is. -/
theorem highlight_only_inserts :
    (f.highlight s).toList = insertAt f.marker.toList (ends (f.marked s)) 0 s.toList ∧
      (f.found s).Pairwise (fun a b => a.2 ≤ b.1) ∧
      (∀ sp ∈ f.found s, sp.1 ≤ sp.2 ∧ sp.2 ≤ s.length) ∧
      s.toList.Sublist (f.highlight s).toList ∧
      (f.highlight s).length = s.length + 2 * f.marker.length * (f.marked s).length ∧
      ((∀ c ∈ f.marker.toList, c ∉ s.toList) →
        (f.highlight s).toList.filter (fun c => c ∉ f.marker.toList) = s.toList) ∧
      (f.matchesText s = false ↔ f.isActive = true ∧ f.found s = []) ∧
      (f.matchesText s = false → f.highlight s = s) := by
  have hinserted := f.toList_highlight s
  refine ⟨hinserted, f.pairwise_found s, f.found_within s, ?_, ?_, ?_,
    f.matchesText_eq_false_iff s, ?_⟩
  · rw [hinserted]
    exact sublist_insertAt _ _ _ _
  · have hlength := length_insertAt f.marker.toList (f.inOrder_marked s)
    rwa [← hinserted, String.length_toList, String.length_toList, String.length_toList] at hlength
  · intro hforeign
    rw [hinserted]
    exact filter_insertAt _ _ _ hforeign
  · -- without a match there are no spans to put markers around
    intro hmatch
    obtain ⟨-, hnone⟩ := (f.matchesText_eq_false_iff s).mp hmatch
    rw [marked, hnone] at hinserted
    exact String.toList_injective (hinserted.trans (insertAt_nil _ 0 s.toList))

end Filters

end SourceAtlas.Filter
