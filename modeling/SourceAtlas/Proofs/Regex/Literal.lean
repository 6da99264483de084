import SourceAtlas.Proofs.Order
import SourceAtlas.Proofs.Regex.Spans
import SourceAtlas.Text.Split

/-!
# Terms as patterns

A term is the pattern that reads its characters one after the other, each up to a given sameness of
characters. It has one way of matching where the term stands and none elsewhere, so the matches of
it in a text are occurrences of the term. Which of the occurrences they are, when occurrences
overlap, is said without the search: none begins inside of the one before it, and every occurrence
begins inside of one of them.

* `OccursAt` — the term stands at an offset of a text;
* `ways_literal` — the one way of a term;
* `Leftmost` — the occurrences met from left to right; `Leftmost.unique`: there is one such list;
* `leftmost_findAll` — the search for a term finds them;
* `occursIn_iff` — the plain test for a part of a text agrees with all this.
-/

namespace SourceAtlas.Regex

/-- A character is the same as itself only. -/
def asIs (w c : Char) : Bool :=
  c == w

/-- **The pattern of a term,** whose characters are read up to a sameness. -/
def literal (same : Char → Char → Bool) (term : List Char) : Regex :=
  cat (term.map fun w => .char (same w))

/-- The term stands at an offset of the text. -/
def OccursAt (same : Char → Char → Bool) (term text : List Char) (p : Nat) : Prop :=
  List.Forall₂ (fun w c => same w c = true) term ((text.drop p).take term.length)

instance (same : Char → Char → Bool) (term text : List Char) (p : Nat) :
    Decidable (OccursAt same term text p) :=
  inferInstanceAs (Decidable (List.Forall₂ _ _ _))

variable {same : Char → Char → Bool} {term text : List Char} {p : Nat}

/-! ### Patterns in a row -/

theorem ways_cat_cons (r : Regex) (rs : List Regex) (s : State) :
    ways (cat (r :: rs)) s = (ways r s).flatMap (ways (cat rs)) := by
  cases rs with
  | nil =>
    have hdone : ways (cat []) = fun s => [s] := rfl
    rw [hdone, List.flatMap_singleton']
    rfl
  | cons r' rs => rfl

/-- The ways of two sequences, one after the other. -/
theorem ways_cat_append (rs rs' : List Regex) (s : State) :
    ways (cat (rs ++ rs')) s = (ways (cat rs) s).flatMap (ways (cat rs')) := by
  induction rs generalizing s with
  | nil => exact (List.flatMap_singleton ..).symm
  | cons r rs ih =>
    rw [List.cons_append, ways_cat_cons, ways_cat_cons, List.flatMap_assoc]
    congr 1
    funext s'
    exact ih s'

/-- An anchor has one way or none. -/
theorem mem_ways_anchor_iff {test : Anchor} {s s' : State} :
    s' ∈ ways (.anchor test) s ↔ s' = s ∧ s.cursor.satisfies test = true := by
  rw [ways]
  split
  · next h => rw [List.mem_singleton, and_iff_left h]
  · next h => exact iff_of_false List.not_mem_nil fun hs => h hs.2

/-! ### The one way of a term -/

/-- **A term has at most one way of matching:** reading it. -/
theorem ways_literal (same : Char → Char → Bool) (term : List Char) (s : State) :
    ways (literal same term) s = ((s.cursor.read? same term).map s.moveTo).toList := by
  induction term generalizing s with
  | nil => rfl
  | cons w ws ih =>
    have hseq : ways (literal same (w :: ws)) s =
        (ways (.char (same w)) s).flatMap (ways (literal same ws)) :=
      ways_cat_cons (.char (same w)) (ws.map fun w => .char (same w)) s
    rw [hseq]
    simp only [ways, Cursor.read?]
    cases s.cursor.next? with
    | none => rfl
    | some read =>
      obtain ⟨ch, c⟩ := read
      by_cases hsame : same w ch = true
      · simp only [if_pos hsame, List.flatMap_singleton]
        exact ih (s.moveTo c)
      · simp only [if_neg hsame]
        rfl

/-- A term can be read at a place just where it stands there. -/
theorem Cursor.isSome_read?_iff {c : Cursor} : (c.read? same term).isSome ↔
    List.Forall₂ (fun w ch => same w ch = true) term (c.after.take term.length) := by
  induction term generalizing c with
  | nil => exact iff_of_true rfl .nil
  | cons w ws ih =>
    obtain ⟨before, after, pos, left⟩ := c
    cases after with
    | nil => exact iff_of_false Bool.false_ne_true nofun
    | cons ch after =>
      simp only [Cursor.read?, Cursor.next?, List.length_cons, List.take_succ_cons,
        List.forall₂_cons]
      by_cases hsame : same w ch = true
      · rw [if_pos hsame, and_iff_right hsame]
        exact ih
      · rw [if_neg hsame]
        exact iff_of_false Bool.false_ne_true fun h => hsame h.1

/-! ### Occurrences -/

/-- **A literal matches at a place just when it occurs there.** -/
theorem ways_literal_ne_nil_iff {c : Cursor} (hc : c.IsIn text) :
    ways (literal same term) ⟨c, []⟩ ≠ [] ↔ OccursAt same term text c.pos := by
  rw [OccursAt, hc.drop_pos, ← Cursor.isSome_read?_iff, ways_literal]
  cases c.read? same term with
  | none => exact iff_of_false (not_not_intro rfl) Bool.false_ne_true
  | some c' => exact iff_of_true (List.cons_ne_nil _ _) rfl

/-- A match of a term is an occurrence of it. -/
theorem IsMatch.occursAt {m : Match} (h : IsMatch (literal same term) text m) :
    OccursAt same term text m.startPos ∧ m.endPos = m.startPos + term.length := by
  refine ⟨(ways_literal_ne_nil_iff h.start).mp (List.ne_nil_of_mem h.final), ?_⟩
  have hfinal := h.final
  rw [ways_literal, Option.mem_toList] at hfinal
  obtain ⟨c', hread, hfinal⟩ := Option.map_eq_some_iff.mp hfinal
  rw [Match.endPos, ← hfinal]
  exact Cursor.pos_read? hread

/-- Every offset of a text has its place. -/
theorem Cursor.exists_isIn (hp : p ≤ text.length) : ∃ c : Cursor, c.IsIn text ∧ c.pos = p := by
  refine ⟨⟨(text.take p).reverse, text.drop p, p, (text.drop p).length⟩, ⟨?_, ?_, rfl⟩, rfl⟩
  · rw [List.reverse_reverse, List.take_append_drop]
  · rw [List.length_reverse, List.length_take, Nat.min_eq_left hp]

/-- An occurrence lies in the text. -/
theorem OccursAt.le (h : OccursAt same term text p) (hterm : term ≠ []) :
    p + term.length ≤ text.length := by
  have hlength := h.length_eq
  have hpos := List.length_pos_of_ne_nil hterm
  rw [List.length_take, List.length_drop] at hlength
  omega

/-- Where a term stands, a match starts or is being passed. -/
theorem OccursAt.exists_mem_findAll (h : OccursAt same term text p) (hp : p ≤ text.length) :
    ∃ m ∈ (literal same term).findAll text,
      m.startPos ≤ p ∧ (p < m.endPos ∨ m.startPos = p) := by
  obtain ⟨c, hc, rfl⟩ := Cursor.exists_isIn hp
  exact Regex.exists_mem_findAll hc ((ways_literal_ne_nil_iff hc).mpr h)

theorem occursAt_asIs_iff : OccursAt asIs term text p ↔ term <+: text.drop p := by
  have heq : (fun w c => asIs w c = true) = Eq := by
    funext w c
    rw [asIs, beq_iff_eq]
    exact propext eq_comm
  rw [OccursAt, heq, List.forall₂_eq_eq_eq, List.prefix_iff_eq_take]

/-- What stands somewhere stands there up to any other sameness, too. -/
theorem OccursAt.of_asIs (h : OccursAt asIs term text p) (hrefl : ∀ w, same w w = true) :
    OccursAt same term text p := by
  refine List.Forall₂.imp ?_ h
  intro w c hwc
  rw [beq_iff_eq.mp hwc]
  exact hrefl w

/-- The test for a part of a text looks for an occurrence. -/
theorem occursIn_iff : Text.occursIn term text = true ↔ term <:+: text := by
  induction text with
  | nil => rw [Text.occursIn, List.isEmpty_iff, List.infix_nil]
  | cons c cs ih =>
    rw [Text.occursIn, Bool.or_eq_true, List.isPrefixOf_iff_prefix, ih, List.infix_cons_iff]

/-- To be part of a text is to occur somewhere in it. -/
theorem infix_iff_exists_occursAt :
    term <:+: text ↔ ∃ p, p ≤ text.length ∧ OccursAt asIs term text p := by
  constructor
  · rintro ⟨front, back, rfl⟩
    refine ⟨front.length, by simp only [List.length_append]; omega, ?_⟩
    rw [occursAt_asIs_iff, List.append_assoc, List.drop_left]
    exact List.prefix_append term back
  · rintro ⟨p, -, h⟩
    exact (occursAt_asIs_iff.mp h).isInfix.trans (List.drop_suffix p text).isInfix

/-- A part of a text is found in it. -/
theorem findAll_literal_eq_nil_iff :
    (literal asIs term).findAll text = [] ↔ Text.occursIn term text = false := by
  rw [← Bool.not_eq_true, occursIn_iff, infix_iff_exists_occursAt]
  constructor
  · rintro hnil ⟨p, hp, h⟩
    obtain ⟨m, hm, -⟩ := h.exists_mem_findAll hp
    rw [hnil] at hm
    cases hm
  · intro hnone
    rw [List.eq_nil_iff_forall_not_mem]
    intro m hm
    have hmatch := isMatch_of_mem_findAll hm
    exact hnone ⟨m.startPos, hmatch.start.pos_le, hmatch.occursAt.1⟩

/-! ### Occurrences from left to right -/

/-- **The occurrences of a term met from left to right,** from an offset on: none begins inside of
the one before it, and every occurrence begins inside of one of them. -/
structure Leftmost (same : Char → Char → Bool) (term text : List Char) (pos : Nat)
    (spans : List (Nat × Nat)) : Prop where
  /-- They are occurrences. -/
  occurs : ∀ sp ∈ spans, pos ≤ sp.1 ∧ OccursAt same term text sp.1 ∧ sp.2 = sp.1 + term.length
  /-- They follow each other. -/
  ordered : spans.Pairwise fun a b => a.2 ≤ b.1
  /-- No occurrence begins outside of them. -/
  complete : ∀ p, pos ≤ p → OccursAt same term text p → ∃ sp ∈ spans, sp.1 ≤ p ∧ p < sp.2

namespace Leftmost

variable {pos : Nat} {spans spans' : List (Nat × Nat)}

/-- Of two of them, the left one ends before the right one begins. -/
theorem apart (h : Leftmost same term text pos spans) {a b : Nat × Nat} (ha : a ∈ spans)
    (hb : b ∈ spans) (hlt : a.1 < b.1) : a.2 ≤ b.1 := by
  obtain ⟨i, hi, rfl⟩ := List.getElem_of_mem ha
  obtain ⟨j, hj, rfl⟩ := List.getElem_of_mem hb
  rcases Nat.lt_trichotomy i j with hij | rfl | hji
  · exact List.pairwise_iff_getElem.mp h.ordered i j hi hj hij
  · omega
  · have hle := List.pairwise_iff_getElem.mp h.ordered j i hj hi hji
    have hend := (h.occurs spans[j] hb).2.2
    omega

/-- Two such lists have the same members: an occurrence in the one begins inside of one in the
other, and if not at the same offset, then that one stands in both lists and the two overlap. -/
theorem mem_of_mem (h : Leftmost same term text pos spans)
    (h' : Leftmost same term text pos spans') (sp : Nat × Nat) (hsp : sp ∈ spans) :
    sp ∈ spans' := by
  -- the induction is on the offset, for both directions at once
  induction hn : sp.1 using Nat.strong_induction_on generalizing sp spans spans' with
  | _ n ih =>
    subst hn
    obtain ⟨hpos, hoccurs, hend⟩ := h.occurs sp hsp
    obtain ⟨sp', hsp', hle, hlt⟩ := h'.complete sp.1 hpos hoccurs
    have hend' := (h'.occurs sp' hsp').2.2
    rcases Nat.eq_or_lt_of_le hle with heq | hless
    · have hsame : sp' = sp := Prod.ext heq (by rw [hend', hend, heq])
      exact hsame ▸ hsp'
    · have hboth : sp' ∈ spans := ih sp'.1 hless h' h sp' hsp' rfl
      have hapart := h.apart hboth hsp hless
      omega

/-- **There is only one such list.** -/
theorem unique (hterm : term ≠ []) (h : Leftmost same term text pos spans)
    (h' : Leftmost same term text pos spans') : spans = spans' := by
  have hstarts : ∀ {l : List (Nat × Nat)}, Leftmost same term text pos l →
      l.Pairwise fun a b => a.1 < b.1 := by
    intro l hl
    refine hl.ordered.imp_of_mem fun {a b} ha _ hle => ?_
    have hend := (hl.occurs a ha).2.2
    have hlength := List.length_pos_of_ne_nil hterm
    omega
  refine eq_of_pairwise_of_mem_iff (fun a b hab => Nat.not_lt_of_gt hab) (hstarts h) (hstarts h') ?_
  intro sp
  exact ⟨h.mem_of_mem h' sp, h'.mem_of_mem h sp⟩

/-! Where an occurrence stands at the offset, it is the first of them, and the others lie behind it;
where none does, the offset may be passed. -/

/-- Where the term does not occur, the leftmost occurrences are those from the next place on. -/
theorem of_not_occursAt (h : Leftmost same term text pos spans)
    (hno : ¬OccursAt same term text pos) : Leftmost same term text (pos + 1) spans where
  occurs := by
    intro sp hsp
    obtain ⟨hpos, hoccurs, hend⟩ := h.occurs sp hsp
    refine ⟨Nat.lt_of_le_of_ne hpos ?_, hoccurs, hend⟩
    intro heq
    exact hno (heq ▸ hoccurs)
  ordered := h.ordered
  complete p hp := h.complete p (Nat.le_of_succ_le hp)

/-- Where it occurs, the first of them is here, and the others start behind it. -/
theorem exists_cons_of_occursAt (hterm : term ≠ []) (h : Leftmost same term text pos spans)
    (hoccurs : OccursAt same term text pos) :
    ∃ later, spans = (pos, pos + term.length) :: later ∧
      Leftmost same term text (pos + term.length) later := by
  have hlength := List.length_pos_of_ne_nil hterm
  obtain ⟨sp, hsp, hle, -⟩ := h.complete pos (Nat.le_refl pos) hoccurs
  obtain ⟨first, later, rfl⟩ := List.exists_cons_of_ne_nil (List.ne_nil_of_mem hsp)
  obtain ⟨hpos, -, hend⟩ := h.occurs first List.mem_cons_self
  have hbehind : ∀ sp' ∈ later, first.2 ≤ sp'.1 := fun _ => List.rel_of_pairwise_cons h.ordered
  -- nothing that lies behind the first one can begin at the offset
  have hstart : first.1 = pos := by
    rcases List.mem_cons.mp hsp with rfl | hlater
    · omega
    · have hafter := hbehind sp hlater
      omega
  have hfirst : first = (pos, pos + term.length) := Prod.ext hstart (by rw [hend, hstart])
  subst hfirst
  refine ⟨later, rfl, ?_, h.ordered.of_cons, ?_⟩
  · intro sp' hsp'
    obtain ⟨-, hoccurs', hend'⟩ := h.occurs sp' (List.mem_cons_of_mem _ hsp')
    exact ⟨hbehind sp' hsp', hoccurs', hend'⟩
  · intro p hp hoccurs'
    obtain ⟨sp', hsp', hle', hlt'⟩ := h.complete p (by omega) hoccurs'
    rcases List.mem_cons.mp hsp' with rfl | hlater
    · exact absurd hlt' (Nat.not_lt_of_le hp)
    · exact ⟨sp', hlater, hle', hlt'⟩

/-- Behind the text there is no occurrence. -/
theorem eq_nil_of_length_le (hterm : term ≠ []) (h : Leftmost same term text pos spans)
    (hpos : text.length ≤ pos) : spans = [] := by
  rw [List.eq_nil_iff_forall_not_mem]
  intro sp hsp
  obtain ⟨hle, hoccurs, -⟩ := h.occurs sp hsp
  have hinside := hoccurs.le hterm
  have hlength := List.length_pos_of_ne_nil hterm
  omega

/-- There are spans just where the term occurs. -/
theorem ne_nil_iff (h : Leftmost same term text 0 spans) :
    spans ≠ [] ↔ ∃ p, OccursAt same term text p := by
  constructor
  · intro hne
    obtain ⟨sp, hsp⟩ := List.exists_mem_of_ne_nil spans hne
    exact ⟨sp.1, (h.occurs sp hsp).2.1⟩
  · rintro ⟨p, hp⟩
    obtain ⟨sp, hsp, -⟩ := h.complete p (Nat.zero_le p) hp
    exact List.ne_nil_of_mem hsp

end Leftmost

/-- **The search for a term finds its occurrences from left to right.** -/
theorem leftmost_findAll (same : Char → Char → Bool) (hterm : term ≠ []) (text : List Char) :
    Leftmost same term text 0
      (((literal same term).findAll text).map fun m => (m.startPos, m.endPos)) where
  occurs := by
    intro sp hsp
    obtain ⟨m, hm, rfl⟩ := List.mem_map.mp hsp
    exact ⟨Nat.zero_le _, (isMatch_of_mem_findAll hm).occursAt⟩
  ordered := List.pairwise_map.mpr (pairwise_findAll (literal same term) text)
  complete := by
    intro p _ hoccurs
    have hinside := hoccurs.le hterm
    -- the scan finds a match that starts no later and ends behind `p`
    obtain ⟨m, hm, hle, hspan⟩ := hoccurs.exists_mem_findAll (by omega)
    refine ⟨(m.startPos, m.endPos), List.mem_map_of_mem hm, hle, ?_⟩
    have hend := (isMatch_of_mem_findAll hm).occursAt.2
    have hlength := List.length_pos_of_ne_nil hterm
    rcases hspan with hlt | heq
    · exact hlt
    · dsimp only
      omega

end SourceAtlas.Regex
