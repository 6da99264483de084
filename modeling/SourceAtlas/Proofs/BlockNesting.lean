import Mathlib.Computability.StateTransition
import SourceAtlas.Proofs.BlockGrammar

/-!
# Blocks of one kind are nested or disjoint

The scan from an opener to its partner is a run: it stands somewhere in the text with some blocks
open, and every round takes it further (`ScanState.next?`). A scan that starts at an opener inside
the block makes the same rounds as the scan that came by, with fewer blocks open, until it ends at
its own partner (`reaches_of_deeper`). So the inner block closes before the outer one, and of two
inner blocks the second starts behind the first or is inside it.

* `ScanState`, `ScanState.next?` — the rounds of a scan;
* `afterCloser_eq_some_iff_reaches` — a scan ends where its run ends;
* `reaches_of_deeper` — two runs in step with each other;
* `blocks_nested_or_disjoint` — what this means for the places of blocks.
-/

namespace SourceAtlas.Block

open StateTransition (Reaches)

/-! ### Rounds of a scan -/

/-- **Where a scan stands.** -/
structure ScanState where
  /-- How many openers inside the block are still open. -/
  depth : Nat
  /-- What is still to be read. -/
  rest : List Char
  deriving DecidableEq

/-- The same place with more blocks open. -/
def ScanState.deeper (k : Nat) (s : ScanState) : ScanState :=
  { s with depth := s.depth + k }

/-- What follows a comment, a string or any other character, `c` being the first character of it. -/
def afterOther (c : Char) (cs : List Char) : List Char :=
  if c = '/' ∧ cs.head? = some '/' then afterLineComment cs
  else if c = '/' ∧ cs.head? = some '*' then afterBlockComment (cs.drop 1)
  else if isQuote c then afterQuoted c cs
  else cs

/-- **One round of a scan.** There is none at the end of the text, nor at the closer that ends the
block. -/
def ScanState.next? (d : Delimiter) (s : ScanState) : Option ScanState :=
  match s.depth, s.rest with
  | _, [] => none
  | depth, c :: cs =>
    if c = d.opener then some ⟨depth + 1, cs⟩
    else if c = d.closer then
      match depth with
      | 0 => none
      | depth + 1 => some ⟨depth, cs⟩
    else some ⟨depth, afterOther c cs⟩

/-- A round at any other character goes forward. -/
theorem length_afterOther_le (c : Char) (cs : List Char) :
    (afterOther c cs).length ≤ cs.length := by
  unfold afterOther
  split
  · exact length_afterLineComment_le cs
  · split
    · have hle := length_afterBlockComment_le (cs.drop 1)
      rw [List.length_drop] at hle
      omega
    · split
      · exact length_afterQuoted_le c cs
      · exact Nat.le_refl _

/-- A round at any other character leaves the counter. -/
theorem afterCloser_other {d : Delimiter} {c : Char} (hopener : c ≠ d.opener)
    (hcloser : c ≠ d.closer) (depth : Nat) (cs : List Char) :
    afterCloser d depth (c :: cs) = afterCloser d depth (afterOther c cs) := by
  rw [afterCloser.eq_def]
  simp only [if_neg hopener, if_neg hcloser, afterOther]
  split_ifs <;> rfl

section Rounds

variable {d : Delimiter} {s s' t : ScanState}

theorem next?_opener (depth : Nat) (cs : List Char) :
    ScanState.next? d ⟨depth, d.opener :: cs⟩ = some ⟨depth + 1, cs⟩ :=
  if_pos rfl

/-- The rounds end at the closer of the outermost block. -/
theorem next?_closer_zero (cs : List Char) : ScanState.next? d ⟨0, d.closer :: cs⟩ = none :=
  (if_neg d.closer_ne_opener).trans (if_pos rfl)

theorem next?_closer_succ (depth : Nat) (cs : List Char) :
    ScanState.next? d ⟨depth + 1, d.closer :: cs⟩ = some ⟨depth, cs⟩ :=
  (if_neg d.closer_ne_opener).trans (if_pos rfl)

/-- A round at a character that is neither bracket: a comment, a string or one character. -/
theorem next?_other {c : Char} (hopener : c ≠ d.opener) (hcloser : c ≠ d.closer) (depth : Nat)
    (cs : List Char) : ScanState.next? d ⟨depth, c :: cs⟩ = some ⟨depth, afterOther c cs⟩ :=
  (if_neg hopener).trans (if_neg hcloser)

/-- **What a round can do.** -/
inductive Round (d : Delimiter) : ScanState → ScanState → Prop
  | opener (depth : Nat) (cs : List Char) : Round d ⟨depth, d.opener :: cs⟩ ⟨depth + 1, cs⟩
  | closer (depth : Nat) (cs : List Char) : Round d ⟨depth + 1, d.closer :: cs⟩ ⟨depth, cs⟩
  | other {c : Char} (hopener : c ≠ d.opener) (hcloser : c ≠ d.closer) (depth : Nat)
      (cs : List Char) : Round d ⟨depth, c :: cs⟩ ⟨depth, afterOther c cs⟩

/-- The rounds that are run are the rounds of the relation. -/
theorem next?_eq_some_iff : s.next? d = some s' ↔ Round d s s' := by
  constructor
  · intro h
    obtain ⟨depth, rest⟩ := s
    cases rest with
    | nil => cases h
    | cons c cs =>
      by_cases hopener : c = d.opener
      · subst hopener
        rw [next?_opener] at h
        exact Option.some.inj h ▸ .opener depth cs
      · by_cases hcloser : c = d.closer
        · subst hcloser
          cases depth with
          | zero =>
            -- the outermost closer ends the scan, so there is no round here
            rw [next?_closer_zero] at h
            cases h
          | succ depth =>
            rw [next?_closer_succ] at h
            exact Option.some.inj h ▸ .closer depth cs
        · rw [next?_other hopener hcloser] at h
          exact Option.some.inj h ▸ .other hopener hcloser depth cs
  · rintro (⟨depth, cs⟩ | ⟨depth, cs⟩ | ⟨hopener, hcloser, depth, cs⟩)
    · exact next?_opener depth cs
    · exact next?_closer_succ depth cs
    · exact next?_other hopener hcloser depth cs

/-- Each round leaves less of the text, so there are finitely many. -/
theorem Round.length_lt (h : Round d s s') : s'.rest.length < s.rest.length := by
  cases h with
  | opener depth cs => exact Nat.lt_succ_self _
  | closer depth cs => exact Nat.lt_succ_self _
  | @other c _ _ depth cs => exact Nat.lt_succ_of_le (length_afterOther_le c cs)

/-- **What a round does not change:** where the scan ends. -/
theorem Round.afterCloser_eq (h : Round d s s') :
    afterCloser d s.depth s.rest = afterCloser d s'.depth s'.rest := by
  cases h with
  | opener depth cs => exact afterCloser_opener d depth cs
  | closer depth cs => exact afterCloser_closer_succ d depth cs
  | other hopener hcloser depth cs => exact afterCloser_other hopener hcloser depth cs

/-- **A round with more blocks open** is the same round, unless the scan ends here. -/
theorem Round.of_deeper {k : Nat} (h : Round d (s.deeper (k + 1)) t) :
    (∃ s', Round d s s' ∧ t = s'.deeper (k + 1)) ∨
      ∃ cs, s = ⟨0, d.closer :: cs⟩ ∧ t = ⟨k, cs⟩ := by
  obtain ⟨depth, rest⟩ := s
  -- the round is one of the deeper state; which one depends on the character alone
  generalize hs : ScanState.deeper (k + 1) ⟨depth, rest⟩ = above at h
  cases h with
  | opener high cs =>
    obtain ⟨rfl, rfl⟩ := ScanState.mk.inj hs
    refine .inl ⟨⟨depth + 1, cs⟩, .opener depth cs, ?_⟩
    rw [ScanState.deeper, Nat.add_right_comm]
  | closer high cs =>
    obtain ⟨hdepth, rfl⟩ := ScanState.mk.inj hs
    cases depth with
    | zero =>
      -- here the shallow scan has ended, and the deeper one closes one block more
      refine .inr ⟨cs, rfl, ?_⟩
      congr 1
      change 0 + (k + 1) = high + 1 at hdepth
      omega
    | succ depth =>
      refine .inl ⟨⟨depth, cs⟩, .closer depth cs, ?_⟩
      rw [ScanState.deeper]
      congr 1
      change depth + 1 + (k + 1) = high + 1 at hdepth
      dsimp only
      omega
  | other hopener hcloser high cs =>
    obtain ⟨rfl, rfl⟩ := ScanState.mk.inj hs
    exact .inl ⟨⟨depth, _⟩, .other hopener hcloser depth cs, rfl⟩

end Rounds

/-! ### Runs -/

section Runs

variable {d : Delimiter} {s t : ScanState}

/-- A state that is reached has no more of the text left than the one it was reached from. -/
theorem length_le_of_reaches (h : Reaches (ScanState.next? d) s t) :
    t.rest.length ≤ s.rest.length := by
  induction h with
  | refl => exact Nat.le_refl _
  | tail _ hround ih => exact Nat.le_trans (next?_eq_some_iff.mp hround).length_lt.le ih

/-- Every state on the way of a scan ends where the scan ends. -/
theorem afterCloser_eq_of_reaches (h : Reaches (ScanState.next? d) s t) :
    afterCloser d s.depth s.rest = afterCloser d t.depth t.rest := by
  induction h with
  | refl => rfl
  | tail _ hround ih => exact ih.trans (next?_eq_some_iff.mp hround).afterCloser_eq

/-- **A scan ends where its run ends.** -/
theorem afterCloser_eq_some_iff_reaches {depth : Nat} {cs rest : List Char} :
    afterCloser d depth cs = some rest ↔
      Reaches (ScanState.next? d) ⟨depth, cs⟩ ⟨0, d.closer :: rest⟩ := by
  constructor
  · intro h
    -- on the length of the text that is left, since a round may take any number of characters
    induction hn : cs.length using Nat.strongRecOn generalizing depth cs with
    | ind n ih =>
      subst hn
      cases hnext : ScanState.next? d ⟨depth, cs⟩ with
      | some s =>
        have hround := next?_eq_some_iff.mp hnext
        rw [hround.afterCloser_eq] at h
        exact .head hnext (ih _ hround.length_lt h rfl)
      | none =>
        cases cs with
        | nil => exact absurd rfl (ne_nil_of_afterCloser h)
        | cons c cs =>
          by_cases hopener : c = d.opener
          · subst hopener
            rw [next?_opener] at hnext
            cases hnext
          · by_cases hcloser : c = d.closer
            · subst hcloser
              cases depth with
              | zero =>
                rw [afterCloser_closer_zero] at h
                rw [Option.some.inj h]
                exact .refl
              | succ depth =>
                rw [next?_closer_succ] at hnext
                cases hnext
            · rw [next?_other hopener hcloser] at hnext
              cases hnext
  · intro h
    exact (afterCloser_eq_of_reaches h).trans (afterCloser_closer_zero d rest)

/-- **Two runs in step with each other.** With more blocks open a run goes where it went before,
until the run with fewer blocks has ended; from there on, one block less is open. -/
theorem reaches_of_deeper {k : Nat} (h : Reaches (ScanState.next? d) (s.deeper (k + 1)) t) :
    (∃ s', Reaches (ScanState.next? d) s s' ∧ t = s'.deeper (k + 1)) ∨
      ∃ rest, Reaches (ScanState.next? d) s ⟨0, d.closer :: rest⟩ ∧
        Reaches (ScanState.next? d) ⟨k, rest⟩ t := by
  induction h with
  | refl => exact .inl ⟨s, .refl, rfl⟩
  | tail _ hround ih =>
    rcases ih with ⟨s', hs', rfl⟩ | ⟨rest, hs, hrest⟩
    · rcases (next?_eq_some_iff.mp hround).of_deeper with ⟨s'', hs'', rfl⟩ | ⟨cs, rfl, rfl⟩
      · exact .inl ⟨s'', hs'.tail (next?_eq_some_iff.mpr hs''), rfl⟩
      · exact .inr ⟨cs, hs', .refl⟩
    · exact .inr ⟨rest, hs, hrest.tail hround⟩

/-- States after some number of rounds are reached. -/
theorem reaches_of_iterate {n : Nat}
    (h : (fun s => s.bind (ScanState.next? d))^[n] (some s) = some t) :
    Reaches (ScanState.next? d) s t := by
  induction n generalizing s with
  | zero =>
    rw [Option.some.inj h]
    exact .refl
  | succ n ih =>
    rw [Function.iterate_succ_apply, Option.bind_some] at h
    cases hnext : s.next? d with
    | none =>
      rw [hnext, Function.iterate_fixed rfl] at h
      cases h
    | some s' =>
      rw [hnext] at h
      exact .head hnext (ih h)

end Runs

/-! ### Places of blocks -/

/-- **The scan from an opener visits an offset** as code: one of its rounds starts there. -/
def Visits (d : Delimiter) (text : List Char) (o o' : Nat) : Prop :=
  ∃ depth, Reaches (ScanState.next? d) ⟨0, text.drop (o + 1)⟩ ⟨depth, text.drop o'⟩

section Places

variable {d : Delimiter} {text : List Char} {o o' e e' : Nat}

/-- The end of a block, read off from where the run of its scan ends. -/
theorem closing?_eq_some_iff_reaches (ho : text[o]? = some d.opener) :
    closing? text o = some (e, true) ↔
      ∃ rest, Reaches (ScanState.next? d) ⟨0, text.drop (o + 1)⟩ ⟨0, d.closer :: rest⟩ ∧
        e = text.length - rest.length := by
  simp only [← afterCloser_eq_some_iff_reaches]
  rw [closing?_eq (drop_eq_opener_cons ho), Option.some_inj]
  cases afterCloser d 0 (text.drop (o + 1)) with
  | none => simp only [Option.elim_none, Prod.mk.injEq, Bool.false_eq_true, and_false, reduceCtorEq,
      false_and, exists_false]
  | some rest => simp only [Option.elim_some, Prod.mk.injEq, and_true, Option.some.injEq,
      exists_eq_left', eq_comm]

/-- An opener that is visited from another one stands behind it. -/
theorem lt_of_visits (hvisits : Visits d text o o') (ho' : text[o']? = some d.opener) : o < o' := by
  obtain ⟨depth, hrun⟩ := hvisits
  have hle := length_le_of_reaches hrun
  have hlt := (List.getElem?_eq_some_iff.mp ho').1
  simp only [List.length_drop] at hle
  omega

/-- What a run does from an opener on: it goes over it. -/
theorem reaches_of_reaches_opener {depth : Nat} {t : ScanState} (ho : text[o]? = some d.opener)
    (h : Reaches (ScanState.next? d) ⟨depth, text.drop o⟩ t) (hne : t ≠ ⟨depth, text.drop o⟩) :
    Reaches (ScanState.next? d) (ScanState.deeper (depth + 1) ⟨0, text.drop (o + 1)⟩) t := by
  rcases h.cases_head with rfl | ⟨s, hround, hs⟩
  · exact absurd rfl hne
  · rw [drop_eq_opener_cons ho, next?_opener] at hround
    rw [ScanState.deeper, Nat.zero_add, Option.some.inj hround]
    exact hs

/-- **A block that opens inside another one closes inside it.** -/
theorem exists_closing?_of_visits (ho : text[o]? = some d.opener) (ho' : text[o']? = some d.opener)
    (h : closing? text o = some (e, true)) (hvisits : Visits d text o o') :
    ∃ e', closing? text o' = some (e', true) ∧ e' < e := by
  obtain ⟨rest, hrun, rfl⟩ := (closing?_eq_some_iff_reaches ho).mp h
  obtain ⟨depth, hpart⟩ := hvisits
  -- the run has to come to its end by way of the inner opener
  have hinner : Reaches (ScanState.next? d) ⟨depth, text.drop o'⟩ ⟨0, d.closer :: rest⟩ := by
    rw [← afterCloser_eq_some_iff_reaches] at hrun ⊢
    exact (afterCloser_eq_of_reaches hpart).symm.trans hrun
  have hne : (⟨0, d.closer :: rest⟩ : ScanState) ≠ ⟨depth, text.drop o'⟩ := by
    intro heq
    rw [drop_eq_opener_cons ho'] at heq
    exact d.closer_ne_opener (List.cons.inj (ScanState.mk.inj heq).2).1
  rcases reaches_of_deeper (reaches_of_reaches_opener ho' hinner hne) with
    ⟨s, -, hs⟩ | ⟨rest', hinner', houter⟩
  · exact absurd (congrArg ScanState.depth hs) (Nat.succ_ne_zero _).symm
  · refine ⟨_, (closing?_eq_some_iff_reaches ho').mpr ⟨rest', hinner', rfl⟩, ?_⟩
    have hle := length_le_of_reaches houter
    have hle' := length_le_of_reaches hinner'
    simp only [List.length_cons, List.length_drop] at hle hle'
    omega

/-- **Of two offsets that a scan visits,** the second is visited from the first, or it is behind the
block that opens there. -/
theorem visits_or_le_of_visits {o'' : Nat} (ho' : text[o']? = some d.opener)
    (ho'' : text[o'']? = some d.opener) (hvisits : Visits d text o o')
    (hvisits' : Visits d text o o'') (hlt : o' < o'') (h : closing? text o' = some (e', true)) :
    Visits d text o' o'' ∨ e' ≤ o'' := by
  obtain ⟨depth, hrun⟩ := hvisits
  obtain ⟨depth', hrun'⟩ := hvisits'
  have hbound := (List.getElem?_eq_some_iff.mp ho'').1
  have hne : (⟨depth', text.drop o''⟩ : ScanState) ≠ ⟨depth, text.drop o'⟩ := by
    intro heq
    have hlength := congrArg (List.length ∘ ScanState.rest) heq
    simp only [Function.comp_apply, List.length_drop] at hlength
    omega
  rcases StateTransition.reaches_total hrun hrun' with hbetween | hback
  · rcases reaches_of_deeper (reaches_of_reaches_opener ho' hbetween hne) with
      ⟨s, hs, heq⟩ | ⟨rest, hinner, houter⟩
    · refine .inl ⟨s.depth, ?_⟩
      rw [show text.drop o'' = s.rest from congrArg ScanState.rest heq]
      exact hs
    · obtain ⟨rest', hinner', rfl⟩ := (closing?_eq_some_iff_reaches ho').mp h
      have hsame : rest' = rest := by
        rw [← afterCloser_eq_some_iff_reaches] at hinner hinner'
        exact Option.some.inj (hinner'.symm.trans hinner)
      have hle := length_le_of_reaches houter
      simp only [List.length_drop] at hle
      subst hsame
      exact .inr (by omega)
  · -- a run never goes back
    have hle := length_le_of_reaches hback
    simp only [List.length_drop] at hle
    omega

end Places

/-- **Blocks of one kind are nested or disjoint.** In a block that closes, every opener of its kind
that the scan visits as code opens a block that closes before the outer one; and of two such
openers, the second stands behind the block of the first, or its block closes before that of the
first. -/
theorem blocks_nested_or_disjoint (d : Delimiter) (text : List Char) (o₁ e₁ : Nat)
    (ho₁ : text[o₁]? = some d.opener) (h₁ : closing? text o₁ = some (e₁, true)) :
    (∀ o₂, Visits d text o₁ o₂ → text[o₂]? = text[o₁]? →
      o₁ < o₂ ∧ ∃ e₂, closing? text o₂ = some (e₂, true) ∧ e₂ ≤ e₁ - 1) ∧
    ∀ o₂ o₃ e₂ e₃, Visits d text o₁ o₂ → text[o₂]? = text[o₁]? → Visits d text o₁ o₃ →
      text[o₃]? = text[o₁]? → o₂ < o₃ → closing? text o₂ = some (e₂, true) →
      closing? text o₃ = some (e₃, true) → e₂ ≤ o₃ ∨ e₃ ≤ e₂ - 1 := by
  rw [ho₁]
  constructor
  · intro o₂ hvisits ho₂
    obtain ⟨e₂, h₂, hlt⟩ := exists_closing?_of_visits ho₁ ho₂ h₁ hvisits
    exact ⟨lt_of_visits hvisits ho₂, e₂, h₂, Nat.le_sub_one_of_lt hlt⟩
  · intro o₂ o₃ e₂ e₃ hvisits₂ ho₂ hvisits₃ ho₃ hlt h₂ h₃
    -- the later opener is visited by the scan of the earlier block, or stands behind that block
    rcases visits_or_le_of_visits ho₂ ho₃ hvisits₂ hvisits₃ hlt h₂ with hinner | hbehind
    · obtain ⟨e, he, hlt'⟩ := exists_closing?_of_visits ho₂ ho₃ h₂ hinner
      rw [h₃] at he
      obtain ⟨rfl, -⟩ := Prod.mk.inj (Option.some.inj he)
      exact .inr (Nat.le_sub_one_of_lt hlt')
    · exact .inl hbehind

/-- Two blocks beside each other in a third, the first with a block of its own and a closer in a
string. -/
theorem blocks_nested_or_disjoint_three :
    let text := "\x7b \x7b'\x7d'\x7b\x7d\x7d \x7b\x7d \x7d".toList
    (Visits .brace text 0 2 ∧ Visits .brace text 0 6 ∧ Visits .brace text 0 10) ∧
      (closing? text 0 = some (14, true) ∧ closing? text 2 = some (9, true) ∧
        closing? text 6 = some (8, true) ∧ closing? text 10 = some (12, true)) ∧
      (∃ e, closing? text 2 = some (e, true) ∧ e ≤ 14 - 1) ∧
      (9 ≤ 6 ∨ 8 ≤ 9 - 1) ∧ (9 ≤ 10 ∨ 12 ≤ 9 - 1) := by
  intro text
  have h2 : Visits .brace text 0 2 := ⟨0, reaches_of_iterate (n := 1) (by decide +kernel)⟩
  have h6 : Visits .brace text 0 6 := ⟨1, reaches_of_iterate (n := 3) (by decide +kernel)⟩
  have h10 : Visits .brace text 0 10 := ⟨0, reaches_of_iterate (n := 7) (by decide +kernel)⟩
  have hends : closing? text 0 = some (14, true) ∧ closing? text 2 = some (9, true) ∧
      closing? text 6 = some (8, true) ∧ closing? text 10 = some (12, true) := by decide +kernel
  obtain ⟨hinner, hpair⟩ := blocks_nested_or_disjoint .brace text 0 14 rfl hends.1
  exact ⟨⟨h2, h6, h10⟩, hends, (hinner 2 h2 rfl).2,
    hpair 2 6 9 8 h2 rfl h6 rfl (by decide) hends.2.1 hends.2.2.1,
    hpair 2 10 9 12 h2 rfl h10 rfl (by decide) hends.2.1 hends.2.2.2⟩

end SourceAtlas.Block
