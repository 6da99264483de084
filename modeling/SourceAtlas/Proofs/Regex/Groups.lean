import SourceAtlas.Pattern.Basic
import SourceAtlas.Proofs.Regex.Ways

/-!
# Groups that always take part, and what follows a match

Whoever reads a group of a match, or the character behind it, relies on the pattern: the group is on
every path through it, or it ends in a test of what follows. Both can be read off the pattern.
`sets` says of a group that no way of matching leaves it out; it is a test by recursion on the
pattern, so it is evaluated for every pattern of a table.

* `has_of_sets` — a group that a pattern sets is captured in every way of matching;
* `IsMatch.exists_group` — so it can be read off every match;
* `IsMatch.next_of_ahead` — a pattern that ends in a test of the next character is followed by a
  character that passes it.
-/

namespace SourceAtlas.Regex

/-- **Whether every way through a pattern passes a group.** -/
def sets (index : Nat) : Regex → Bool
  | .seq first second => sets index first || sets index second
  | .alt first second => sets index first && sets index second
  | .rep _ least _ body => decide (0 < least) && sets index body
  | .group i body => decide (i = index) || sets index body
  | .atomic body => sets index body
  | .ahead positive body => positive && sets index body
  | .behind positive _ body => positive && sets index body
  | .ifGroup _ yes no => sets index yes && sets index no
  | _ => false

/-! ### Captures are never given up on a way -/

/-- Captures are only ever added. -/
theorem captures_suffix_of_mem_ways {r : Regex} {s s' : State} (h : s' ∈ ways r s) :
    s.captures <:+ s'.captures := by
  refine ways_induction (R := fun s s' => s.captures <:+ s'.captures)
    (fun s => List.suffix_refl _) (fun hab hbc => hab.trans hbc) ?_ ?_ ?_ ?_ r s s' h
  · intro s ch c _
    exact List.suffix_refl _
  · intro s same text c _
    exact List.suffix_refl _
  · intro s s' index capture hss
    exact hss.trans (List.suffix_cons _ _)
  · intro s s' c hss
    exact hss

/-- A group that has taken part. -/
def State.Has (s : State) (index : Nat) : Prop :=
  ∃ c, (index, c) ∈ s.captures

theorem State.Has.exists_capture {s : State} {index : Nat} (h : s.Has index) :
    ∃ c, s.capture? index = some c := by
  obtain ⟨c, hc⟩ := h
  have hsome : (s.capture? index).isSome = true :=
    List.lookup_isSome_iff.mpr ⟨(index, c), hc, beq_self_eq_true index⟩
  exact Option.isSome_iff_exists.mp hsome

theorem State.Has.mono {s s' : State} {index : Nat} (h : s.Has index)
    (hs : s.captures <:+ s'.captures) : s'.Has index :=
  h.imp fun _ hc => hs.subset hc

/-- A group that has taken part keeps having taken part. -/
theorem State.Has.of_mem_ways {r : Regex} {s s' : State} {index : Nat} (h : s.Has index)
    (hs' : s' ∈ ways r s) : s'.Has index :=
  h.mono (captures_suffix_of_mem_ways hs')

/-- **A group that a pattern sets has taken part in every way of matching.** -/
theorem has_of_sets {r : Regex} {index : Nat} {s s' : State} (h : sets index r = true)
    (hs' : s' ∈ ways r s) : s'.Has index := by
  induction r generalizing s s' with
  | seq first second ih₁ ih₂ =>
    obtain ⟨s₁, hs₁, hs'⟩ := List.mem_flatMap.mp hs'
    rcases Bool.or_eq_true _ _ ▸ h with h | h
    · exact (ih₁ h hs₁).of_mem_ways hs'
    · exact ih₂ h hs'
  | alt first second ih₁ ih₂ =>
    obtain ⟨h₁, h₂⟩ := Bool.and_eq_true_iff.mp h
    rcases List.mem_append.mp hs' with hs' | hs'
    · exact ih₁ h₁ hs'
    · exact ih₂ h₂ hs'
  | rep mode least most body ih =>
    obtain ⟨hleast, hbody⟩ := Bool.and_eq_true_iff.mp h
    obtain ⟨n, rfl⟩ := Nat.exists_eq_succ_of_ne_zero (Nat.ne_of_gt (of_decide_eq_true hleast))
    -- the first round sets the group, and no later round gives it up
    obtain ⟨s₁, hs₁, hlater⟩ := exists_round_of_mem_repeatedWays
      (R := fun s s' => s.captures <:+ s'.captures) (fun s => List.suffix_refl _)
      (fun hab hbc => hab.trans hbc) (fun s s' h => captures_suffix_of_mem_ways h) hs'
    exact (ih hbody hs₁).mono hlater
  | group i body ih =>
    obtain ⟨s₁, hs₁, rfl⟩ := List.mem_map.mp hs'
    rcases Bool.or_eq_true _ _ ▸ h with h | h
    · obtain rfl := of_decide_eq_true h
      exact ⟨_, List.mem_cons_self⟩
    · exact (ih h hs₁).mono (List.suffix_cons _ _)
  | atomic body ih => exact ih h (List.mem_of_head? (Option.mem_toList.mp hs'))
  | ahead positive body ih =>
    -- a test that has to succeed goes back to where it began, but keeps what its body captured
    obtain ⟨rfl, hbody⟩ := Bool.and_eq_true_iff.mp h
    obtain ⟨-, s₁, hs₁, rfl⟩ | ⟨hfalse, -⟩ := mem_lookWays hs'
    · have hbody : s₁.Has index := ih hbody (List.mem_of_head? hs₁)
      exact hbody
    · cases hfalse
  | behind positive width body ih =>
    obtain ⟨rfl, hbody⟩ := Bool.and_eq_true_iff.mp h
    obtain ⟨-, s₁, hs₁, rfl⟩ | ⟨hfalse, -⟩ := mem_lookWays hs'
    · obtain ⟨c, -, hs₁⟩ := Option.bind_eq_some_iff.mp hs₁
      have hbody : s₁.Has index := ih hbody (List.mem_of_head? hs₁)
      exact hbody
    · cases hfalse
  | ifGroup i yes no ih₁ ih₂ =>
    obtain ⟨h₁, h₂⟩ := Bool.and_eq_true_iff.mp h
    simp only [ways] at hs'
    split at hs'
    · exact ih₁ h₁ hs'
    · exact ih₂ h₂ hs'
  | empty => cases h
  | char test => cases h
  | backref i same => cases h
  | anchor test => cases h

/-- **A group that a pattern sets can be read off every match.** -/
theorem IsMatch.exists_group {r : Regex} {text : List Char} {m : Match} {index : Nat}
    (h : IsMatch r text m) (hsets : sets index r = true) : ∃ g, m.group? index = some g := by
  obtain ⟨c, hc⟩ := (has_of_sets hsets h.final).exists_capture
  cases index with
  | zero => exact ⟨_, rfl⟩
  | succ n => exact ⟨c.text, congrArg (Option.map Capture.text) hc⟩

/-! ### Patterns that look at what follows -/

/-- The last pattern of a sequence ends every way through it. -/
theorem exists_of_mem_ways_cat {rs : List Regex} {last : Regex} {s s' : State}
    (h : s' ∈ ways (cat (rs ++ [last])) s) : ∃ s₁, s' ∈ ways last s₁ := by
  induction rs generalizing s with
  | nil => exact ⟨s, h⟩
  | cons r rs ih =>
    obtain ⟨r', rs', hcons⟩ : ∃ r' rs', rs ++ [last] = r' :: rs' :=
      List.exists_cons_of_ne_nil (List.append_ne_nil_of_right_ne_nil _ (List.cons_ne_nil _ _))
    -- `cat` treats its last pattern apart, so the rest has to be seen not to be empty
    rw [List.cons_append, hcons] at h
    obtain ⟨s₁, -, h⟩ := List.mem_flatMap.mp h
    exact ih (hcons ▸ h)

/-- A test of a character reads the next one, which passes it. -/
theorem exists_of_mem_ways_char {test : Char → Bool} {s s' : State} (h : s' ∈ ways (.char test) s) :
    ∃ ch rest c, s.cursor.after = ch :: rest ∧ s.cursor.next? = some (ch, c) ∧ test ch = true ∧
      s' = s.moveTo c := by
  simp only [ways] at h
  split at h
  · next ch c hnext =>
    split at h
    · next htest =>
      have hread := hnext
      unfold Cursor.next? at hread
      split at hread
      · cases hread
      · next ch' rest hafter =>
        obtain ⟨rfl, -⟩ := Prod.mk.inj (Option.some.inj hread)
        exact ⟨ch', rest, c, hafter, hnext, htest, List.mem_singleton.mp h⟩
    · cases h
  · cases h

/-- A test of the next character stays where it is, in front of a character that passes. -/
theorem next_of_mem_ways_ahead {test : Char → Bool} {s s' : State}
    (h : s' ∈ ways (.ahead true (.char test)) s) :
    ∃ ch rest, s'.cursor.after = ch :: rest ∧ test ch = true := by
  obtain ⟨-, s₁, hs₁, rfl⟩ | ⟨hfalse, -⟩ := mem_lookWays h
  · -- the body read a character, and the cursor was put back in front of it
    obtain ⟨ch, rest, -, hafter, -, htest, -⟩ := exists_of_mem_ways_char (List.mem_of_head? hs₁)
    exact ⟨ch, rest, hafter, htest⟩
  · cases hfalse

/-- **Behind a pattern that ends in a test of the next character** there is one that passes it. -/
theorem IsMatch.next_of_ahead (rs : List Regex) {test : Char → Bool} {text : List Char} {m : Match}
    (h : IsMatch (cat (rs ++ [.ahead true (.char test)])) text m) :
    ∃ ch rest, text.drop m.endPos = ch :: rest ∧ test ch = true := by
  obtain ⟨s₁, hs₁⟩ := exists_of_mem_ways_cat h.final
  obtain ⟨ch, rest, hafter, htest⟩ := next_of_mem_ways_ahead hs₁
  exact ⟨ch, rest, h.isIn_final.drop_pos.trans hafter, htest⟩

end SourceAtlas.Regex
