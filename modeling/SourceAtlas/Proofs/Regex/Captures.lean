import SourceAtlas.Proofs.Regex.Groups
import SourceAtlas.Proofs.Regex.Spans

/-!
# What a group has captured was matched by its body

A match hands on the groups that it has passed, by number. A capture under a number is never made
up: it was noted where a group of that number ended, so it runs from a place to one of the places
where the body of the group led from there. Which bodies have a number is read off the pattern
(`bodies`), so that what is known of them is known of every group that is read from a match.

* `captured_of_mem_ways` — every capture was noted by a group, by induction on the pattern;
* `IsMatch.captured_of_group` — so the text of a group was matched by one of its bodies;
* `exists_cons_of_mem_ways` — a body that starts with a test of a character matches texts that start
  with such a character.
-/

namespace SourceAtlas.Regex

/-- **The bodies of the groups with a number.** -/
def bodies (index : Nat) : Regex → List Regex
  | .seq first second => bodies index first ++ bodies index second
  | .alt first second => bodies index first ++ bodies index second
  | .rep _ _ _ body => bodies index body
  | .group i body => if i = index then body :: bodies index body else bodies index body
  | .atomic body => bodies index body
  | .ahead _ body => bodies index body
  | .behind _ _ body => bodies index body
  | .ifGroup _ yes no => bodies index yes ++ bodies index no
  | _ => []

/-- **A capture that one of some patterns has matched:** it ends where the pattern leads from its
start. -/
def Captured (patterns : List Regex) (c : Capture) : Prop :=
  ∃ body ∈ patterns, ∃ s, ∃ s' ∈ ways body s, c = ⟨s.cursor, s'.cursor⟩

theorem Captured.mono {patterns others : List Regex} {c : Capture} (h : Captured patterns c)
    (hsub : patterns ⊆ others) : Captured others c := by
  obtain ⟨body, hbody, hc⟩ := h
  exact ⟨body, hsub hbody, hc⟩

/-- The captures that a step adds under a number are captures of some patterns. -/
def Adds (index : Nat) (patterns : List Regex) (s s' : State) : Prop :=
  ∀ c, (index, c) ∈ s'.captures → (index, c) ∈ s.captures ∨ Captured patterns c

section Adds

variable {index : Nat} {patterns others : List Regex} {s s₁ s' : State}

theorem Adds.of_captures_eq (h : s'.captures = s.captures) : Adds index patterns s s' :=
  fun _ hc => .inl (h ▸ hc)

/-- What two steps add, they add together. -/
theorem Adds.trans (h : Adds index patterns s s₁) (h' : Adds index patterns s₁ s') :
    Adds index patterns s s' :=
  fun c hc => (h' c hc).elim (h c) .inr

theorem Adds.mono (h : Adds index patterns s s') (hsub : patterns ⊆ others) :
    Adds index others s s' :=
  fun c hc => (h c hc).imp_right fun hcaptured => hcaptured.mono hsub

end Adds

/-- **Every capture was noted by a group of its number,** whose body had led from its start to its
end. -/
theorem captured_of_mem_ways {index : Nat} {r : Regex} {s s' : State} (h : s' ∈ ways r s) :
    Adds index (bodies index r) s s' := by
  induction r generalizing s s' with
  | empty =>
    obtain rfl := List.mem_singleton.mp h
    exact .of_captures_eq rfl
  | char test =>
    simp only [ways] at h
    split at h
    · split at h
      · obtain rfl := List.mem_singleton.mp h
        exact .of_captures_eq rfl
      · cases h
    · cases h
  | seq first second ih₁ ih₂ =>
    obtain ⟨s₁, hs₁, h⟩ := List.mem_flatMap.mp h
    exact ((ih₁ hs₁).mono (List.subset_append_left _ _)).trans
      ((ih₂ h).mono (List.subset_append_right _ _))
  | alt first second ih₁ ih₂ =>
    rcases List.mem_append.mp h with h | h
    · exact (ih₁ h).mono (List.subset_append_left _ _)
    · exact (ih₂ h).mono (List.subset_append_right _ _)
  | rep mode least most body ih =>
    exact repeatedWays_induction (R := Adds index (bodies index body))
      (fun s => .of_captures_eq rfl)
      Adds.trans (fun s s' h => ih h) mode least most s s' h
  | group i body ih =>
    obtain ⟨s₁, hs₁, rfl⟩ := List.mem_map.mp h
    have hinner : Adds index (bodies index (.group i body)) s s₁ := by
      refine (ih hs₁).mono ?_
      rw [bodies]
      split
      · exact List.subset_cons_self _ _
      · exact List.Subset.refl _
    intro c hc
    -- the capture is the one noted here, or the body has brought it along
    rcases List.mem_cons.mp hc with hnew | hold
    · obtain ⟨rfl, rfl⟩ := Prod.mk.inj hnew
      refine .inr ⟨body, ?_, s, s₁, hs₁, rfl⟩
      rw [bodies, if_pos rfl]
      exact List.mem_cons_self
    · exact hinner c hold
  | atomic body ih => exact ih (List.mem_of_head? (Option.mem_toList.mp h))
  | ahead positive body ih =>
    obtain ⟨-, s₁, hs₁, rfl⟩ | ⟨-, -, rfl⟩ := mem_lookWays h
    · exact (ih (List.mem_of_head? hs₁)).trans (.of_captures_eq rfl)
    · exact .of_captures_eq rfl
  | behind positive width body ih =>
    obtain ⟨-, s₁, hs₁, rfl⟩ | ⟨-, -, rfl⟩ := mem_lookWays h
    · obtain ⟨c, -, hs₁⟩ := Option.bind_eq_some_iff.mp hs₁
      have hmoved : Adds index (bodies index body) s (s.moveTo c) := .of_captures_eq rfl
      exact hmoved.trans ((ih (List.mem_of_head? hs₁)).trans (.of_captures_eq rfl))
    · exact .of_captures_eq rfl
  | backref i same =>
    simp only [ways] at h
    split at h
    · split at h
      · obtain rfl := List.mem_singleton.mp h
        exact .of_captures_eq rfl
      · cases h
    · cases h
  | ifGroup i yes no ih₁ ih₂ =>
    simp only [ways] at h
    split at h
    · exact (ih₁ h).mono (List.subset_append_left _ _)
    · exact (ih₂ h).mono (List.subset_append_right _ _)
  | anchor test =>
    simp only [ways] at h
    split at h
    · obtain rfl := List.mem_singleton.mp h
      exact .of_captures_eq rfl
    · cases h

/-- **The text of a group was matched by one of its bodies.** -/
theorem IsMatch.captured_of_group {r : Regex} {text : List Char} {m : Match} {index : Nat}
    {found : List Char} (hm : IsMatch r text m) (hindex : index ≠ 0)
    (hgroup : m.group? index = some found) :
    ∃ c, Captured (bodies index r) c ∧ c.text = found := by
  cases index with
  | zero => exact absurd rfl hindex
  | succ n =>
    obtain ⟨c, hc, rfl⟩ := Option.map_eq_some_iff.mp hgroup
    have hmem : (n + 1, c) ∈ m.final.captures := by
      obtain ⟨front, back, hsplit, -⟩ := List.lookup_eq_some_iff.mp hc
      rw [hsplit]
      exact List.mem_append_right _ List.mem_cons_self
    rcases captured_of_mem_ways hm.final c hmem with hstart | hcaptured
    · cases hstart
    · exact ⟨c, hcaptured, rfl⟩

/-! ### Texts that start with a tested character -/

/-- A pattern that starts with a test of a character matches texts that start with such a
character. -/
theorem exists_cons_of_mem_ways {test : Char → Bool} {rest : Regex} {s s' : State}
    (h : s' ∈ ways (.seq (.char test) rest) s) :
    ∃ ch cs, s.cursor.textTo s'.cursor = ch :: cs ∧ test ch = true := by
  obtain ⟨s₁, hs₁, h⟩ := List.mem_flatMap.mp h
  obtain ⟨ch, after, c, hafter, hnext, htest, rfl⟩ := exists_of_mem_ways_char hs₁
  -- what follows the character may match nothing, but it does not go back
  have hpos : s.cursor.pos + 1 ≤ s'.cursor.pos := by
    rw [← Cursor.pos_next? hnext]
    exact pos_le_of_mem_ways h
  obtain ⟨k, hk⟩ := Nat.exists_eq_add_of_le hpos
  have hlength : s'.cursor.pos - s.cursor.pos = k + 1 := by omega
  refine ⟨ch, after.take k, ?_, htest⟩
  rw [Cursor.textTo, hafter, hlength, List.take_succ_cons]

end SourceAtlas.Regex
