import SourceAtlas.Proofs.Disk.Walk
import SourceAtlas.Proofs.Exclusion.Glob

/-!
# Excluding a directory

A directory is excluded by its name between two wildcards, `*/name/*`. The pattern is read in three
ways, and together they come to one thing: some segment of the path is the name, up to case.

* As globs for segments, its two wildcards never apply, being made of nothing else. What is left is
  the name, which is a glob without wildcards.
* As a glob for the path, it applies where the name stands between two slashes. What stands there is
  a segment, since no other character is a slash up to case (`Text.eq_of_sameFold`).
* As a plain part of the path, it would bring its stars along, and lower case makes no star out of
  another character (`Text.mem_of_mem_lowerText`).

Both facts about case hold for all signs, that is for the characters below the capital letters of
the first 128 code points.
-/

namespace SourceAtlas

/-! ### Signs have no case -/

namespace Text

/-- A run of characters with lower-case forms leads to characters, none of which is a sign. -/
theorem le_of_image? {r : CaseRun} (hr : r ∈ lowerRuns) {n m : Nat} (hm : r.image? n = some m) :
    0x41 ≤ m ∧ m.isValidChar := by
  have hall : lowerRuns.toList.all (fun r => decide (0x41 ≤ r.2.2.2 ∧
      (r.2.2.2 + (r.2.1 - r.1) < 0xd800 ∨
        0xdfff < r.2.2.2 ∧ r.2.2.2 + (r.2.1 - r.1) < 0x110000))) = true := by
    decide +kernel
  have hrun := of_decide_eq_true (List.all_eq_true.mp hall r (Array.mem_toList_iff.mpr hr))
  obtain ⟨first, last, step, target⟩ := r
  dsimp only at hrun
  simp only [CaseRun.image?, Option.ite_none_right_eq_some, Bool.and_eq_true, decide_eq_true_eq,
    Option.some.injEq] at hm
  obtain ⟨⟨⟨hfirst, hlast⟩, -⟩, rfl⟩ := hm
  unfold Nat.isValidChar
  omega

theorem lowerCode_of_lt {n : Nat} (h : n < 0x41) : lowerCode n = n := by
  have hupper : ¬(decide (0x41 ≤ n) && decide (n ≤ 0x5a)) = true := by
    simp only [Bool.and_eq_true, decide_eq_true_eq]
    omega
  rw [lowerCode, if_pos (by omega), if_neg hupper]

theorem le_lowerCode {n : Nat} (h : 0x41 ≤ n) : 0x41 ≤ lowerCode n := by
  unfold lowerCode
  split
  · split <;> omega
  · cases hfound : lowerRuns.findSome? fun r => r.image? n with
    | none => exact h
    | some m =>
      obtain ⟨r, hr, himage⟩ := Array.exists_of_findSome?_eq_some hfound
      exact (le_of_image? hr himage).1

/-- Lower case of characters is lower case of code points. -/
theorem toNat_lower (c : Char) : (lower c).toNat = lowerCode c.toNat := by
  unfold lower
  split
  · -- among the first 128 code points, by looking at each of them
    next h =>
    have hascii : ∀ n < 0x80, (Char.ofNat n).toLower.toNat = lowerCode n := by decide +kernel
    have hc := hascii c.toNat h
    rwa [Char.ofNat_toNat] at hc
  · -- above them, what the runs lead to has to be the code point of a character
    next h =>
    have hvalid : (lowerCode c.toNat).isValidChar := by
      rw [lowerCode, if_neg h]
      cases hfound : lowerRuns.findSome? fun r => r.image? c.toNat with
      | none => exact c.valid
      | some m =>
        obtain ⟨r, hr, himage⟩ := Array.exists_of_findSome?_eq_some hfound
        exact (le_of_image? hr himage).2
    rw [Char.ofNat, dif_pos hvalid]
    rfl

/-- Signs and digits are the lower case of themselves only. -/
theorem lower_eq_iff {c d : Char} (hc : c.toNat < 0x41) : lower d = c ↔ d = c := by
  rw [← Char.toNat_inj, ← Char.toNat_inj, toNat_lower]
  by_cases hd : d.toNat < 0x41
  · rw [lowerCode_of_lt hd]
  · have hlow := le_lowerCode (Nat.not_lt.mp hd)
    omega

/-- A sign in a text in lower case was in the text. -/
theorem mem_of_mem_lowerFrom {c : Char} (hc : c.toNat < 0x41) {before cs : List Char}
    (h : c ∈ lowerFrom before cs) : c ∈ cs := by
  induction cs generalizing before with
  | nil => cases h
  | cons d cs ih =>
    rw [lowerFrom] at h
    rcases List.mem_append.mp h with hlow | hrest
    · -- the three forms that are not read off the runs are letters and marks, never a sign
      split at hlow
      · simp only [List.mem_cons, List.not_mem_nil, or_false] at hlow
        rcases hlow with rfl | rfl
        · exact absurd hc (by decide)
        · exact absurd hc (by decide)
      · split at hlow
        · split at hlow
          · obtain rfl := List.mem_singleton.mp hlow
            exact absurd hc (by decide)
          · obtain rfl := List.mem_singleton.mp hlow
            exact absurd hc (by decide)
        · have heq := (lower_eq_iff hc).mp (List.mem_singleton.mp hlow).symm
          exact heq ▸ List.mem_cons_self
    · exact List.mem_cons_of_mem d (ih hrest)

/-- **Lower case makes no sign out of another character.** -/
theorem mem_of_mem_lowerText {c : Char} (hc : c.toNat < 0x41) {cs : List Char}
    (h : c ∈ lowerText cs) : c ∈ cs :=
  mem_of_mem_lowerFrom hc h

theorem le_representative {n : Nat} (h : 0x41 ≤ n) : 0x41 ≤ representative n := by
  have hall : foldClasses.all (fun cls => cls.head?.all fun m => decide (0x41 ≤ m)) = true := by
    decide
  unfold representative
  cases hfound : foldClasses.find? fun cls => cls.contains n with
  | none => exact h
  | some cls =>
    have hhead := List.all_eq_true.mp hall cls (List.mem_of_find?_eq_some hfound)
    rw [Option.bind_some]
    cases hcls : cls.head? with
    | none => exact h
    | some m =>
      rw [hcls] at hhead
      exact of_decide_eq_true hhead

/-- **A sign is the same as itself only,** up to case. -/
theorem eq_of_sameFold {a b : Char} (hb : b.toNat < 0x41) (h : sameFold a b = true) : a = b := by
  have hfold : foldCode a.toNat = foldCode b.toNat := beq_iff_eq.mp h
  have hsign : foldCode b.toNat = b.toNat := by
    rw [foldCode, if_pos (by omega), lowerCode_of_lt hb]
  rw [hsign] at hfold
  rw [← Char.toNat_inj]
  by_cases ha : a.toNat < 0x41
  · rwa [foldCode, if_pos (by omega), lowerCode_of_lt ha] at hfold
  · have hletter : 0x41 ≤ foldCode a.toNat := by
      unfold foldCode
      have hlow := le_lowerCode (Nat.not_lt.mp ha)
      split
      · exact hlow
      · exact le_representative hlow
    omega

/-! ### Segments -/

/-- Cutting at a separator in the middle. -/
theorem splitOn_append_cons (sep : Char) (front cs : List Char) :
    splitOn sep (front ++ sep :: cs) = splitOn sep front ++ splitOn sep cs := by
  induction front with
  | nil => exact splitOn_cons_self sep cs
  | cons c front ih =>
    rw [List.cons_append, splitOn, splitOn, ih]
    split
    · rfl
    · cases hsplit : splitOn sep front with
      | nil => exact absurd hsplit (splitOn_ne_nil sep front)
      | cons part parts => rfl

/-- What stands between two separators is one of the parts. -/
theorem mem_splitOn_between {sep : Char} {part : List Char} (h : sep ∉ part)
    (front back : List Char) :
    part ∈ splitOn sep (front ++ sep :: (part ++ sep :: back)) := by
  rw [splitOn_append_cons, splitOn_append_cons, splitOn_of_notMem h]
  exact List.mem_append_right _ (List.mem_append_left _ (List.mem_singleton_self part))

end Text

namespace Exclusion

/-! ### Globs that begin without wildcards -/

/-- **Equality of texts up to case,** character by character. -/
def SameText (name part : List Char) : Prop :=
  List.Forall₂ (fun w c => Text.sameFold w c = true) name part

/-- Texts that are the same but for case have the same signs. -/
theorem SameText.notMem {name part : List Char} (h : SameText name part) {c : Char}
    (hc : c.toNat < 0x41) (hname : c ∉ name) : c ∉ part := by
  intro hpart
  induction h with
  | nil => cases hpart
  | cons hsame _ ih =>
    rw [List.mem_cons, not_or] at hname
    rcases List.mem_cons.mp hpart with rfl | hpart
    · exact hname.1 (Text.eq_of_sameFold hc hsame).symm
    · exact ih hname.2 hpart

/-- **A glob that begins with characters other than wildcards** first takes a text that is the same
up to case. -/
theorem globMatches_append_iff {name : List Char} (hname : ∀ w ∈ name, w ≠ '*' ∧ w ≠ '?')
    {glob text : List Char} :
    globMatches (name ++ glob) text = true ↔
      ∃ part rest, part ++ rest = text ∧ SameText name part ∧ globMatches glob rest = true := by
  induction name generalizing text with
  | nil =>
    constructor
    · intro h
      exact ⟨[], text, rfl, .nil, h⟩
    · rintro ⟨part, rest, rfl, hsame, h⟩
      cases hsame
      exact h
  | cons w name ih =>
    obtain ⟨⟨hstar, hmark⟩, hname⟩ := List.forall_mem_cons.mp hname
    -- a character of the name is no wildcard, so it takes one character of the text
    rw [List.cons_append, globMatches_cons_iff hstar]
    constructor
    · rintro ⟨c, rest, rfl, hsame, h⟩
      obtain ⟨part, rest, rfl, hpart, h⟩ := (ih hname).mp h
      exact ⟨c :: part, rest, rfl, .cons (hsame.resolve_left hmark) hpart, h⟩
    · rintro ⟨_, rest, rfl, hsame, h⟩
      cases hsame with
      | @cons _ c _ part hc hpart =>
        exact ⟨c, part ++ rest, rfl, .inr hc, (ih hname).mpr ⟨part, rest, rfl, hpart, h⟩⟩

/-- A glob without wildcards matches the texts that are the same up to case. -/
theorem globMatches_plain_iff {name : List Char} (hname : ∀ w ∈ name, w ≠ '*' ∧ w ≠ '?')
    {text : List Char} : globMatches name text = true ↔ SameText name text := by
  rw [← List.append_nil name, globMatches_append_iff hname, List.append_nil]
  constructor
  · rintro ⟨part, rest, rfl, hsame, hrest⟩
    rw [List.isEmpty_iff.mp hrest, List.append_nil]
    exact hsame
  · intro hsame
    exact ⟨text, [], List.append_nil text, hsame, rfl⟩

/-- A slash takes a slash, and nothing else. -/
theorem globMatches_slash_iff {glob text : List Char} :
    globMatches ('/' :: glob) text = true ↔
      ∃ rest, text = '/' :: rest ∧ globMatches glob rest = true := by
  rw [globMatches_cons_iff (by decide)]
  constructor
  · rintro ⟨c, rest, rfl, hsame, h⟩
    have hc : Text.sameFold c '/' = true := by
      rw [Text.sameFold_comm]
      exact hsame.resolve_left (by decide)
    obtain rfl := Text.eq_of_sameFold (by decide) hc
    exact ⟨rest, rfl, h⟩
  · rintro ⟨rest, rfl, h⟩
    exact ⟨'/', rest, rfl, .inr (Text.sameFold_refl '/'), h⟩

/-! ### The pattern of a directory -/

/-- The pattern that excludes a directory. -/
def directoryGlob (name : List Char) : List Char :=
  '*' :: '/' :: (name ++ ['/', '*'])

section Directory

variable {name text : List Char}

/-- The pattern of a directory has three segments. -/
theorem splitOn_directoryGlob (hslash : '/' ∉ name) :
    Text.splitOn '/' (directoryGlob name) = [['*'], name, ['*']] := by
  have hsplit : directoryGlob name = ['*'] ++ '/' :: (name ++ '/' :: ['*']) := rfl
  rw [hsplit, Text.splitOn_append_cons, Text.splitOn_append_cons, Text.splitOn_of_notMem hslash]
  rfl

/-- The pattern as a glob for a path: the name stands between two slashes. -/
theorem globMatches_directoryGlob_iff (hname : ∀ w ∈ name, w ≠ '*' ∧ w ≠ '?') :
    globMatches (directoryGlob name) text = true ↔
      ∃ front part back, text = front ++ '/' :: (part ++ '/' :: back) ∧ SameText name part := by
  rw [directoryGlob, globMatches_star_iff]
  constructor
  · rintro ⟨front, _, rfl, h⟩
    obtain ⟨_, rfl, h⟩ := globMatches_slash_iff.mp h
    obtain ⟨part, _, rfl, hsame, h⟩ := (globMatches_append_iff hname).mp h
    obtain ⟨back, rfl, -⟩ := globMatches_slash_iff.mp h
    exact ⟨front, part, back, rfl, hsame⟩
  · rintro ⟨front, part, back, rfl, hsame⟩
    have hback : globMatches ['*'] back = true :=
      globMatches_star_iff.mpr ⟨back, [], List.append_nil back, rfl⟩
    refine ⟨front, _, rfl, globMatches_slash_iff.mpr ⟨_, rfl, ?_⟩⟩
    exact (globMatches_append_iff hname).mpr
      ⟨part, _, rfl, hsame, globMatches_slash_iff.mpr ⟨back, rfl, hback⟩⟩

/-- **What the pattern of a directory covers:** the paths with a segment that is its name. -/
theorem covers_directoryGlob_iff (hne : name ≠ []) (hname : ∀ w ∈ name, w ≠ '*' ∧ w ≠ '?')
    (hslash : '/' ∉ name) (hstar : '*' ∉ text) :
    Covers (directoryGlob name) text ↔ ∃ part ∈ Text.splitOn '/' text, SameText name part := by
  constructor
  · rintro (hpart | ⟨hsegment, ⟨w, hw, hwild⟩, hpart, hmatch⟩ | hwhole)
    · -- a part of the path up to case would have the pattern's star in it
      have hmem : '*' ∈ Text.lowerText (directoryGlob name) := List.mem_cons_self
      exact absurd (Text.mem_of_mem_lowerText (by decide) (hpart.subset hmem)) hstar
    · rw [splitOn_directoryGlob hslash] at hsegment
      simp only [List.mem_cons, List.not_mem_nil, or_false] at hsegment
      rcases hsegment with rfl | rfl | rfl
      · exact absurd (List.mem_singleton.mp hw) hwild.1
      · exact ⟨_, hpart, (globMatches_plain_iff hname).mp hmatch⟩
      · exact absurd (List.mem_singleton.mp hw) hwild.1
    · obtain ⟨front, part, back, rfl, hsame⟩ := (globMatches_directoryGlob_iff hname).mp hwhole
      have hpart : '/' ∉ part := hsame.notMem (by decide) hslash
      exact ⟨part, Text.mem_splitOn_between hpart front back, hsame⟩
  · rintro ⟨part, hpart, hsame⟩
    obtain ⟨w, hw⟩ := List.exists_mem_of_ne_nil name hne
    have hsegment : name ∈ Text.splitOn '/' (directoryGlob name) := by
      rw [splitOn_directoryGlob hslash]
      exact List.mem_cons_of_mem _ List.mem_cons_self
    exact .segment hsegment ⟨w, hw, hname w hw⟩ hpart ((globMatches_plain_iff hname).mpr hsame)

end Directory

theorem slashes_eq_self {cs : List Char} (h : '\\' ∉ cs) : slashes cs = cs := by
  refine (List.map_congr_left fun c hc => ?_).trans (List.map_id cs)
  have hback : ¬(c == '\\') = true := fun heq => h (beq_iff_eq.mp heq ▸ hc)
  exact if_neg hback

/-- **Which paths a directory's pattern excludes.** Between two wildcards, a name excludes just the
paths with a segment, at whatever depth, that is the name up to case. Where the name is never more
than a proper part of a segment, the path is not excluded. -/
theorem directory_exclusion {name path : String} (hname : name ≠ "")
    (hplain : ∀ c ∈ name.toList, c ∉ ['*', '?', '/', '\\'])
    (hpath : ∀ c ∈ path.toList, c ∉ ['*', '\n']) :
    (excludes ("*/" ++ name ++ "/*") path = true ↔
      ∃ part ∈ Text.splitOn '/' (slashes path.toList), SameText name.toList part) ∧
    ((∀ part ∈ Text.splitOn '/' (slashes path.toList), ∀ word,
        SameText name.toList word → word <:+: part → word ≠ part) →
      excludes ("*/" ++ name ++ "/*") path = false) := by
  have hwild : ∀ w ∈ name.toList, w ≠ '*' ∧ w ≠ '?' := by
    intro w hw
    have hnot := hplain w hw
    simp only [List.mem_cons, not_or] at hnot
    exact ⟨hnot.1, hnot.2.1⟩
  have hslash : '/' ∉ name.toList := fun hmem => hplain '/' hmem (by simp)
  have hback : '\\' ∉ name.toList := fun hmem => hplain '\\' hmem (by simp)
  have hstar : '*' ∉ path.toList := fun hmem => hpath '*' hmem (by simp)
  have hline : '\n' ∉ path.toList := fun hmem => hpath '\n' hmem (by simp)
  have hne : name.toList ≠ [] := fun hnil => hname (String.toList_injective hnil)
  -- the pattern has no backslash of its own, so it is read as it is written
  have hglob : slashes ("*/" ++ name ++ "/*").toList = directoryGlob name.toList := by
    have htext : ("*/" ++ name ++ "/*").toList = directoryGlob name.toList := by
      simp [directoryGlob]
    rw [htext]
    refine slashes_eq_self ?_
    simp [directoryGlob, hback]
  have hiff : excludes ("*/" ++ name ++ "/*") path = true ↔
      ∃ part ∈ Text.splitOn '/' (slashes path.toList), SameText name.toList part := by
    rw [excludes_iff_covers (by simp) hline, hglob]
    exact covers_directoryGlob_iff hne hwild hslash (notMem_slashes (by decide) hstar)
  refine ⟨hiff, fun hproper => ?_⟩
  rw [Bool.eq_false_iff, Ne, hiff]
  rintro ⟨part, hpart, hsame⟩
  exact hproper part hpart part hsame (List.infix_refl part) rfl

/-- A name of signs that mean something else in patterns, as the first segment of a path, and as no
more than the front of a segment. -/
theorem directory_exclusion_signs :
    excludes ("*/" ++ "[Ab].d+" ++ "/*") "[AB].D+\\main.h" = true ∧
      excludes ("*/" ++ "[Ab].d+" ++ "/*") "x/[ab].d++/y" = false := by
  have hname : "[Ab].d+" ≠ "" := by decide
  have hplain : ∀ c ∈ "[Ab].d+".toList, c ∉ ['*', '?', '/', '\\'] := by simp
  constructor
  · have hpath : ∀ c ∈ "[AB].D+\\main.h".toList, c ∉ ['*', '\n'] := by simp
    refine (directory_exclusion hname hplain hpath).1.mpr ⟨"[AB].D+".toList, by decide, ?_⟩
    unfold SameText
    decide
  · have hpath : ∀ c ∈ "x/[ab].d++/y".toList, c ∉ ['*', '\n'] := by simp
    have hlengths : ∀ part ∈ Text.splitOn '/' (slashes "x/[ab].d++/y".toList),
        part.length ≠ "[Ab].d+".toList.length := by
      decide
    refine (directory_exclusion hname hplain hpath).2 fun part hpart word hsame _ heq => ?_
    exact hlengths part hpart (heq ▸ hsame.length_eq.symm)

end Exclusion

end SourceAtlas
