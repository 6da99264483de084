import Mathlib.Data.List.Infix
import SourceAtlas.Exclusion
import SourceAtlas.Proofs.Regex.Literal

/-!
# Globs

A glob is matched by turning it into a pattern and searching for a way that reads the whole text.
What that comes to is a plain recursion on the glob (`globMatches`), which knows of no search: a
star takes any run of characters, a question mark any one, and every other character one that is the
same up to case. The two agree on texts of one line, because there a wildcard may take every
character, so that a star leads to every place further on.

* `globMatches` — what a glob matches;
* `exists_way_star_iff` — where a star leads;
* `exists_way_glob_iff` — where a glob leads: by induction on the glob, one case for each kind of
  character;
* `matchesWhole_globRegex`, `matchesSegment_eq` — the matching of paths and of their segments;
* `Covers`, `excludes_iff_covers` — which paths a pattern excludes.
-/

namespace SourceAtlas

/-! ### Where a single character leads, and a star -/

namespace Regex

variable {r : Regex} {text : List Char}

theorem ways_char_cons (test : Char → Bool) (before : List Char) (ch : Char) (after : List Char)
    (pos left : Nat) (captures : List (Nat × Capture)) :
    ways (.char test) ⟨⟨before, ch :: after, pos, left⟩, captures⟩ =
      if test ch then [⟨⟨ch :: before, after, pos + 1, left - 1⟩, captures⟩] else [] := rfl

/-- Where a test of the next character leads. -/
theorem exists_way_char_iff {test : Char → Bool} {s : State} (rest : List Char) :
    (∃ s' ∈ ways (.char test) s, s'.cursor.after = rest) ↔
      ∃ ch, ch :: rest = s.cursor.after ∧ test ch = true := by
  obtain ⟨⟨before, after, pos, left⟩, captures⟩ := s
  cases after with
  | nil =>
    refine iff_of_false ?_ ?_
    · rintro ⟨_, hmem, -⟩
      exact List.not_mem_nil hmem
    · rintro ⟨_, heq, -⟩
      cases heq
  | cons ch after =>
    rw [ways_char_cons]
    constructor
    · rintro ⟨s', hs', rfl⟩
      split at hs'
      · next htest =>
        obtain rfl := List.mem_singleton.mp hs'
        exact ⟨ch, rfl, htest⟩
      · cases hs'
    · rintro ⟨ch', heq, htest⟩
      obtain ⟨rfl, rfl⟩ := List.cons.inj heq
      rw [if_pos htest]
      exact ⟨_, List.mem_singleton_self _, rfl⟩

/-- **A repetition of a test that every character passes** leads to all places further on. -/
theorem exists_way_star_iff {test : Char → Bool} {s : State}
    (hleft : s.cursor.left = s.cursor.after.length) (htest : ∀ ch ∈ s.cursor.after, test ch = true)
    (rest : List Char) :
    (∃ s' ∈ ways (star (.char test)) s, s'.cursor.after = rest) ↔ rest <:+ s.cursor.after := by
  have hways : ways (star (.char test)) s = roundsWays (ways (.char test)) none s :=
    List.flatMap_singleton ..
  rw [hways]
  clear hways
  obtain ⟨⟨before, after, pos, left⟩, captures⟩ := s
  dsimp only at hleft htest ⊢
  -- along the characters that follow, since each round takes one of them
  induction after generalizing before pos left with
  | nil =>
    have hend : roundsWays (ways (.char test)) none ⟨⟨before, [], pos, left⟩, captures⟩ =
        [⟨⟨before, [], pos, left⟩, captures⟩] := by
      rw [roundsWays]
      rfl
    rw [hend, List.suffix_nil]
    simp only [List.mem_singleton, exists_eq_left]
    exact eq_comm
  | cons ch after ih =>
    -- one round reads the next character, and the others go on from there
    have hround : roundsWays (ways (.char test)) none ⟨⟨before, ch :: after, pos, left⟩, captures⟩ =
        roundsWays (ways (.char test)) none ⟨⟨ch :: before, after, pos + 1, left - 1⟩, captures⟩ ++
          [⟨⟨before, ch :: after, pos, left⟩, captures⟩] := by
      have hless : left - 1 < left := by
        rw [hleft, List.length_cons]
        omega
      rw [roundsWays, ways_char_cons, if_pos (htest ch List.mem_cons_self), List.flatMap_singleton,
        if_pos hless]
      rfl
    have hlater := ih (ch :: before) (pos + 1) (left - 1) (by rw [hleft]; rfl)
      fun ch' hch' => htest ch' (List.mem_cons_of_mem ch hch')
    rw [hround, List.suffix_cons_iff]
    simp only [List.mem_append, List.mem_singleton, or_and_right, exists_or, exists_eq_left]
    exact (or_congr hlater eq_comm).trans or_comm

/-- In a text of one line, the end of the last line is the end of the text. -/
theorem Cursor.IsIn.satisfies_lastLineEnd_iff {c : Cursor} (hc : c.IsIn text)
    (hline : '\n' ∉ text) : c.satisfies .lastLineEnd = true ↔ c.after = [] := by
  rw [Cursor.satisfies, Bool.or_eq_true, List.isEmpty_iff, beq_iff_eq, or_iff_left]
  intro hbreak
  exact hline (hc.split ▸ hbreak ▸ List.mem_append_right _ List.mem_cons_self)

end Regex

namespace Exclusion

/-- **Whether a glob matches a text:** a star stands for any run of characters, a question mark for
any one, and every other character for those that are the same up to case. -/
def globMatches : List Char → List Char → Bool
  | [], text => text.isEmpty
  | w :: glob, text =>
    if w == '*' then text.tails.any (globMatches glob)
    else text.head?.any (fun c => w == '?' || Text.sameFold w c) && globMatches glob text.tail

/-- A star matches any front. -/
theorem globMatches_star_iff {glob text : List Char} :
    globMatches ('*' :: glob) text = true ↔
      ∃ front rest, front ++ rest = text ∧ globMatches glob rest = true := by
  rw [globMatches, if_pos BEq.rfl, List.any_eq_true]
  constructor
  · rintro ⟨rest, hrest, hmatch⟩
    obtain ⟨front, hfront⟩ := (List.mem_tails _ _).mp hrest
    exact ⟨front, rest, hfront, hmatch⟩
  · rintro ⟨front, rest, hfront, hmatch⟩
    exact ⟨rest, (List.mem_tails _ _).mpr ⟨front, hfront⟩, hmatch⟩

/-- Any other sign matches one character: a question mark any, a letter its own in either case. -/
theorem globMatches_cons_iff {w : Char} (hw : w ≠ '*') {glob text : List Char} :
    globMatches (w :: glob) text = true ↔
      ∃ c rest, c :: rest = text ∧ (w = '?' ∨ Text.sameFold w c = true) ∧
        globMatches glob rest = true := by
  rw [globMatches, if_neg (mt beq_iff_eq.mp hw)]
  cases text with
  | nil => simp
  | cons c rest => simp

section Ways

open Regex (State ways)

variable {text : List Char} {s : State}

/-- Where one character of a glob leads. -/
theorem exists_way_globChar_iff (w : Char) (hs : s.cursor.IsIn text) (hline : '\n' ∉ text)
    (rest : List Char) :
    (∃ s' ∈ ways (globChar w) s, s'.cursor.after = rest) ↔
      if w = '*' then rest <:+ s.cursor.after
      else ∃ c, c :: rest = s.cursor.after ∧ (w = '?' ∨ Text.sameFold w c = true) := by
  -- a wildcard may take every character of a line
  have htest : ∀ ch ∈ s.cursor.after, (ch != '\n') = true := by
    intro ch hch
    rw [bne_iff_ne]
    rintro rfl
    exact hline (hs.split ▸ List.mem_append_right _ hch)
  by_cases hstar : w = '*'
  · subst hstar
    rw [if_pos rfl]
    exact Regex.exists_way_star_iff hs.left htest rest
  · rw [if_neg hstar]
    by_cases hmark : w = '?'
    · subst hmark
      rw [show globChar '?' = .char (· != '\n') from rfl, Regex.exists_way_char_iff]
      refine exists_congr fun c => and_congr_right fun hc => ?_
      exact iff_of_true (htest c (hc ▸ List.mem_cons_self)) (.inl rfl)
    · have hchar : globChar w = .char (Text.sameFold w) := by
        rw [globChar, if_neg (mt beq_iff_eq.mp hstar), if_neg (mt beq_iff_eq.mp hmark)]
        rfl
      rw [hchar, Regex.exists_way_char_iff]
      simp only [hmark, false_or]

/-- **Where a glob leads:** behind each front of the text that it matches. -/
theorem exists_way_glob_iff (glob : List Char) (hs : s.cursor.IsIn text) (hline : '\n' ∉ text)
    (rest : List Char) :
    (∃ s' ∈ ways (globRegex glob) s, s'.cursor.after = rest) ↔
      ∃ front, front ++ rest = s.cursor.after ∧ globMatches glob front = true := by
  induction glob generalizing s with
  | nil =>
    have hways : ways (globRegex []) s = [s] := rfl
    rw [hways]
    simp only [List.mem_singleton, exists_eq_left, globMatches, List.isEmpty_iff, exists_eq_right,
      List.nil_append]
    exact eq_comm
  | cons w glob ih =>
    -- the first character leads somewhere, and the rest of the glob goes on from there
    have hstep : (∃ s' ∈ ways (globRegex (w :: glob)) s, s'.cursor.after = rest) ↔
        ∃ front, (∃ s₁ ∈ ways (globChar w) s, s₁.cursor.after = front ++ rest) ∧
          globMatches glob front = true := by
      have hways : ways (globRegex (w :: glob)) s =
          (ways (globChar w) s).flatMap (ways (globRegex glob)) :=
        Regex.ways_cat_cons (globChar w) (glob.map globChar) s
      rw [hways]
      constructor
      · rintro ⟨s', hs', hrest⟩
        obtain ⟨s₁, hs₁, hs'⟩ := List.mem_flatMap.mp hs'
        obtain ⟨front, hfront, hmatch⟩ :=
          (ih (Regex.isIn_of_mem_ways hs hs₁)).mp ⟨s', hs', hrest⟩
        exact ⟨front, ⟨s₁, hs₁, hfront.symm⟩, hmatch⟩
      · rintro ⟨front, ⟨s₁, hs₁, hfront⟩, hmatch⟩
        obtain ⟨s', hs', hrest⟩ :=
          (ih (Regex.isIn_of_mem_ways hs hs₁)).mpr ⟨front, hfront.symm, hmatch⟩
        exact ⟨s', List.mem_flatMap.mpr ⟨s₁, hs₁, hs'⟩, hrest⟩
    simp only [hstep, exists_way_globChar_iff w hs hline]
    by_cases hw : w = '*'
    · subst hw
      simp only [if_true, globMatches_star_iff]
      constructor
      · rintro ⟨front, ⟨before, hbefore⟩, hmatch⟩
        exact ⟨before ++ front, by rw [List.append_assoc, hbefore], before, front, rfl, hmatch⟩
      · rintro ⟨_, hfront, before, front, rfl, hmatch⟩
        exact ⟨front, ⟨before, by rw [← List.append_assoc, hfront]⟩, hmatch⟩
    · simp only [if_neg hw, globMatches_cons_iff hw]
      constructor
      · rintro ⟨front, ⟨c, hc, hsame⟩, hmatch⟩
        exact ⟨c :: front, hc, c, front, rfl, hsame, hmatch⟩
      · rintro ⟨_, hfront, c, front, rfl, hsame, hmatch⟩
        exact ⟨front, ⟨c, hfront, hsame⟩, hmatch⟩

end Ways

/-! ### Texts of one line -/

variable {text : List Char}

/-- **The expression of a glob and the direct matcher agree** on texts of one line. -/
theorem exists_way_to_end_iff (glob : List Char) (hline : '\n' ∉ text) :
    (∃ s ∈ Regex.ways (globRegex glob) ⟨Regex.Cursor.start text, []⟩, s.cursor.after = []) ↔
      globMatches glob text = true := by
  rw [exists_way_glob_iff glob (Regex.Cursor.isIn_start text) hline]
  simp only [List.append_nil, exists_eq_left, Regex.Cursor.start]

/-- **A path is matched as a whole** just where the glob matches it. -/
theorem matchesWhole_globRegex (glob : List Char) (hline : '\n' ∉ text) :
    (globRegex glob).matchesWhole text = globMatches glob text := by
  rw [Bool.eq_iff_iff, Regex.matchesWhole, Regex.isSome_matchAt_iff]
  simp only [List.isEmpty_iff]
  exact exists_way_to_end_iff glob hline

/-- **A segment is matched** just where the glob matches it: no newline can be left over. -/
theorem matchesSegment_eq (glob : List Char) (hline : '\n' ∉ text) :
    matchesSegment glob text = globMatches glob text := by
  rw [Bool.eq_iff_iff, ← exists_way_to_end_iff glob hline, matchesSegment, Regex.matchesStart,
    Regex.isSome_matchAt_iff, Regex.ways_cat_cons]
  constructor
  · -- the anchor stays where the glob has led to
    rintro ⟨s, hs, -⟩
    obtain ⟨s', hs', hend⟩ := List.mem_flatMap.mp hs
    obtain ⟨rfl, hlast⟩ := Regex.mem_ways_anchor_iff.mp hend
    have hin := Regex.isIn_of_mem_ways (Regex.Cursor.isIn_start text) hs'
    exact ⟨s, hs', (hin.satisfies_lastLineEnd_iff hline).mp hlast⟩
  · rintro ⟨s, hs, hend⟩
    have hin := Regex.isIn_of_mem_ways (Regex.Cursor.isIn_start text) hs
    have hlast := (hin.satisfies_lastLineEnd_iff hline).mpr hend
    exact ⟨s, List.mem_flatMap.mpr ⟨s, hs, Regex.mem_ways_anchor_iff.mpr ⟨rfl, hlast⟩⟩, rfl⟩

/-! ### Excluded paths -/

/-- **A pattern covers a path,** in one of three ways. -/
inductive Covers (glob text : List Char) : Prop
  /-- It is a part of the path, up to case. -/
  | part (h : Text.lowerText glob <:+: Text.lowerText text)
  /-- One of its segments, if not made of wildcards only, matches a segment of the path. -/
  | segment {segment part : List Char} (hsegment : segment ∈ Text.splitOn '/' glob)
      (hnamed : ∃ w ∈ segment, w ≠ '*' ∧ w ≠ '?') (hpart : part ∈ Text.splitOn '/' text)
      (hmatch : globMatches segment part = true)
  /-- It matches the path. -/
  | whole (h : globMatches glob text = true)

/-- A segment with a character of its own in it is not wild. -/
theorem isWild_eq_false_iff {segment : List Char} :
    isWild segment = false ↔ ∃ w ∈ segment, w ≠ '*' ∧ w ≠ '?' := by
  simp [isWild, List.all_eq_false]

theorem mem_of_mem_splitOn {sep c : Char} {cs part : List Char} (hpart : part ∈ Text.splitOn sep cs)
    (hc : c ∈ part) : c ∈ cs := by
  induction cs generalizing part with
  | nil =>
    obtain rfl := List.mem_singleton.mp hpart
    exact hc
  | cons d cs ih =>
    rw [Text.splitOn] at hpart
    split at hpart
    · rcases List.mem_cons.mp hpart with rfl | hpart
      · cases hc
      · exact List.mem_cons_of_mem d (ih hpart hc)
    · -- the character goes to the front of the first part, which may be a new one
      cases hsplit : Text.splitOn sep cs with
      | nil =>
        rw [hsplit] at hpart
        obtain rfl := List.mem_singleton.mp hpart
        exact List.mem_singleton.mp hc ▸ List.mem_cons_self
      | cons first parts =>
        rw [hsplit] at hpart ih
        rcases List.mem_cons.mp hpart with rfl | hpart
        · rcases List.mem_cons.mp hc with rfl | hc
          · exact List.mem_cons_self
          · exact List.mem_cons_of_mem d (ih List.mem_cons_self hc)
        · exact List.mem_cons_of_mem d (ih (List.mem_cons_of_mem first hpart) hc)

theorem notMem_slashes {c : Char} (hc : c ≠ '/') {cs : List Char} (h : c ∉ cs) :
    c ∉ slashes cs := by
  intro hmem
  obtain ⟨d, hd, heq⟩ := List.mem_map.mp hmem
  split at heq
  · exact hc heq.symm
  · exact h (heq ▸ hd)

/-- **The excluded paths of one line** are those that the pattern covers. -/
theorem excludes_iff_covers {pattern path : String} (hpattern : pattern ≠ "")
    (hline : '\n' ∉ path.toList) :
    excludes pattern path = true ↔ Covers (slashes pattern.toList) (slashes path.toList) := by
  have hglob : (slashes pattern.toList).isEmpty = false := by
    rw [List.isEmpty_eq_false_iff, slashes, Ne, List.map_eq_nil_iff]
    exact fun hnil => hpattern (String.toList_injective hnil)
  have htext : '\n' ∉ slashes path.toList := notMem_slashes (by decide) hline
  -- parts of a path without line ends have none, so the direct matcher may be used
  have hparts : ∀ part ∈ Text.splitOn '/' (slashes path.toList), ∀ segment,
      matchesSegment segment part = globMatches segment part := fun part hpart segment =>
    matchesSegment_eq segment fun hmem => htext (mem_of_mem_splitOn hpart hmem)
  simp only [excludes, hglob, Bool.not_false, Bool.true_and, Bool.or_eq_true, Regex.occursIn_iff,
    matchesWhole_globRegex _ htext, List.any_eq_true, Bool.and_eq_true, Bool.not_eq_true',
    isWild_eq_false_iff]
  constructor
  · rintro ((hpart | ⟨segment, hsegment, hnamed, part, hpart, hmatch⟩) | hwhole)
    · exact .part hpart
    · exact .segment hsegment hnamed hpart (hparts part hpart segment ▸ hmatch)
    · exact .whole hwhole
  · rintro (hpart | ⟨hsegment, hnamed, hpart, hmatch⟩ | hwhole)
    · exact .inl (.inl hpart)
    · exact .inl (.inr ⟨_, hsegment, hnamed, _, hpart, (hparts _ hpart _).trans hmatch⟩)
    · exact .inr hwhole

end Exclusion

end SourceAtlas
