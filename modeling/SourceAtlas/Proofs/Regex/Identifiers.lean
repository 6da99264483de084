import SourceAtlas.Pattern.Basic
import SourceAtlas.Proofs.Regex.Offsets

/-!
# Identifiers in a text

The identifiers of the script dialects are a first character and any number of further ones, all of
them of the first 128 code points. A pattern that names something holds an identifier in a group,
and nothing in the pattern of an identifier says that it must be read from its start or to its end:
every end of an identifier that starts with a letter is an identifier, and so is every front of it.
Whether the whole of it was read depends on what stands around it (`IsWhole`).

* `Covered.of_mem_extract`, `covered_of_isPrefix` — stretches of characters of one kind, and parts
  of a text;
* `leads_ident`, `leads_capitalIdent` — where the two patterns for identifiers lead;
* `IsWhole` — an identifier of a text that is not part of a longer one;
* `IsWhole.of_break` — it is enough that every longer stretch to its left meets a character that
  cannot be in an identifier;
* `IsWhole.eq_of_covers` — every identifier of the text that covers it is the same one;
* `IsWhole.shift` — an identifier that is whole in a part of a text is whole in the text, if the
  part stands behind a character that cannot be in an identifier, and goes on behind the identifier.
-/

namespace SourceAtlas

/-! ### Characters of identifiers -/

/-- The code points of the characters of identifiers. -/
theorem toNat_of_isScriptContinuer {c : Char} (h : isScriptContinuer c = true) :
    (0x30 ≤ c.toNat ∧ c.toNat ≤ 0x39) ∨ (0x41 ≤ c.toNat ∧ c.toNat ≤ 0x5a) ∨
      (0x61 ≤ c.toNat ∧ c.toNat ≤ 0x7a) ∨ c.toNat = 0x5f ∨ c.toNat = 0x24 := by
  have hcases : (((c.isUpper = true ∨ c.isLower = true) ∨ c.isDigit = true) ∨ c = '_') ∨
      c = '$' := by
    have hor : (((c.isUpper || c.isLower) || c.isDigit) || c == '_' || c == '$') = true := h
    simpa only [Bool.or_eq_true, beq_iff_eq] using hor
  rcases hcases with (((h | h) | h) | rfl) | rfl
  · have hrange : 'A' ≤ c ∧ c ≤ 'Z' := of_decide_eq_true h
    exact .inr (.inl hrange)
  · obtain ⟨hlow, hhigh⟩ := Bool.and_eq_true_iff.mp h
    have hrange : 'a' ≤ c ∧ c ≤ 'z' := ⟨of_decide_eq_true hlow, of_decide_eq_true hhigh⟩
    exact .inr (.inr (.inl hrange))
  · obtain ⟨hlow, hhigh⟩ := Bool.and_eq_true_iff.mp h
    have hrange : '0' ≤ c ∧ c ≤ '9' := ⟨of_decide_eq_true hlow, of_decide_eq_true hhigh⟩
    exact .inl hrange
  · exact .inr (.inr (.inr (.inl rfl)))
  · exact .inr (.inr (.inr (.inr rfl)))

/-- What may start an identifier may go on with it. -/
theorem isScriptContinuer_of_isScriptOpener {c : Char} (h : isScriptOpener c = true) :
    isScriptContinuer c = true := by
  have hopener : c.isAlpha = true ∨ c = '_' ∨ c = '$' := by
    simpa only [isScriptOpener, Bool.or_eq_true, beq_iff_eq, or_assoc] using h
  have halnum : c.isAlpha = true → c.isAlphanum = true := Bool.or_inl
  simp only [isScriptContinuer, Bool.or_eq_true, beq_iff_eq, or_assoc]
  exact hopener.imp_left halnum

/-- Capital letters may go on with an identifier. -/
theorem isScriptContinuer_of_isUpper {c : Char} (h : c.isUpper = true) :
    isScriptContinuer c = true := by
  have halpha : c.isAlpha = true := Bool.or_inl h
  exact isScriptContinuer_of_isScriptOpener (by simp only [isScriptOpener, halpha, Bool.true_or])

/-- No blank is part of an identifier. -/
theorem isBlank_of_isScriptContinuer {c : Char} (h : isScriptContinuer c = true) :
    Text.isBlank c = false := by
  have hrange := toNat_of_isScriptContinuer h
  simp only [Text.isBlank, Bool.or_eq_false_iff, Bool.and_eq_false_iff, beq_eq_false_iff_ne,
    decide_eq_false_iff_not]
  omega

namespace Regex

variable {text w : List Char} {i j k p : Nat}

/-! ### Parts of a text -/

/-- Characters of a part of a text. -/
theorem getElem?_extract (text : List Char) (i j k : Nat) :
    (text.extract i j)[k]? = if k < j - i then text[i + k]? else none := by
  rw [List.getElem?_take, List.getElem?_drop]

/-- A stretch that is covered by a test has only characters that pass it. -/
theorem Covered.of_mem_extract {test : Char → Bool} (h : Covered test text i j) {c : Char}
    (hc : c ∈ text.extract i j) : test c = true := by
  obtain ⟨k, hk⟩ := List.mem_iff_getElem?.mp hc
  rw [getElem?_extract] at hk
  split at hk
  · next hlt =>
    have htest := h (i + k) (by omega) (by omega)
    rwa [hk] at htest
  · cases hk

theorem length_extract (hj : j ≤ text.length) : (text.extract i j).length = j - i := by
  rw [List.length_take, List.length_drop]
  omega

/-- A stretch is its first character and the rest. -/
theorem extract_eq_cons {ch : Char} (h : text[i]? = some ch) (hij : i < j) :
    text.extract i j = ch :: text.extract (i + 1) j := by
  obtain ⟨hi, rfl⟩ := List.getElem?_eq_some_iff.mp h
  have hwidth : j - i = j - (i + 1) + 1 := by omega
  show (text.drop i).take (j - i) = _ :: (text.drop (i + 1)).take (j - (i + 1))
  rw [List.drop_eq_getElem_cons hi, hwidth, List.take_succ_cons]

/-- A stretch is all but its last character, and that character. -/
theorem extract_succ {c : Char} (h : text[j]? = some c) (hij : i ≤ j) :
    text.extract i (j + 1) = text.extract i j ++ [c] := by
  have hwidth : j + 1 - i = j - i + 1 := by omega
  have hlast : (text.drop i)[j - i]? = some c := by
    rw [List.getElem?_drop, Nat.add_sub_cancel' hij, h]
  show (text.drop i).take (j + 1 - i) = (text.drop i).take (j - i) ++ [c]
  rw [hwidth, List.take_add_one, hlast]
  rfl

/-- Two stretches that meet make one. -/
theorem Covered.append {test : Char → Bool} (h : Covered test text i j)
    (h' : Covered test text j k) : Covered test text i k := by
  intro p hp hlt
  rcases Nat.lt_or_ge p j with hpj | hpj
  · exact h p hp hpj
  · exact h' p hpj hlt

/-- An end of a covered stretch is covered. -/
theorem Covered.of_le {test : Char → Bool} (h : Covered test text i j) (hik : i ≤ k) :
    Covered test text k j :=
  fun p hp => h p (Nat.le_trans hik hp)

/-- A word that stands at an offset, character by character. -/
theorem getElem?_of_isPrefix (h : w <+: text.drop p) (hk : k < w.length) :
    text[p + k]? = w[k]? := by
  obtain ⟨rest, hrest⟩ := h
  rw [← List.getElem?_drop, ← hrest, List.getElem?_append_left hk]

/-- A word that stands at an offset covers its stretch. -/
theorem covered_of_isPrefix {test : Char → Bool} (h : w <+: text.drop p) (hw : w.all test = true) :
    Covered test text p (p + w.length) := by
  intro k hk hlt
  have hinside : k - p < w.length := by omega
  have hget := getElem?_of_isPrefix h hinside
  rw [Nat.add_sub_cancel' hk, List.getElem?_eq_getElem hinside] at hget
  rw [hget]
  exact List.all_eq_true.mp hw _ (List.getElem_mem hinside)

/-! ### Where identifiers lead -/

/-- A character and further ones of identifiers lead as far as these go. -/
theorem leads_name {first : Char → Bool}
    (hfirst : ∀ c, first c = true → isScriptContinuer c = true) :
    Leads (.seq (.char first) (star (.char isScriptContinuer))) text i j ↔
      i < j ∧ text[i]?.any first = true ∧ Covered isScriptContinuer text i j := by
  rw [leads_seq rfl]
  constructor
  · rintro ⟨k, hone, htail⟩
    obtain ⟨rfl, hhead⟩ := leads_char.mp hone
    obtain ⟨hle, -, hcovered⟩ := leads_star_char.mp htail
    refine ⟨hle, hhead, fun k hk hlt => ?_⟩
    rcases Nat.eq_or_lt_of_le hk with rfl | hk
    · -- the first character is one that may also stand further on
      obtain ⟨c, hc, htest⟩ := (Option.any_eq_true _ _).mp hhead
      rw [hc]
      exact hfirst c htest
    · exact hcovered k hk hlt
  · rintro ⟨hlt, hhead, hcovered⟩
    have hend : j ≤ text.length := by
      have hlast := lt_length_of_any (hcovered (j - 1) (by omega) (by omega))
      omega
    refine ⟨i + 1, leads_char.mpr ⟨rfl, hhead⟩, leads_star_char.mpr ⟨hlt, hend, ?_⟩⟩
    exact fun k hk hlt => hcovered k (by omega) hlt

/-- **Where an identifier can be read:** a character that starts one, and any number that go on with
it. It need not be read to its end. -/
theorem leads_ident : Leads ident text i j ↔
    i < j ∧ text[i]?.any isScriptOpener = true ∧ Covered isScriptContinuer text i j :=
  leads_name fun _ => isScriptContinuer_of_isScriptOpener

/-- The same for names with a capital letter in front. -/
theorem leads_capitalIdent : Leads capitalIdent text i j ↔
    i < j ∧ text[i]?.any Char.isUpper = true ∧ Covered isScriptContinuer text i j :=
  leads_name fun _ => isScriptContinuer_of_isUpper

/-- An identifier is read between two offsets just where the text between them is one. -/
theorem matchesWhole_ident_extract (hj : j ≤ text.length) :
    ident.matchesWhole (text.extract i j) = true ↔ Leads ident text i j := by
  rw [matchesWhole_iff, leads_ident, leads_ident, length_extract hj]
  -- offsets in the stretch are offsets in the text, counted from `i`
  have hinside : ∀ {k}, k < j - i → (text.extract i j)[k]? = text[i + k]? := fun hk => by
    rw [getElem?_extract, if_pos hk]
  constructor
  · rintro ⟨hlt, hhead, hcovered⟩
    rw [hinside hlt] at hhead
    refine ⟨by omega, hhead, fun k hk hkj => ?_⟩
    have hpart := hcovered (k - i) (Nat.zero_le _) (by omega)
    rwa [hinside (by omega), Nat.add_sub_cancel' hk] at hpart
  · rintro ⟨hlt, hhead, hcovered⟩
    have hpos : 0 < j - i := by omega
    refine ⟨hpos, ?_, fun k _ hk => ?_⟩
    · rw [hinside hpos]
      exact hhead
    · rw [hinside hk]
      exact hcovered (i + k) (by omega) (by omega)

/-- A blank does not go on with an identifier. -/
theorem not_continuer_of_blank (h : text[k]?.any Text.isBlank = true) :
    text[k]?.any isScriptContinuer = false := by
  obtain ⟨b, hb, hblank⟩ := (Option.any_eq_true _ _).mp h
  rw [hb, Option.any_some, Bool.eq_false_iff]
  intro hcontinues
  rw [isBlank_of_isScriptContinuer hcontinues] at hblank
  cases hblank

/-- Blanks and a character that cannot go on with an identifier: the first of them cannot either. -/
theorem break_of_leads_blanks {c : Char} (hc : isScriptContinuer c = false)
    (hblanks : Leads blanks text i k) (hnext : text[k]? = some c) :
    i < text.length ∧ text[i]?.any isScriptContinuer = false := by
  obtain ⟨hle, -, hcovered⟩ := leads_star_char.mp hblanks
  rcases Nat.eq_or_lt_of_le hle with rfl | hlt
  · rw [hnext]
    exact ⟨(List.getElem?_eq_some_iff.mp hnext).1, hc⟩
  · have hblank := hcovered i (Nat.le_refl i) hlt
    exact ⟨lt_length_of_any hblank, not_continuer_of_blank hblank⟩

/-! ### Whole identifiers -/

/-- **A whole identifier of a text,** from one offset to another: no longer one ends with it, and
the character behind it does not go on with it. -/
structure IsWhole (text : List Char) (start stop : Nat) : Prop where
  /-- It lies in the text. -/
  inside : stop ≤ text.length
  /-- It is an identifier. -/
  identifier : ident.matchesWhole (text.extract start stop) = true
  /-- It is not the end of a longer one. -/
  first : ∀ q < start, ident.matchesWhole (text.extract q stop) = false
  /-- It is not the front of a longer one. -/
  last : text[stop]?.any isScriptContinuer = false

variable {start stop : Nat}

/-- An identifier is whole if it ends before a character that cannot go on with it, and every
stretch that would make it longer to the left meets such a character, too. -/
theorem IsWhole.of_break (hident : Leads ident text start stop)
    (hlast : text[stop]?.any isScriptContinuer = false)
    (hbreak : ∀ q < start, Leads ident text q stop →
      ∃ k, q ≤ k ∧ k < stop ∧ text[k]?.any isScriptContinuer = false) :
    IsWhole text start stop where
  inside := hident.end_le_length
  identifier := (matchesWhole_ident_extract hident.end_le_length).mpr hident
  first := by
    intro q hq
    refine Bool.eq_false_iff.mpr fun hlonger => ?_
    rw [matchesWhole_ident_extract hident.end_le_length] at hlonger
    obtain ⟨k, hqk, hk, hno⟩ := hbreak q hq hlonger
    have hyes := (leads_ident.mp hlonger).2.2 k hqk hk
    rw [hno] at hyes
    cases hyes
  last := hlast

/-- A whole identifier can be read. -/
theorem IsWhole.leads (h : IsWhole text start stop) : Leads ident text start stop :=
  (matchesWhole_ident_extract h.inside).mp h.identifier

theorem IsWhole.lt (h : IsWhole text start stop) : start < stop :=
  (leads_ident.mp h.leads).1

/-- **Every identifier of the text that covers a whole one is the same one.** -/
theorem IsWhole.eq_of_covers (h : IsWhole text start stop) {q e : Nat} (hq : q ≤ start)
    (he : stop ≤ e) (hin : e ≤ text.length)
    (hident : ident.matchesWhole (text.extract q e) = true) : q = start ∧ e = stop := by
  rw [matchesWhole_ident_extract hin] at hident
  have hend : e = stop := by
    refine Nat.le_antisymm (Nat.le_of_not_lt fun hlt => ?_) he
    -- otherwise the character behind the whole one would go on with it
    have hlt' := h.lt
    have hcontinues := (leads_ident.mp hident).2.2 stop (by omega) hlt
    rw [h.last] at hcontinues
    cases hcontinues
  subst hend
  refine ⟨Nat.le_antisymm hq (Nat.le_of_not_lt fun hlt => ?_), rfl⟩
  have hnot := h.first q hlt
  rw [(matchesWhole_ident_extract hin).mpr hident] at hnot
  cases hnot

/-! ### Texts inside of texts -/

section Parts

variable {before part after : List Char} {c : Char}

/-- The characters of a part of a text, by their offsets in it. -/
theorem getElem?_part (hk : k < part.length) :
    (before ++ (c :: part ++ after))[before.length + 1 + k]? = part[k]? := by
  rw [List.getElem?_append_right (by omega), List.cons_append]
  have hindex : before.length + 1 + k - before.length = k + 1 := by omega
  rw [hindex, List.getElem?_cons_succ, List.getElem?_append_left hk]

/-- A stretch of a part of a text is a stretch of the text. -/
theorem extract_part (hj : j ≤ part.length) :
    (before ++ (c :: part ++ after)).extract (before.length + 1 + i) (before.length + 1 + j) =
      part.extract i j := by
  refine List.ext_getElem? fun k => ?_
  rw [getElem?_extract, getElem?_extract]
  have hwidth : before.length + 1 + j - (before.length + 1 + i) = j - i := by omega
  rw [hwidth]
  split
  · rw [Nat.add_assoc (before.length + 1), getElem?_part (by omega)]
  · rfl

/-- **An identifier that is whole in a part of a text is whole in the text,** where the part stands
behind a character that cannot be in an identifier, and goes on behind the identifier. -/
theorem IsWhole.shift (h : IsWhole part start stop) (hstop : stop < part.length)
    (hc : isScriptContinuer c = false) (before after : List Char) :
    IsWhole (before ++ (c :: part ++ after)) (before.length + 1 + start)
      (before.length + 1 + stop) := by
  have hlength : (before ++ (c :: part ++ after)).length =
      before.length + 1 + part.length + after.length := by
    simp only [List.length_append, List.length_cons]
    omega
  have hin : before.length + 1 + stop ≤ (before ++ (c :: part ++ after)).length := by
    rw [hlength]
    omega
  have hleads : Leads ident (before ++ (c :: part ++ after)) (before.length + 1 + start)
      (before.length + 1 + stop) := by
    rw [← matchesWhole_ident_extract hin, extract_part h.inside]
    exact h.identifier
  refine .of_break hleads ?_ ?_
  · rw [getElem?_part hstop]
    exact h.last
  · intro q hq hlonger
    have hlt := h.lt
    rcases Nat.lt_or_ge q (before.length + 1) with hbefore | hinside
    · -- a stretch that starts before the part meets the character in front of it
      refine ⟨before.length, by omega, by omega, ?_⟩
      rw [List.getElem?_append_right (Nat.le_refl _), Nat.sub_self]
      exact hc
    · -- a stretch inside of the part is one that the identifier is not the end of
      obtain ⟨q', rfl⟩ := Nat.exists_eq_add_of_le hinside
      have hnot := h.first q' (by omega)
      rw [← matchesWhole_ident_extract hin, extract_part h.inside, hnot] at hlonger
      cases hlonger

end Parts

end Regex

end SourceAtlas
