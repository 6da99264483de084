import SourceAtlas.Proofs.BlockGrammar

/-!
# Where a block is looked for

The search for a block has two halves. The first looks for an opener and gives up where the
statement ends; the second walks from the opener to its partner. The second steps over comments, the
first does not: it looks at every character by itself (`Silent`). So a comment between a signature
and its body goes unnoticed only if the first half finds nothing in it, and otherwise a terminator
in the comment ends the statement, or an opener in it opens the block.

* `opening?_append` — silent characters in front only move a block;
* `exists_of_opening?` — a block that is found stands behind silent characters;
* `opening?_append_of_closed` — nothing behind the closer of a block matters;
* `comment_transparent_iff` — which comments go unnoticed, and what the others do.
-/

namespace SourceAtlas.Block

/-! ### The search for an opener -/

/-- **Characters that the search for an opener passes over:** they neither open a block nor end a
statement. -/
def Silent (c : Char) : Prop :=
  c ∉ ['{', '(', ';', '\n']

instance (c : Char) : Decidable (Silent c) :=
  inferInstanceAs (Decidable (c ∉ _))

/-- The same block, met after some more characters. -/
def Found.later (n : Nat) (b : Found) : Found :=
  { b with skipped := n + b.skipped }

/-- A block that is found later also ends later. -/
theorem Found.stop_later (n : Nat) (b : Found) : (b.later n).stop = n + b.stop := by
  unfold Found.stop
  rw [← Nat.add_assoc, ← Nat.add_assoc, ← Nat.add_assoc]
  rfl

/-- A block read off an opener moves with it. -/
theorem Found.later_ofOpener (n k : Nat) (d : Delimiter) (cs : List Char) :
    (Found.ofOpener k d cs).later n = Found.ofOpener (n + k) d cs := by
  unfold Found.ofOpener
  cases afterCloser d 0 cs with
  | none => rfl
  | some rest => rfl

/-- What was skipped before a block is what stands before its opener. -/
theorem Found.skipped_ofOpener (k : Nat) (d : Delimiter) (cs : List Char) :
    (Found.ofOpener k d cs).skipped = k := by
  unfold Found.ofOpener
  cases afterCloser d 0 cs with
  | none => rfl
  | some rest => rfl

theorem ofOpener?_of_ne {c : Char} (hbrace : c ≠ '{') (hparen : c ≠ '(') :
    Delimiter.ofOpener? c = none := by
  rw [Delimiter.ofOpener?, if_neg hbrace, if_neg hparen]

theorem Silent.ofOpener? {c : Char} (h : Silent c) : Delimiter.ofOpener? c = none := by
  simp only [Silent, List.mem_cons, not_or] at h
  exact ofOpener?_of_ne h.1 h.2.1

/-- A silent character ends no statement. -/
theorem Silent.endsStatement {c : Char} (h : Silent c) : Block.endsStatement c = false := by
  simp only [Silent, List.mem_cons, not_or] at h
  rw [Block.endsStatement, Bool.or_eq_false_iff, beq_eq_false_iff_ne, beq_eq_false_iff_ne]
  exact ⟨h.2.2.1, h.2.2.2.1⟩

/-- A character that is not silent opens a block or ends the statement. -/
theorem opens_or_ends_of_not_silent {c : Char} (h : ¬Silent c) :
    (∃ d : Delimiter, c = d.opener) ∨ endsStatement c = true := by
  simp only [Silent, List.mem_cons, List.not_mem_nil, or_false, not_not] at h
  rcases h with rfl | rfl | rfl | rfl
  · exact .inl ⟨.brace, rfl⟩
  · exact .inl ⟨.paren, rfl⟩
  · exact .inr rfl
  · exact .inr rfl

/-- **Looking for a block from an offset on** is looking for it from there, and counting from the
offset. -/
theorem openingFrom?_eq (n : Nat) (cs : List Char) :
    openingFrom? n cs = (opening? cs).map (Found.later n) := by
  unfold opening?
  -- the count of passed characters goes up on the way, so it is generalized on both sides
  suffices h : ∀ k, openingFrom? (n + k) cs = (openingFrom? k cs).map (Found.later n) from h 0
  induction cs with
  | nil =>
    intro k
    rfl
  | cons c cs ih =>
    intro k
    rw [openingFrom?, openingFrom?]
    cases Delimiter.ofOpener? c with
    | some d => exact congrArg some (Found.later_ofOpener n k d cs).symm
    | none =>
      dsimp only
      split
      · rfl
      · exact ih (k + 1)

/-- A block may start at once. -/
theorem opening?_opener (d : Delimiter) (cs : List Char) :
    opening? (d.opener :: cs) = some (Found.ofOpener 0 d cs) := by
  rw [opening?, openingFrom?, d.ofOpener?_opener]

/-- A character that ends a statement ends the search. -/
theorem opening?_terminator {c : Char} (h : endsStatement c = true) (cs : List Char) :
    opening? (c :: cs) = none := by
  have hnone : Delimiter.ofOpener? c = none := by
    refine ofOpener?_of_ne ?_ ?_
    · rintro rfl
      cases h
    · rintro rfl
      cases h
  rw [opening?, openingFrom?, hnone]
  exact if_pos h

/-- **Silent characters in front only move a block.** -/
theorem opening?_append {front : List Char} (hfront : ∀ c ∈ front, Silent c) (cs : List Char) :
    opening? (front ++ cs) = (opening? cs).map (Found.later front.length) := by
  induction front with
  | nil => exact openingFrom?_eq 0 cs
  | cons c front ih =>
    obtain ⟨hc, hfront⟩ := List.forall_mem_cons.mp hfront
    have hstep : opening? (c :: (front ++ cs)) = openingFrom? 1 (front ++ cs) := by
      rw [opening?, openingFrom?, hc.ofOpener?]
      exact if_neg (Bool.eq_false_iff.mp hc.endsStatement)
    rw [List.cons_append, hstep, openingFrom?_eq, ih hfront, Option.map_map]
    congr 1
    funext b
    simp only [Function.comp_apply, Found.later, List.length_cons]
    congr 1
    omega

/-- A text of silent characters opens no block. -/
theorem opening?_of_silent {cs : List Char} (h : ∀ c ∈ cs, Silent c) : opening? cs = none := by
  have happend := opening?_append h []
  rwa [List.append_nil] at happend

/-- A text is silent, or it has a first character that is not. -/
theorem silent_or_split (cs : List Char) :
    (∀ c ∈ cs, Silent c) ∨
      ∃ front c back, cs = front ++ c :: back ∧ (∀ x ∈ front, Silent x) ∧ ¬Silent c := by
  induction cs with
  | nil => exact .inl fun c hc => absurd hc List.not_mem_nil
  | cons c cs ih =>
    by_cases hc : Silent c
    · rcases ih with hcs | ⟨front, c', back, rfl, hfront, hc'⟩
      · exact .inl (List.forall_mem_cons.mpr ⟨hc, hcs⟩)
      · exact .inr ⟨c :: front, c', back, rfl, List.forall_mem_cons.mpr ⟨hc, hfront⟩, hc'⟩
    · exact .inr ⟨[], c, cs, rfl, fun x hx => absurd hx List.not_mem_nil, hc⟩

/-- A block that is found stands behind silent characters. -/
theorem exists_of_opening? {cs : List Char} {b : Found} (h : opening? cs = some b) :
    ∃ front d rest, cs = front ++ Delimiter.opener d :: rest ∧ (∀ c ∈ front, Silent c) ∧
      b = Found.ofOpener front.length d rest := by
  rcases silent_or_split cs with hsilent | ⟨front, c, rest, rfl, hfront, hc⟩
  · rw [opening?_of_silent hsilent] at h
    cases h
  · rw [opening?_append hfront] at h
    rcases opens_or_ends_of_not_silent hc with ⟨d, rfl⟩ | hends
    · rw [opening?_opener, Option.map_some, Found.later_ofOpener, Nat.add_zero] at h
      exact ⟨front, d, rest, rfl, hfront, (Option.some.inj h).symm⟩
    · rw [opening?_terminator hends] at h
      cases h

/-- A block ends in the text. -/
theorem stop_le_of_opening? {cs : List Char} {b : Found} (h : opening? cs = some b) :
    b.stop ≤ cs.length := by
  obtain ⟨front, d, rest, rfl, -, rfl⟩ := exists_of_opening? h
  rw [List.length_append, List.length_cons]
  unfold Found.ofOpener
  cases hafter : afterCloser d 0 rest with
  | none =>
    simp only [Found.stop, Bool.false_eq_true, if_false]
    omega
  | some rest' =>
    have hlt := length_lt_of_afterCloser hafter
    simp only [Found.stop, if_true, List.length_take]
    omega

/-! ### What follows a block -/

/-- What follows a closer is never looked at. -/
theorem afterCloser_append {d : Delimiter} {cs rest : List Char}
    (h : afterCloser d 0 cs = some rest) (post : List Char) :
    afterCloser d 0 (cs ++ post) = some (rest ++ post) := by
  obtain ⟨body, rfl, hbody⟩ := afterCloser_zero_iff.mp h
  refine afterCloser_zero_iff.mpr ⟨body, ?_, hbody.of_head? rfl⟩
  rw [List.append_assoc, List.cons_append]

/-- A block that is closed does not change when text is put behind it. -/
theorem Found.ofOpener_append {n : Nat} {d : Delimiter} {cs : List Char}
    (h : (Found.ofOpener n d cs).closed = true) (post : List Char) :
    Found.ofOpener n d (cs ++ post) = Found.ofOpener n d cs := by
  unfold Found.ofOpener at h ⊢
  cases hafter : afterCloser d 0 cs with
  | none =>
    rw [hafter] at h
    cases h
  | some rest =>
    rw [afterCloser_append hafter post]
    dsimp only
    congr 1
    -- the contents end in front of the closer, which the text before `post` holds
    have hlt := length_lt_of_afterCloser hafter
    rw [List.length_append, List.length_append, List.take_append_of_le_length (by omega)]
    congr 1
    omega

/-- **A block that closes stays the same whatever is put behind the text.** -/
theorem opening?_append_of_closed {cs : List Char} {b : Found} (h : opening? cs = some b)
    (hclosed : b.closed = true) (post : List Char) : opening? (cs ++ post) = some b := by
  obtain ⟨front, d, rest, rfl, hfront, rfl⟩ := exists_of_opening? h
  rw [List.append_assoc, List.cons_append, opening?_append hfront, opening?_opener, Option.map_some,
    Found.later_ofOpener, Nat.add_zero, Found.ofOpener_append hclosed]

/-- The block that opens at or behind an offset is the one that opens at its opener. -/
theorem closing?_of_blockStart? {text : List Char} {start o : Nat}
    (h : blockStart? text start = some o) : closing? text o = closing? text start := by
  obtain ⟨b, hb, rfl⟩ := Option.map_eq_some_iff.mp h
  obtain ⟨front, d, rest, hdrop, -, rfl⟩ := exists_of_opening? hb
  have hopener : text.drop (start + front.length) = d.opener :: rest := by
    rw [← List.drop_drop, hdrop, List.drop_left]
  rw [Found.skipped_ofOpener, closing?, closing?, hopener, opening?_opener, hb, Option.map_some,
    Option.map_some, ← Nat.add_zero front.length, ← Found.later_ofOpener, Found.stop_later,
    Nat.add_zero, Nat.add_assoc]
  rfl

/-! ### Comments in front of a block -/

/-- A block comment. -/
def comment (body : List Char) : List Char :=
  '/' :: '*' :: (body ++ ['*', '/'])

/-- A text with a comment put in at an offset. -/
def withComment (text : List Char) (start : Nat) (body : List Char) : List Char :=
  text.take start ++ (comment body ++ text.drop start)

section Comment

variable {text body : List Char} {start : Nat}

/-- What is searched when a comment is put in at an offset. -/
theorem drop_withComment (hstart : start ≤ text.length) :
    (withComment text start body).drop start = comment body ++ text.drop start :=
  List.drop_left' (List.length_take_of_le hstart)

/-- A comment of silent characters is silent, its marks included. -/
theorem silent_comment (hbody : ∀ c ∈ body, Silent c) : ∀ c ∈ comment body, Silent c := by
  intro c hc
  simp only [comment, List.mem_cons, List.mem_append, List.not_mem_nil, or_false] at hc
  rcases hc with rfl | rfl | hc | rfl | rfl
  · decide
  · decide
  · exact hbody c hc
  · decide
  · decide

/-- A silent comment only moves the end of the block. -/
theorem blockEnd?_withComment_of_silent (hstart : start ≤ text.length)
    (hbody : ∀ c ∈ body, Silent c) :
    blockEnd? (withComment text start body) start =
      (blockEnd? text start).map (· + (comment body).length) := by
  rw [blockEnd?, blockEnd?, drop_withComment hstart, opening?_append (silent_comment hbody),
    Option.map_map, Option.map_map]
  congr 1
  funext b
  simp only [Function.comp_apply, Found.stop_later]
  omega

/-- A comment with a character in it, cut in front of that character. -/
theorem comment_append_eq (front back rest : List Char) (c : Char) :
    comment (front ++ c :: back) ++ rest =
      ('/' :: '*' :: front) ++ c :: (back ++ '*' :: '/' :: rest) := by
  simp [comment]

/-- In any other comment, its first character that is not silent decides. -/
theorem opening?_comment_append {front back : List Char} {c : Char}
    (hfront : ∀ x ∈ front, Silent x) (rest : List Char) :
    opening? (comment (front ++ c :: back) ++ rest) =
      (opening? (c :: (back ++ '*' :: '/' :: rest))).map (Found.later (2 + front.length)) := by
  have hopen : ∀ x ∈ '/' :: '*' :: front, Silent x :=
    List.forall_mem_cons.mpr ⟨by decide, List.forall_mem_cons.mpr ⟨by decide, hfront⟩⟩
  rw [comment_append_eq, opening?_append hopen, List.length_cons, List.length_cons, Nat.add_comm 2]

/-- A terminator in a comment ends the statement. -/
theorem blockEnd?_withComment_of_terminator {front back : List Char} {c : Char}
    (hstart : start ≤ text.length) (hfront : ∀ x ∈ front, Silent x) (hc : endsStatement c = true) :
    blockEnd? (withComment text start (front ++ c :: back)) start = none := by
  rw [blockEnd?, drop_withComment hstart, opening?_comment_append hfront, opening?_terminator hc]
  rfl

/-- An opener in a comment opens the block. -/
theorem blockEnd?_withComment_of_opener {front back : List Char} (d : Delimiter)
    (hstart : start ≤ text.length) (hfront : ∀ x ∈ front, Silent x) :
    let commented := withComment text start (front ++ d.opener :: back)
    blockEnd? commented start =
      (closing? commented (start + (2 + front.length))).map Prod.fst := by
  intro commented
  have hdrop : commented.drop (start + (2 + front.length)) =
      d.opener :: (back ++ '*' :: '/' :: text.drop start) := by
    rw [← List.drop_drop, drop_withComment hstart, comment_append_eq, List.drop_left']
    rw [List.length_cons, List.length_cons, Nat.add_comm 2]
  rw [closing?, hdrop, blockEnd?, drop_withComment hstart, opening?_comment_append hfront]
  simp only [opening?_opener, Option.map_some, Found.stop_later, Nat.add_assoc]

end Comment

/-- **Which comments go unnoticed.** A comment in front of a block moves the end of the block by its
own length, whatever the text around it, if and only if it holds no opener and no terminator. In any
other comment, the first such character decides: a terminator ends the statement, so that there is
no block, and an opener opens the block there, inside of the comment. -/
theorem comment_transparent_iff (body : List Char) :
    ((∀ text start, start ≤ text.length →
        blockEnd? (withComment text start body) start =
          (blockEnd? text start).map (· + (comment body).length)) ↔
      ∀ c ∈ body, Silent c) ∧
    ∀ front c back, body = front ++ c :: back → (∀ x ∈ front, Silent x) →
      ∀ text start, start ≤ text.length →
        (endsStatement c = true → blockEnd? (withComment text start body) start = none) ∧
        ∀ d : Delimiter, c = d.opener →
          blockEnd? (withComment text start body) start =
            (closing? (withComment text start body) (start + (2 + front.length))).map Prod.fst := by
  refine ⟨⟨fun h => ?_, fun hbody text start hstart => ?_⟩, ?_⟩
  · rcases silent_or_split body with hbody | ⟨front, c, back, rfl, hfront, hc⟩
    · exact hbody
    · exfalso
      rcases opens_or_ends_of_not_silent hc with ⟨d, rfl⟩ | hends
      · -- in front of nothing, the comment brings a block of its own along
        have hempty := h [] 0 (Nat.le_refl 0)
        rw [blockEnd?, drop_withComment (Nat.le_refl 0), opening?_comment_append hfront,
          opening?_opener] at hempty
        cases hempty
      · -- in front of a block, it hides the block
        have hblock := h ['{', '}'] 0 (Nat.zero_le 2)
        have hend : blockEnd? ['{', '}'] 0 = some 2 := by decide +kernel
        rw [blockEnd?_withComment_of_terminator (Nat.zero_le 2) hfront hends, hend] at hblock
        cases hblock
  · exact blockEnd?_withComment_of_silent hstart hbody
  · rintro front c back rfl hfront text start hstart
    refine ⟨blockEnd?_withComment_of_terminator hstart hfront, ?_⟩
    rintro d rfl
    exact blockEnd?_withComment_of_opener d hstart hfront

/-- **Not every comment goes unnoticed,** though none of them ends early or breaks the line: a
semicolon in a comment hides the block behind it. -/
theorem comment_hides_block :
    ¬∀ (text : List Char) (start : Nat) (body : List Char), start ≤ text.length →
      ¬['*', '/'] <:+: body → '\n' ∉ body →
      blockEnd? (withComment text start body) start =
        (blockEnd? text start).map (· + (comment body).length) := by
  intro h
  have hinfix : ¬['*', '/'] <:+: [';'] := fun hin => absurd hin.length_le (by decide)
  have hblock := h ['{', '}'] 0 [';'] (Nat.zero_le 2) hinfix (by decide)
  have hplain : blockEnd? ['{', '}'] 0 = some 2 := by decide +kernel
  have hcommented : blockEnd? (withComment ['{', '}'] 0 [';']) 0 = none := by decide +kernel
  rw [hplain, hcommented] at hblock
  cases hblock

end SourceAtlas.Block
