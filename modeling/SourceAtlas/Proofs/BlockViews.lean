import SourceAtlas.Proofs.BlockOpening

/-!
# The views of a block agree

Extractors ask for a block in four ways: where it opens, where it ends, what is in it, and what is
in the first pair of braces. The end alone does not tell the contents, since a block that never
closes ends with the text just as one whose closer is the last character. Here the two are told
apart by the grammar of blocks.

* `exists_of_blockStart?` — where a block opens, and its other views in terms of the block behind
  the opener;
* `slice_of_opener` — the text of the block behind an opener;
* `block_views_agree` — the four views, for every text and every start.
-/

namespace SourceAtlas.Block

section Opener

variable {d : Delimiter} {text front rest : List Char} {start o : Nat}

/-- **A block opens at the first character that is not silent,** and all views of it are views of
the block behind this character. -/
theorem exists_of_blockStart? (h : blockStart? text start = some o) :
    ∃ front d rest, text.drop start = front ++ Delimiter.opener d :: rest ∧
      (∀ c ∈ front, Silent c) ∧ o = start + front.length ∧
      blockEnd? text start = some (o + (Found.ofOpener 0 d rest).stop) ∧
      blockContents? text start = some (Found.ofOpener 0 d rest).contents := by
  obtain ⟨b, hb, rfl⟩ := Option.map_eq_some_iff.mp h
  obtain ⟨front, d, rest, hdrop, hfront, rfl⟩ := exists_of_opening? hb
  have hlater : Found.ofOpener front.length d rest =
      (Found.ofOpener 0 d rest).later front.length := by
    rw [Found.later_ofOpener, Nat.add_zero]
  refine ⟨front, d, rest, hdrop, hfront, ?_, ?_, ?_⟩
  · rw [Found.skipped_ofOpener]
  · rw [blockEnd?, hb, Option.map_some, Found.skipped_ofOpener, hlater, Found.stop_later,
      Nat.add_assoc]
  · rw [blockContents?, hb, Option.map_some, hlater]
    rfl

/-- The first brace is the one that opens the block, if a brace does. -/
theorem braceContents?_of_silent (hdrop : text.drop start = front ++ '{' :: rest)
    (hfront : ∀ c ∈ front, Silent c) :
    braceContents? text start = some (Found.ofOpener 0 .brace rest).contents := by
  have hne : ∀ c ∈ front, decide (c ≠ '{') = true := by
    intro c hc
    have hsilent := hfront c hc
    simp only [Silent, List.mem_cons, not_or] at hsilent
    exact decide_eq_true hsilent.1
  rw [braceContents?, hdrop, List.dropWhile_append_of_pos hne,
    List.dropWhile_cons_of_neg (by decide)]

/-- A block that closes holds its items. -/
theorem Found.ofOpener_closed {body : List Char} (h : IsItems d body (d.closer :: rest)) (n : Nat) :
    Found.ofOpener n d (body ++ d.closer :: rest) = ⟨n, d, body, true⟩ := by
  have hafter : afterCloser d 0 (body ++ d.closer :: rest) = some rest :=
    afterCloser_zero_iff.mpr ⟨body, rfl, h⟩
  have hlength : (body ++ d.closer :: rest).length - rest.length - 1 = body.length := by
    rw [List.length_append, List.length_cons]
    omega
  rw [Found.ofOpener, hafter]
  dsimp only
  rw [hlength, List.take_left]

/-- **The text of a block:** the opener, the contents, and the closer if there is a block by the
grammar. Otherwise the text ends with the contents. -/
theorem slice_of_opener (hopener : text.drop o = d.opener :: rest) :
    let b := Found.ofOpener 0 d rest
    BlockAt d text o (o + b.stop) ∧
        (text.drop o).take b.stop = d.opener :: (b.contents ++ [d.closer]) ∨
      (∀ e, ¬BlockAt d text o e) ∧ o + b.stop = text.length ∧
        (text.drop o).take b.stop = d.opener :: b.contents := by
  have hlength := congrArg List.length hopener
  rw [List.length_drop, List.length_cons] at hlength
  cases hafter : afterCloser d 0 rest with
  | some rest' =>
    -- the block ends, and the slice is its opener, its contents and its closer
    obtain ⟨body, rfl, hbody⟩ := afterCloser_zero_iff.mp hafter
    rw [List.length_append, List.length_cons] at hlength
    rw [Found.ofOpener_closed hbody]
    refine .inl ⟨(afterCloser_iff_blockAt hopener).mpr ⟨rest', hafter, ?_⟩, ?_⟩
    · simp only [Found.stop, if_true]
      omega
    · have hsplit : d.opener :: (body ++ d.closer :: rest') =
          (d.opener :: (body ++ [d.closer])) ++ rest' := by
        rw [List.cons_append, List.append_assoc, List.singleton_append]
      rw [hopener, hsplit, List.take_left']
      simp only [Found.stop, if_true, List.length_cons, List.length_append, List.length_nil]
      omega
  | none =>
    -- the block never ends, and the slice is all that is left of the text
    rw [Found.ofOpener, hafter]
    refine .inr ⟨fun e hblock => ?_, ?_, ?_⟩
    · obtain ⟨rest', hsome, -⟩ := (afterCloser_iff_blockAt hopener).mp hblock
      rw [hafter] at hsome
      cases hsome
    · simp only [Found.stop, Bool.false_eq_true, if_false]
      omega
    · rw [hopener, List.take_of_length_le]
      simp only [Found.stop, Bool.false_eq_true, if_false, List.length_cons]
      omega

end Opener

/-- **The views of a block agree.** There are contents just if there is an end, and an end just if
there is a start. The text from the start to the end is the opener and the contents, and then the
closer if it is a block; if no block stands there, the end is the end of the text. If the opener is
a brace, the contents of the first pair of braces are the same. -/
theorem block_views_agree (text : List Char) (start : Nat) :
    (blockContents? text start = none ↔ blockEnd? text start = none) ∧
    (blockEnd? text start = none ↔ blockStart? text start = none) ∧
    ∀ o, blockStart? text start = some o →
      ∃ d e contents, start ≤ o ∧ text[o]? = some (Delimiter.opener d) ∧
        blockEnd? text start = some e ∧ blockContents? text start = some contents ∧
        (BlockAt d text o e ∧
            (text.drop o).take (e - o) = d.opener :: (contents ++ [d.closer]) ∨
          (∀ e', ¬BlockAt d text o e') ∧ e = text.length ∧
            (text.drop o).take (e - o) = d.opener :: contents) ∧
        (text[o]? = some '{' → braceContents? text start = blockContents? text start) := by
  refine ⟨?_, ?_, fun o ho => ?_⟩
  · rw [blockContents?, blockEnd?, Option.map_eq_none_iff, Option.map_eq_none_iff]
  · rw [blockEnd?, blockStart?, Option.map_eq_none_iff, Option.map_eq_none_iff]
  -- all three views are read off the same find, which is `front.length` behind the start
  obtain ⟨front, d, rest, hdrop, hfront, rfl, hend, hcontents⟩ := exists_of_blockStart? ho
  have hopener : text.drop (start + front.length) = d.opener :: rest := by
    rw [← List.drop_drop, hdrop, List.drop_left]
  have hchar : text[start + front.length]? = some d.opener := by
    rw [← List.head?_drop, hopener, List.head?_cons]
  refine ⟨d, _, _, Nat.le_add_right _ _, hchar, hend, hcontents, ?_, fun hbrace => ?_⟩
  · rw [Nat.add_sub_cancel_left]
    exact slice_of_opener hopener
  · -- the view for braces skips parentheses, which does not matter if a brace comes first
    rw [hchar, Option.some_inj] at hbrace
    cases d with
    | brace => rw [hcontents, braceContents?_of_silent hdrop hfront]
    | paren => exact absurd hbrace (by decide)

/-- A closer in a comment at the end of the text, and one that is the last character: the block ends
at the same place, with other contents. -/
example : blockEnd? "\x7b //\x7d".toList 0 = some 5 ∧
    blockContents? "\x7b //\x7d".toList 0 = some " //\x7d".toList ∧
    blockEnd? "\x7b ''\x7d".toList 0 = some 5 ∧
    blockContents? "\x7b ''\x7d".toList 0 = some " ''".toList := by
  decide +kernel

end SourceAtlas.Block
