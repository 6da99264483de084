import Mathlib.Data.List.Basic
import Mathlib.Data.List.Forall2
import SourceAtlas.Block

/-!
# The scanner accepts a balanced-block grammar

`afterCloser` walks over a text with a counter, and steps over comments and strings by four routines
that each move on in their own way. What it accepts is a context-free language with lexical
priority: a block is an opener, any number of items, and the closer, where an item is again a block,
a comment, a string, or one character that is none of these. The grammar is stated as three mutual
relations between a word and the text that follows it, since whether a slash is an item of its own
depends on the next character.

* `IsBlock`, `IsItem`, `IsItems` — the grammar;
* `IsItems.afterCloser_append` — the scanner passes over items without a change of its counter;
* `exists_closes_of_afterCloser` — what the scanner passed over is made of items and closers;
* `closing?_iff_block` — the scanner finds the end of a block just where the grammar has one.

The counter is related to the grammar by `Closes d depth word rest`: the word ends the innermost of
`depth + 1` open blocks, then the next one, and so on to the outermost.
-/

namespace SourceAtlas.Block

/-! ### The grammar -/

/-- The inside of a string literal: no closing quote, except behind a backslash, which hides any one
character. -/
inductive IsQuoted (quote : Char) : List Char → Prop
  | nil : IsQuoted quote []
  | plain {c : Char} {cs : List Char} (hc : c ≠ '\\') (hq : c ≠ quote) (h : IsQuoted quote cs) :
      IsQuoted quote (c :: cs)
  | escaped {c : Char} {cs : List Char} (h : IsQuoted quote cs) : IsQuoted quote ('\\' :: c :: cs)

/-- Whether a character, followed by a text, opens a comment. -/
def OpensComment (c : Char) (rest : List Char) : Prop :=
  c = '/' ∧ (rest.head? = some '/' ∨ rest.head? = some '*')

mutual

/-- **Blocks:** `word` is a block where `rest` follows. -/
inductive IsBlock (d : Delimiter) : (word rest : List Char) → Prop
  | mk {body rest : List Char} (h : IsItems d body (d.closer :: rest)) :
      IsBlock d (d.opener :: (body ++ [d.closer])) rest

/-- **Items:** `word` is one item where `rest` follows. -/
inductive IsItem (d : Delimiter) : (word rest : List Char) → Prop
  | block {word rest : List Char} (h : IsBlock d word rest) : IsItem d word rest
  | lineComment {body rest : List Char} (hbody : '\n' ∉ body) (hrest : rest.head? = some '\n') :
      IsItem d ('/' :: '/' :: body) rest
  | blockComment {body rest : List Char} (hbody : ¬['*', '/'] <:+: body) :
      IsItem d ('/' :: '*' :: (body ++ ['*', '/'])) rest
  | string {quote : Char} {body rest : List Char} (hquote : isQuote quote = true)
      (hbody : IsQuoted quote body) : IsItem d (quote :: (body ++ [quote])) rest
  | char {c : Char} {rest : List Char} (hopener : c ≠ d.opener) (hcloser : c ≠ d.closer)
      (hquote : isQuote c = false) (hcomment : ¬OpensComment c rest) : IsItem d [c] rest

/-- **Sequences of items:** `word` is any number of items where `rest` follows. -/
inductive IsItems (d : Delimiter) : (word rest : List Char) → Prop
  | nil {rest : List Char} : IsItems d [] rest
  | cons {first others rest : List Char} (hfirst : IsItem d first (others ++ rest))
      (hothers : IsItems d others rest) : IsItems d (first ++ others) rest

end

/-! ### Stepping over comments and strings -/

/-- A line comment is left at the newline that ends it. -/
theorem afterLineComment_append {body rest : List Char} (hbody : '\n' ∉ body)
    (hrest : rest.head? = some '\n') : afterLineComment (body ++ rest) = rest := by
  induction body with
  | nil =>
    obtain ⟨tail, rfl⟩ := List.head?_eq_some_iff.mp hrest
    rw [List.nil_append, afterLineComment, if_pos rfl]
  | cons c body ih =>
    rw [List.mem_cons, not_or] at hbody
    rw [List.cons_append, afterLineComment, if_neg (Ne.symm hbody.1), ih hbody.2]

/-- A line comment that something follows runs to the first newline. -/
theorem exists_of_afterLineComment {cs : List Char} (h : afterLineComment cs ≠ []) :
    ∃ body, cs = body ++ afterLineComment cs ∧ '\n' ∉ body ∧
      (afterLineComment cs).head? = some '\n' := by
  fun_induction afterLineComment cs with
  | case1 => exact absurd rfl h
  | case2 cs => exact ⟨[], rfl, List.not_mem_nil, rfl⟩
  | case3 c cs hc ih =>
    obtain ⟨body, hcs, hbody, hhead⟩ := ih h
    refine ⟨c :: body, ?_, ?_, hhead⟩
    · rw [List.cons_append, ← hcs]
    · rw [List.mem_cons, not_or]
      exact ⟨Ne.symm hc, hbody⟩

/-- Inside a block comment the scan moves on unless the closing mark stands here. -/
theorem afterBlockComment_cons_of_not {c : Char} {cs : List Char}
    (h : ¬['*', '/'] <+: c :: cs) : afterBlockComment (c :: cs) = afterBlockComment cs := by
  rw [afterBlockComment]
  rintro rest rfl rfl
  exact h (List.prefix_append ['*', '/'] rest)

/-- A block comment is left behind its first closing mark. -/
theorem afterBlockComment_append {body : List Char} (rest : List Char)
    (hbody : ¬['*', '/'] <:+: body) : afterBlockComment (body ++ '*' :: '/' :: rest) = rest := by
  induction body with
  | nil => rfl
  | cons c body ih =>
    have hnot : ¬['*', '/'] <+: c :: (body ++ '*' :: '/' :: rest) := by
      intro hpre
      rw [List.cons_prefix_cons] at hpre
      obtain ⟨rfl, hpre⟩ := hpre
      -- the slash would have to come from `body`, since a star stands behind it
      cases body with
      | nil => exact absurd (List.cons_prefix_cons.mp hpre).1 (by decide)
      | cons c' body =>
        obtain ⟨rfl, -⟩ := List.cons_prefix_cons.mp hpre
        exact hbody ⟨[], body, rfl⟩
    rw [List.cons_append, afterBlockComment_cons_of_not hnot]
    exact ih fun h => hbody (h.trans (List.suffix_cons c body).isInfix)

/-- A block comment that something follows runs to the first closing mark. -/
theorem exists_of_afterBlockComment {cs : List Char} (h : afterBlockComment cs ≠ []) :
    ∃ body, cs = body ++ '*' :: '/' :: afterBlockComment cs ∧ ¬['*', '/'] <:+: body := by
  induction cs with
  | nil => exact absurd rfl h
  | cons c cs ih =>
    by_cases hpre : ['*', '/'] <+: c :: cs
    · obtain ⟨rest, hrest⟩ := hpre
      rw [← hrest]
      exact ⟨[], rfl, fun hin => absurd (List.eq_nil_of_infix_nil hin) (by decide)⟩
    · rw [afterBlockComment_cons_of_not hpre] at h ⊢
      obtain ⟨body, hcs, hbody⟩ := ih h
      refine ⟨c :: body, by rw [List.cons_append, ← hcs], fun hin => ?_⟩
      rcases List.infix_cons_iff.mp hin with hin | hin
      · refine hpre (hin.trans ?_)
        rw [hcs]
        exact List.cons_prefix_cons.mpr ⟨rfl, List.prefix_append body _⟩
      · exact hbody hin

/-- Inside a string, a character other than a backslash is passed or is the closing quote. -/
theorem afterQuoted_cons {quote c : Char} (hc : c ≠ '\\') (cs : List Char) :
    afterQuoted quote (c :: cs) = if c = quote then cs else afterQuoted quote cs := by
  rw [afterQuoted.eq_def]
  exact if_neg hc

/-- Inside a string, a backslash hides the character behind it, a closing quote included. -/
theorem afterQuoted_escaped (quote c : Char) (cs : List Char) :
    afterQuoted quote ('\\' :: c :: cs) = afterQuoted quote cs := by
  rw [afterQuoted.eq_def]
  exact if_pos rfl

/-- A string is left behind the quote that closes it. -/
theorem afterQuoted_append {quote : Char} (hquote : quote ≠ '\\') {body : List Char}
    (rest : List Char) (hbody : IsQuoted quote body) :
    afterQuoted quote (body ++ quote :: rest) = rest := by
  induction hbody with
  | nil => rw [List.nil_append, afterQuoted_cons hquote, if_pos rfl]
  | plain hc hq _ ih => rw [List.cons_append, afterQuoted_cons hc, if_neg hq, ih]
  | escaped _ ih => rw [List.cons_append, List.cons_append, afterQuoted_escaped, ih]

/-- A string that something follows runs to the first quote that no backslash hides. -/
theorem exists_of_afterQuoted {quote : Char} {cs : List Char} (h : afterQuoted quote cs ≠ []) :
    ∃ body, cs = body ++ quote :: afterQuoted quote cs ∧ IsQuoted quote body := by
  fun_induction afterQuoted quote cs with
  | case1 => exact absurd rfl h
  | case2 => exact absurd rfl h
  | case3 c cs ih =>
    obtain ⟨body, hcs, hbody⟩ := ih h
    exact ⟨'\\' :: c :: body, by rw [List.cons_append, List.cons_append, ← hcs], .escaped hbody⟩
  | case4 cs hc => exact ⟨[], rfl, .nil⟩
  | case5 c cs hc hq ih =>
    obtain ⟨body, hcs, hbody⟩ := ih h
    exact ⟨c :: body, by rw [List.cons_append, ← hcs], .plain hc hq hbody⟩

/-! ### The steps of the scanner -/

section Steps

variable (d : Delimiter) (depth : Nat)

theorem Delimiter.closer_ne_opener : d.closer ≠ d.opener := by
  cases d <;> decide

theorem Delimiter.slash_ne_opener : '/' ≠ d.opener := by
  cases d <;> decide

theorem Delimiter.slash_ne_closer : '/' ≠ d.closer := by
  cases d <;> decide

/-- No opener is a quote, so the tests of the scanner do not compete for it. -/
theorem Delimiter.isQuote_opener : isQuote d.opener = false := by
  cases d <;> decide

theorem Delimiter.isQuote_closer : isQuote d.closer = false := by
  cases d <;> decide

/-- At an opener one more block is open. -/
theorem afterCloser_opener (cs : List Char) :
    afterCloser d depth (d.opener :: cs) = afterCloser d (depth + 1) cs := by
  rw [afterCloser.eq_def]
  exact if_pos rfl

/-- The closer of the outermost open block ends the scan. -/
theorem afterCloser_closer_zero (cs : List Char) :
    afterCloser d 0 (d.closer :: cs) = some cs := by
  rw [afterCloser.eq_def]
  simp only [if_neg d.closer_ne_opener, if_true]

/-- The closer of an inner block takes one from the counter. -/
theorem afterCloser_closer_succ (cs : List Char) :
    afterCloser d (depth + 1) (d.closer :: cs) = afterCloser d depth cs := by
  rw [afterCloser.eq_def]
  simp only [if_neg d.closer_ne_opener, if_true]

/-- Two slashes start a line comment, whatever the counter. -/
theorem afterCloser_lineComment (cs : List Char) :
    afterCloser d depth ('/' :: '/' :: cs) = afterCloser d depth (afterLineComment cs) := by
  rw [afterCloser.eq_def]
  simp only [if_neg d.slash_ne_opener, if_neg d.slash_ne_closer, List.head?_cons, and_self, if_true]
  rw [afterLineComment, if_neg (by decide)]

theorem afterCloser_blockComment (cs : List Char) :
    afterCloser d depth ('/' :: '*' :: cs) = afterCloser d depth (afterBlockComment cs) := by
  rw [afterCloser.eq_def]
  simp only [if_neg d.slash_ne_opener, if_neg d.slash_ne_closer, List.head?_cons, Option.some.injEq,
    Char.reduceEq, and_false, and_self, if_true, if_false, List.drop_succ_cons, List.drop_zero]

variable {d depth}

theorem afterCloser_quote {quote : Char} (hquote : isQuote quote = true) (cs : List Char) :
    afterCloser d depth (quote :: cs) = afterCloser d depth (afterQuoted quote cs) := by
  have hopener : quote ≠ d.opener := by
    rintro rfl
    exact absurd hquote (by rw [d.isQuote_opener]; decide)
  have hcloser : quote ≠ d.closer := by
    rintro rfl
    exact absurd hquote (by rw [d.isQuote_closer]; decide)
  have hslash : quote ≠ '/' := by
    rintro rfl
    exact absurd hquote (by decide)
  rw [afterCloser.eq_def]
  simp only [if_neg hopener, if_neg hcloser, hslash, false_and, if_false, hquote, if_true]

/-- Any other character is passed, and the counter stays. -/
theorem afterCloser_char {c : Char} {cs : List Char} (hopener : c ≠ d.opener)
    (hcloser : c ≠ d.closer) (hquote : isQuote c = false) (hcomment : ¬OpensComment c cs) :
    afterCloser d depth (c :: cs) = afterCloser d depth cs := by
  unfold OpensComment at hcomment
  rw [and_or_left, not_or] at hcomment
  rw [afterCloser.eq_def]
  simp only [if_neg hopener, if_neg hcloser, if_neg hcomment.1, if_neg hcomment.2, hquote,
    Bool.false_eq_true, if_false]

end Steps

/-! ### The scanner passes over items -/

/-- The scanner passes over a word, its counter unchanged, where `rest` follows. -/
def Passes (d : Delimiter) (word rest : List Char) : Prop :=
  ∀ depth, afterCloser d depth (word ++ rest) = afterCloser d depth rest

/-- A block is passed when its contents are: the counter goes up at the opener and back down at the
closer. -/
theorem passes_block {d : Delimiter} {body rest : List Char}
    (h : Passes d body (d.closer :: rest)) :
    Passes d (d.opener :: (body ++ [d.closer])) rest := by
  intro depth
  rw [List.cons_append, afterCloser_opener, List.append_assoc, List.singleton_append, h (depth + 1),
    afterCloser_closer_succ]

/-- A line comment is passed up to its newline. -/
theorem passes_lineComment (d : Delimiter) {body rest : List Char} (hbody : '\n' ∉ body)
    (hrest : rest.head? = some '\n') : Passes d ('/' :: '/' :: body) rest := by
  intro depth
  rw [List.cons_append, List.cons_append, afterCloser_lineComment,
    afterLineComment_append hbody hrest]

theorem passes_blockComment (d : Delimiter) {body : List Char} (rest : List Char)
    (hbody : ¬['*', '/'] <:+: body) : Passes d ('/' :: '*' :: (body ++ ['*', '/'])) rest := by
  intro depth
  rw [List.cons_append, List.cons_append, afterCloser_blockComment, List.append_assoc]
  exact congrArg _ (afterBlockComment_append rest hbody)

theorem passes_string (d : Delimiter) {quote : Char} {body : List Char} (rest : List Char)
    (hquote : isQuote quote = true) (hbody : IsQuoted quote body) :
    Passes d (quote :: (body ++ [quote])) rest := by
  have hne : quote ≠ '\\' := by
    rintro rfl
    exact absurd hquote (by decide)
  intro depth
  rw [List.cons_append, afterCloser_quote hquote, List.append_assoc, List.singleton_append,
    afterQuoted_append hne rest hbody]

/-- **The scanner passes over items.** -/
theorem IsItems.passes {d : Delimiter} {word rest : List Char} (h : IsItems d word rest) :
    Passes d word rest := by
  -- the same statement for blocks, items and sequences, by induction on the derivation
  refine @IsItems.rec d (fun word rest _ => Passes d word rest)
    (fun word rest _ => Passes d word rest)
    (fun word rest _ => Passes d word rest) ?_ ?_ ?_ ?_ ?_ ?_ ?_ ?_ word rest h
  · intro body rest _ ih
    exact passes_block ih
  · intro word rest _ ih
    exact ih
  · intro body rest hbody hrest
    exact passes_lineComment d hbody hrest
  · intro body rest hbody
    exact passes_blockComment d rest hbody
  · intro quote body rest hquote hbody
    exact passes_string d rest hquote hbody
  · intro c rest hopener hcloser hquote hcomment depth
    exact afterCloser_char hopener hcloser hquote hcomment
  · intro rest depth
    rfl
  · intro first others rest _ _ ihfirst ihothers depth
    rw [List.append_assoc, ihfirst depth, ihothers depth]

/-- What follows an item matters only through its first character. -/
theorem IsItems.of_head? {d : Delimiter} {word rest : List Char} (h : IsItems d word rest)
    {rest' : List Char} (hhead : rest.head? = rest'.head?) : IsItems d word rest' := by
  revert rest'
  -- a block looks at nothing behind its closer, so it may be followed by any text
  refine @IsItems.rec d (fun word _ _ => ∀ rest', IsBlock d word rest')
    (fun word rest _ => ∀ {rest'}, rest.head? = rest'.head? → IsItem d word rest')
    (fun word rest _ => ∀ {rest'}, rest.head? = rest'.head? → IsItems d word rest')
    ?_ ?_ ?_ ?_ ?_ ?_ ?_ ?_ word rest h
  · intro body rest _ ih rest'
    exact .mk (ih rfl)
  · intro word rest _ ih rest' _
    exact .block (ih rest')
  · intro body rest hbody hrest rest' hhead
    exact .lineComment hbody (hhead ▸ hrest)
  · intro body rest hbody rest' _
    exact .blockComment hbody
  · intro quote body rest hquote hbody rest' _
    exact .string hquote hbody
  · intro c rest hopener hcloser hquote hcomment rest' hhead
    refine .char hopener hcloser hquote ?_
    unfold OpensComment at hcomment ⊢
    rwa [← hhead]
  · intro rest rest' _
    exact .nil
  · intro first others rest _ _ ihfirst ihothers rest' hhead
    refine .cons (ihfirst ?_) (ihothers hhead)
    rw [List.head?_append, List.head?_append, hhead]

/-- A block is a block whatever follows it: its last character is the closer, which no test reads
past. -/
theorem IsBlock.of_rest {d : Delimiter} {word rest : List Char} (h : IsBlock d word rest)
    (rest' : List Char) : IsBlock d word rest' := by
  obtain ⟨hbody⟩ := h
  exact .mk (hbody.of_head? rfl)

/-! ### What the scanner passed over -/

/-- **Ending several blocks:** items and a closer for each of `depth + 1` open blocks, the innermost
first. -/
inductive Closes (d : Delimiter) : (depth : Nat) → (word rest : List Char) → Prop
  | outermost {body rest : List Char} (h : IsItems d body (d.closer :: rest)) :
      Closes d 0 (body ++ [d.closer]) rest
  | inner {depth : Nat} {body word rest : List Char}
      (h : IsItems d body (d.closer :: (word ++ rest))) (hword : Closes d depth word rest) :
      Closes d (depth + 1) (body ++ d.closer :: word) rest

/-- An item in front belongs to the innermost block. -/
theorem Closes.prepend {d : Delimiter} {depth : Nat} {first word rest : List Char}
    (hfirst : IsItem d first (word ++ rest)) (h : Closes d depth word rest) :
    Closes d depth (first ++ word) rest := by
  cases h with
  | outermost h =>
    rw [List.append_assoc, List.singleton_append] at hfirst
    rw [← List.append_assoc]
    exact .outermost (.cons hfirst h)
  | inner h hword =>
    rw [List.append_assoc, List.cons_append] at hfirst
    rw [← List.append_assoc]
    exact .inner (.cons hfirst h) hword

/-- An opener in front makes the innermost block an item of the next one. -/
theorem Closes.enclose {d : Delimiter} {depth : Nat} {word rest : List Char}
    (h : Closes d (depth + 1) word rest) : Closes d depth (d.opener :: word) rest := by
  cases h with
  | @inner _ body word _ h hword =>
    have hsplit : d.opener :: (body ++ d.closer :: word) =
        (d.opener :: (body ++ [d.closer])) ++ word := by
      rw [List.cons_append, List.append_assoc, List.singleton_append]
    rw [hsplit]
    exact hword.prepend (.block (.mk h))

/-- The scanner gives nothing at the end of the text, so a routine that ran to the end without
success was not the last step of a success. -/
theorem ne_nil_of_afterCloser {d : Delimiter} {depth : Nat} {cs rest : List Char}
    (h : afterCloser d depth cs = some rest) : cs ≠ [] := by
  rintro rfl
  rw [afterCloser.eq_def] at h
  exact nomatch h

/-- What the scanner passed over before it stopped closes all the blocks it had counted. -/
theorem exists_closes_of_afterCloser {d : Delimiter} {depth : Nat} {cs rest : List Char}
    (h : afterCloser d depth cs = some rest) :
    ∃ word, cs = word ++ rest ∧ Closes d depth word rest := by
  fun_induction afterCloser d depth cs with
  | case1 => exact nomatch h
  | case2 depth cs ih =>
    -- one more block was open behind the opener, and it is an item here
    obtain ⟨word, rfl, hword⟩ := ih h
    exact ⟨d.opener :: word, rfl, hword.enclose⟩
  | case3 cs _ =>
    obtain rfl := Option.some.inj h
    exact ⟨[d.closer], rfl, .outermost .nil⟩
  | case4 cs _ depth ih =>
    obtain ⟨word, rfl, hword⟩ := ih h
    exact ⟨d.closer :: word, rfl, .inner .nil hword⟩
  | case5 depth c cs _ _ hslash ih =>
    obtain ⟨rfl, hhead⟩ := hslash
    obtain ⟨cs, rfl⟩ := List.head?_eq_some_iff.mp hhead
    obtain ⟨word, hcs, hword⟩ := ih h
    obtain ⟨body, hbody, hline, hnewline⟩ := exists_of_afterLineComment (ne_nil_of_afterCloser h)
    rw [hcs] at hbody hnewline
    -- the comment cannot end where it starts: a slash stands there
    cases body with
    | nil =>
      rw [List.nil_append] at hbody
      rw [← hbody] at hnewline
      exact absurd (Option.some.inj hnewline) (by decide)
    | cons c' body =>
      obtain ⟨rfl, rfl⟩ := List.cons.inj hbody
      refine ⟨'/' :: '/' :: body ++ word, ?_, hword.prepend (.lineComment ?_ hnewline)⟩
      · rw [List.append_assoc]
        rfl
      · exact fun hmem => hline (List.mem_cons_of_mem _ hmem)
  | case6 depth c cs _ _ _ hstar ih =>
    obtain ⟨rfl, hhead⟩ := hstar
    obtain ⟨cs, rfl⟩ := List.head?_eq_some_iff.mp hhead
    obtain ⟨word, hcs, hword⟩ := ih h
    -- something follows the comment, so it was closed
    obtain ⟨body, hbody, hinside⟩ := exists_of_afterBlockComment (ne_nil_of_afterCloser h)
    rw [hcs, List.drop_succ_cons, List.drop_zero] at hbody
    subst hbody
    refine ⟨'/' :: '*' :: (body ++ ['*', '/']) ++ word, ?_, hword.prepend (.blockComment hinside)⟩
    rw [List.append_assoc, List.cons_append, List.cons_append, List.append_assoc]
    rfl
  | case7 depth c cs _ _ _ _ hquote ih =>
    -- and so was the string
    obtain ⟨word, hcs, hword⟩ := ih h
    obtain ⟨body, hbody, hinside⟩ := exists_of_afterQuoted (ne_nil_of_afterCloser h)
    rw [hcs] at hbody
    subst hbody
    refine ⟨c :: (body ++ [c]) ++ word, ?_, hword.prepend (.string hquote hinside)⟩
    rw [List.append_assoc, List.cons_append, List.append_assoc]
    rfl
  | case8 depth c cs hopener hcloser hslash hstar hquote ih =>
    obtain ⟨word, rfl, hword⟩ := ih h
    refine ⟨[c] ++ word, rfl, hword.prepend (.char hopener hcloser ?_ ?_)⟩
    · exact Bool.eq_false_iff.mpr hquote
    · unfold OpensComment
      rw [and_or_left, not_or]
      exact ⟨hslash, hstar⟩

/-- **The partner of an opener ends a block.** What follows the opener is split into the items of
its block, the closer and the rest. -/
theorem afterCloser_zero_iff {d : Delimiter} {cs rest : List Char} :
    afterCloser d 0 cs = some rest ↔
      ∃ body, cs = body ++ d.closer :: rest ∧ IsItems d body (d.closer :: rest) := by
  constructor
  · intro h
    obtain ⟨word, hcs, hword⟩ := exists_closes_of_afterCloser h
    cases hword with
    | @outermost body _ hbody =>
      refine ⟨body, ?_, hbody⟩
      rw [hcs, List.append_assoc, List.singleton_append]
  · rintro ⟨body, rfl, hbody⟩
    rw [hbody.passes 0, afterCloser_closer_zero]

/-! ### Characters that a scan does not look at -/

/-- Characters that mean nothing to a scan for the partner of an opener: neither of its two
delimiters, no quote, and no part of a comment or of an escape. -/
def Delimiter.Ignores (d : Delimiter) (c : Char) : Prop :=
  c ≠ d.opener ∧ c ≠ d.closer ∧ isQuote c = false ∧ c ∉ ['/', '*', '\\', '\n']

/-- Characters that a scan does not tell apart. -/
def Delimiter.Alike (d : Delimiter) (c c' : Char) : Prop :=
  c = c' ∨ d.Ignores c ∧ d.Ignores c'

/-- A scan ignores both delimiters of the other kind. -/
theorem Delimiter.ignores_other {d other : Delimiter} (h : other ≠ d) :
    d.Ignores other.opener ∧ d.Ignores other.closer := by
  unfold Delimiter.Ignores
  match d, other with
  | .brace, .brace => exact absurd rfl h
  | .brace, .paren => decide
  | .paren, .brace => decide
  | .paren, .paren => exact absurd rfl h

section Alike

variable {d : Delimiter} {c c' : Char}

/-- Alike characters agree on being any character that the scan looks at. -/
theorem Delimiter.Alike.eq_iff {x : Char} (h : d.Alike c c') (hx : ¬d.Ignores x) :
    c = x ↔ c' = x := by
  rcases h with rfl | ⟨hc, hc'⟩
  · exact Iff.rfl
  · refine iff_of_false ?_ ?_
    · rintro rfl
      exact hx hc
    · rintro rfl
      exact hx hc'

theorem Delimiter.not_ignores_opener : ¬d.Ignores d.opener :=
  fun h => h.1 rfl

theorem Delimiter.not_ignores_closer : ¬d.Ignores d.closer :=
  fun h => h.2.1 rfl

/-- The marks of comments, escapes and line ends are looked at. -/
theorem Delimiter.not_ignores_mark {x : Char} (hx : x ∈ ['/', '*', '\\', '\n']) : ¬d.Ignores x :=
  fun h => h.2.2.2 hx

theorem Delimiter.not_ignores_quote (hc : isQuote c = true) : ¬d.Ignores c := by
  intro h
  rw [h.2.2.1] at hc
  exact Bool.false_ne_true hc

/-- Alike characters are both quotes or neither is. -/
theorem Delimiter.Alike.isQuote_eq (h : d.Alike c c') : isQuote c = isQuote c' := by
  rcases h with rfl | ⟨hc, hc'⟩
  · rfl
  · rw [hc.2.2.1, hc'.2.2.1]

/-- A quote is alike only to itself. -/
theorem Delimiter.Alike.eq_of_isQuote (h : d.Alike c c') (hc : isQuote c = true) : c = c' :=
  h.elim id fun hboth => absurd hboth.1 (Delimiter.not_ignores_quote hc)

end Alike

section Congruence

variable {d : Delimiter} {cs cs' : List Char}

/-- Texts alike in every place agree on beginning with a character that the scan looks at. -/
theorem head?_eq_iff_of_alike (h : List.Forall₂ d.Alike cs cs') {x : Char} (hx : ¬d.Ignores x) :
    cs.head? = some x ↔ cs'.head? = some x := by
  cases h with
  | nil => exact Iff.rfl
  | cons hc _ =>
    rw [List.head?_cons, List.head?_cons, Option.some_inj, Option.some_inj]
    exact hc.eq_iff hx

/-- Skipping a line comment keeps two texts alike, and so does skipping a block comment or a
string. -/
theorem afterLineComment_alike (h : List.Forall₂ d.Alike cs cs') :
    List.Forall₂ d.Alike (afterLineComment cs) (afterLineComment cs') := by
  induction h with
  | nil => exact .nil
  | @cons c c' cs cs' hc hcs ih =>
    have hnewline := hc.eq_iff (Delimiter.not_ignores_mark (x := '\n') (by decide))
    rw [afterLineComment, afterLineComment]
    by_cases hx : c = '\n'
    · rw [if_pos hx, if_pos (hnewline.mp hx)]
      exact .cons hc hcs
    · rw [if_neg hx, if_neg (fun hx' => hx (hnewline.mpr hx'))]
      exact ih

/-- Texts alike in every place agree on beginning with the mark that closes a block comment. -/
theorem starSlash_prefix_iff_of_alike (h : List.Forall₂ d.Alike cs cs') :
    ['*', '/'] <+: cs ↔ ['*', '/'] <+: cs' := by
  cases h with
  | nil => exact Iff.rfl
  | cons hc hcs =>
    cases hcs with
    | nil =>
      simp only [List.cons_prefix_cons, List.prefix_nil, reduceCtorEq, and_false]
    | cons hc₂ _ =>
      have hstar := hc.eq_iff (Delimiter.not_ignores_mark (x := '*') (by decide))
      have hslash := hc₂.eq_iff (Delimiter.not_ignores_mark (x := '/') (by decide))
      simp only [List.cons_prefix_cons, List.nil_prefix, and_true]
      rw [eq_comm, hstar, eq_comm, @eq_comm _ '/', hslash, @eq_comm _ _ '/']

theorem afterBlockComment_alike (h : List.Forall₂ d.Alike cs cs') :
    List.Forall₂ d.Alike (afterBlockComment cs) (afterBlockComment cs') := by
  induction h with
  | nil => exact .nil
  | @cons c c' cs cs' hc hcs ih =>
    have hiff := starSlash_prefix_iff_of_alike (.cons hc hcs)
    by_cases hpre : ['*', '/'] <+: c :: cs
    · obtain ⟨rest, hrest⟩ := hpre
      obtain ⟨rest', hrest'⟩ := hiff.mp ⟨rest, hrest⟩
      obtain ⟨rfl, rfl⟩ := List.cons.inj hrest
      obtain ⟨rfl, rfl⟩ := List.cons.inj hrest'
      cases hcs with
      | cons _ hrests => exact hrests
    · rw [afterBlockComment_cons_of_not hpre,
        afterBlockComment_cons_of_not (fun hpre' => hpre (hiff.mpr hpre'))]
      exact ih

theorem afterQuoted_alike {quote : Char} (hquote : isQuote quote = true)
    (h : List.Forall₂ d.Alike cs cs') :
    List.Forall₂ d.Alike (afterQuoted quote cs) (afterQuoted quote cs') := by
  have hback : ¬d.Ignores '\\' := Delimiter.not_ignores_mark (by decide)
  fun_induction afterQuoted quote cs generalizing cs' with
  | case1 =>
    cases h with
    | nil => exact .nil
  | case2 =>
    cases h with
    | cons hc hcs =>
      cases hcs
      obtain rfl := (hc.eq_iff hback).mp rfl
      exact .nil
  | case3 c cs ih =>
    cases h with
    | cons hc hcs =>
      cases hcs with
      | cons _ hcs =>
        obtain rfl := (hc.eq_iff hback).mp rfl
        rw [afterQuoted_escaped]
        exact ih hcs
  | case4 cs hne =>
    cases h with
    | cons hc hcs =>
      obtain rfl := (hc.eq_iff (Delimiter.not_ignores_quote hquote)).mp rfl
      rw [afterQuoted_cons hne, if_pos rfl]
      exact hcs
  | case5 c cs hne hnq ih =>
    cases h with
    | cons hc hcs =>
      -- whatever stands for `c` is neither a backslash nor the quote either
      rw [afterQuoted_cons (fun h => hne ((hc.eq_iff hback).mpr h)),
        if_neg (fun h => hnq ((hc.eq_iff (Delimiter.not_ignores_quote hquote)).mpr h))]
      exact ih hcs

/-- Texts that a scan does not tell apart have the partner of an opener at the same distance from
their ends. -/
theorem length_afterCloser_alike (depth : Nat) (h : List.Forall₂ d.Alike cs cs') :
    (afterCloser d depth cs).map List.length = (afterCloser d depth cs').map List.length := by
  have hslash : ¬d.Ignores '/' := Delimiter.not_ignores_mark (by decide)
  have hstar : ¬d.Ignores '*' := Delimiter.not_ignores_mark (by decide)
  fun_induction afterCloser d depth cs generalizing cs' with
  | case1 =>
    cases h with
    | nil => rw [afterCloser.eq_def]
  | case2 depth cs ih =>
    cases h with
    | cons hc hcs =>
      obtain rfl := (hc.eq_iff Delimiter.not_ignores_opener).mp rfl
      rw [afterCloser_opener]
      exact ih hcs
  | case3 cs _ =>
    cases h with
    | cons hc hcs =>
      obtain rfl := (hc.eq_iff Delimiter.not_ignores_closer).mp rfl
      rw [afterCloser_closer_zero, Option.map_some, Option.map_some, hcs.length_eq]
  | case4 cs _ depth ih =>
    cases h with
    | cons hc hcs =>
      obtain rfl := (hc.eq_iff Delimiter.not_ignores_closer).mp rfl
      rw [afterCloser_closer_succ]
      exact ih hcs
  | case5 depth c cs _ _ hcomment ih =>
    obtain ⟨rfl, hhead⟩ := hcomment
    obtain ⟨cs, rfl⟩ := List.head?_eq_some_iff.mp hhead
    cases h with
    | cons hc hcs =>
      -- the scanner takes up the comment at its second slash, which is passed over at once
      have hafter := afterLineComment_alike hcs
      cases hcs with
      | cons hc₂ hcs =>
        obtain rfl := (hc.eq_iff hslash).mp rfl
        obtain rfl := (hc₂.eq_iff hslash).mp rfl
        rw [ih hafter, afterCloser_lineComment, afterLineComment, if_neg (by decide)]
  | case6 depth c cs _ _ _ hcomment ih =>
    obtain ⟨rfl, hhead⟩ := hcomment
    obtain ⟨cs, rfl⟩ := List.head?_eq_some_iff.mp hhead
    cases h with
    | cons hc hcs =>
      cases hcs with
      | cons hc₂ hcs =>
        obtain rfl := (hc.eq_iff hslash).mp rfl
        obtain rfl := (hc₂.eq_iff hstar).mp rfl
        rw [afterCloser_blockComment]
        exact ih (afterBlockComment_alike hcs)
  | case7 depth c cs _ _ _ _ hquote ih =>
    cases h with
    | cons hc hcs =>
      obtain rfl := hc.eq_of_isQuote hquote
      rw [afterCloser_quote hquote]
      exact ih (afterQuoted_alike hquote hcs)
  | case8 depth c cs hopener hcloser hline hblock hquote ih =>
    cases h with
    | @cons _ c' _ cs' hc hcs =>
      -- a slash is never ignored, so what opened no comment still opens none
      have hcomment : ¬OpensComment c' cs' := by
        unfold OpensComment
        rw [← hc.eq_iff hslash, ← head?_eq_iff_of_alike hcs hslash,
          ← head?_eq_iff_of_alike hcs hstar, and_or_left, not_or]
        exact ⟨hline, hblock⟩
      rw [afterCloser_char (fun h => hopener ((hc.eq_iff Delimiter.not_ignores_opener).mpr h))
        (fun h => hcloser ((hc.eq_iff Delimiter.not_ignores_closer).mpr h))
        (by rw [← hc.isQuote_eq]; exact Bool.eq_false_iff.mpr hquote) hcomment]
      exact ih hcs

end Congruence

/-! ### Offsets -/

/-- Where the block ends that opens at an offset, and whether it closes. -/
def closing? (text : List Char) (o : Nat) : Option (Nat × Bool) :=
  (opening? (text.drop o)).map fun b => (o + b.stop, b.closed)

/-- The text from one offset to another is a block at its place in the text. -/
def BlockAt (d : Delimiter) (text : List Char) (o e : Nat) : Prop :=
  o ≤ e ∧ e ≤ text.length ∧ IsBlock d ((text.drop o).take (e - o)) (text.drop e)

theorem Delimiter.ofOpener?_opener (d : Delimiter) : Delimiter.ofOpener? d.opener = some d := by
  cases d <;> rfl

/-- A scan that ends has consumed at least the closer. -/
theorem length_lt_of_afterCloser {d : Delimiter} {cs rest : List Char}
    (h : afterCloser d 0 cs = some rest) : rest.length < cs.length := by
  obtain ⟨body, rfl, -⟩ := afterCloser_zero_iff.mp h
  rw [List.length_append, List.length_cons]
  omega

/-- The end of a block, read off from what the scanner leaves. -/
theorem closing?_eq {d : Delimiter} {text cs : List Char} {o : Nat}
    (h : text.drop o = d.opener :: cs) :
    closing? text o = some
      ((afterCloser d 0 cs).elim (text.length, false) fun rest =>
        (text.length - rest.length, true)) := by
  have hlength : text.length = o + 1 + cs.length := by
    have := congrArg List.length h
    rw [List.length_drop, List.length_cons] at this
    omega
  rw [closing?, h, opening?, openingFrom?, d.ofOpener?_opener, Option.map_some, Found.ofOpener]
  cases hafter : afterCloser d 0 cs with
  | none =>
    simp only [Found.stop, Option.elim_none, Bool.false_eq_true, if_false]
    congr 2
    omega
  | some rest =>
    -- the contents are what was passed over, without the closer
    have hlt := length_lt_of_afterCloser hafter
    simp only [Found.stop, Option.elim_some, if_true, List.length_take]
    congr 2
    omega

theorem drop_eq_opener_cons {d : Delimiter} {text : List Char} {o : Nat}
    (h : text[o]? = some d.opener) : text.drop o = d.opener :: text.drop (o + 1) := by
  obtain ⟨hlt, heq⟩ := List.getElem?_eq_some_iff.mp h
  rw [List.drop_eq_getElem_cons hlt, heq]

/-- A block at an offset is a word in front of what is left of the text there. -/
theorem blockAt_iff {d : Delimiter} {text : List Char} {o e : Nat} :
    BlockAt d text o e ↔
      ∃ word rest, text.drop o = word ++ rest ∧ e = o + word.length ∧ IsBlock d word rest := by
  constructor
  · rintro ⟨hoe, he, hblock⟩
    refine ⟨_, _, ?_, ?_, hblock⟩
    · conv_lhs => rw [← List.take_append_drop (e - o) (text.drop o)]
      rw [List.drop_drop, Nat.add_sub_cancel' hoe]
    · rw [List.length_take, List.length_drop]
      omega
  · rintro ⟨word, rest, hdrop, rfl, hblock⟩
    have hlength := congrArg List.length hdrop
    rw [List.length_drop, List.length_append] at hlength
    -- a block has an opener, so its offset is in the text
    have hpos : 0 < word.length := by
      obtain ⟨-⟩ := hblock
      exact Nat.succ_pos _
    refine ⟨Nat.le_add_right _ _, by omega, ?_⟩
    rw [Nat.add_sub_cancel_left, ← List.drop_drop, hdrop, List.take_left', List.drop_left']
    · exact hblock
    · rfl
    · rfl

/-- What the scanner leaves and where it stops say the same. -/
theorem afterCloser_iff_blockAt {d : Delimiter} {text cs : List Char} {o e : Nat}
    (h : text.drop o = d.opener :: cs) :
    BlockAt d text o e ↔
      ∃ rest, afterCloser d 0 cs = some rest ∧ e = text.length - rest.length := by
  have hlength := congrArg List.length h
  rw [List.length_drop, List.length_cons] at hlength
  rw [blockAt_iff, h]
  constructor
  · rintro ⟨word, rest, hdrop, rfl, hblock⟩
    cases hblock with
    | @mk body _ hbody =>
      -- the block is in front of what is left, so its end is told by the length of that
      rw [List.cons_append, List.append_assoc, List.singleton_append, List.cons_inj_right] at hdrop
      refine ⟨rest, afterCloser_zero_iff.mpr ⟨body, hdrop, hbody⟩, ?_⟩
      rw [hdrop, List.length_append, List.length_cons] at hlength
      rw [List.length_cons, List.length_append, List.length_singleton]
      omega
  · rintro ⟨rest, hafter, rfl⟩
    obtain ⟨body, rfl, hbody⟩ := afterCloser_zero_iff.mp hafter
    refine ⟨d.opener :: (body ++ [d.closer]), rest, ?_, ?_, .mk hbody⟩
    · rw [List.cons_append, List.append_assoc, List.singleton_append]
    · rw [List.length_append, List.length_cons] at hlength
      rw [List.length_cons, List.length_append, List.length_singleton]
      omega

/-! ### The end of a block -/

/-- The scanner stops behind a block, wherever the block stands and whatever follows it. -/
theorem closing?_of_isBlock {d : Delimiter} {text word rest : List Char} {o : Nat}
    (hblock : IsBlock d word rest) (hdrop : text.drop o = word ++ rest) :
    closing? text o = some (o + word.length, true) := by
  have hat : BlockAt d text o (o + word.length) := blockAt_iff.mpr ⟨word, rest, hdrop, rfl, hblock⟩
  cases hblock with
  | mk hbody =>
    rw [List.cons_append] at hdrop
    obtain ⟨rest', hafter, he⟩ := (afterCloser_iff_blockAt hdrop).mp hat
    rw [closing?_eq hdrop, hafter, Option.elim_some, ← he]

/-- Texts that a scan does not tell apart have their blocks at the same places. -/
theorem closing?_alike {d : Delimiter} {text text' : List Char} {o : Nat}
    (ho : text[o]? = some d.opener) (h : List.Forall₂ d.Alike text text') :
    closing? text' o = closing? text o := by
  have hdrop := drop_eq_opener_cons ho
  have halike := List.forall₂_drop o h
  rw [hdrop] at halike
  -- the opener is no character to be ignored, so both texts open the block at `o`
  generalize hdrop' : text'.drop o = cs' at halike
  cases halike with
  | cons hc hcs =>
    obtain rfl := (hc.eq_iff Delimiter.not_ignores_opener).mp rfl
    rw [closing?_eq hdrop', closing?_eq hdrop, ← h.length_eq]
    have hlength := length_afterCloser_alike 0 hcs
    generalize afterCloser d 0 (text.drop (o + 1)) = left at hlength ⊢
    generalize afterCloser d 0 _ = right at hlength ⊢
    cases left with
    | none => rw [Option.map_none, eq_comm, Option.map_eq_none_iff] at hlength; rw [hlength]
    | some rest =>
      rw [Option.map_some, eq_comm, Option.map_eq_some_iff] at hlength
      obtain ⟨rest', rfl, hrest⟩ := hlength
      rw [Option.elim_some, Option.elim_some, hrest]

/-- **The scanner accepts exactly the grammar of balanced blocks.** From an opener, it stops at `e`
with success if and only if the text up to `e` is a block; there is at most one such `e`, and it
runs to the end of the text without success if and only if there is none. Delimiters of the other
kind never count: they may be exchanged for any character without meaning. Neither does what stands
before the opener or behind the block. -/
theorem closing?_iff_block (d : Delimiter) (text : List Char) (o : Nat)
    (ho : text[o]? = some d.opener) :
    (∀ e, closing? text o = some (e, true) ↔ BlockAt d text o e) ∧
      (∀ e e', BlockAt d text o e → BlockAt d text o e' → e = e') ∧
      (closing? text o = some (text.length, false) ↔ ∀ e, ¬BlockAt d text o e) ∧
      (∀ other : Delimiter, other ≠ d → d.Ignores other.opener ∧ d.Ignores other.closer) ∧
      (∀ text', List.Forall₂ d.Alike text text' → closing? text' o = closing? text o) ∧
      (∀ e before after, closing? text o = some (e, true) →
        closing? (before ++ ((text.drop o).take (e - o) ++ after)) before.length =
          some (before.length + (e - o), true)) ∧
      ∀ before, closing? text o = some (text.length, false) →
        closing? (before ++ text.drop o) before.length =
          some (before.length + (text.length - o), false) := by
  have hdrop := drop_eq_opener_cons ho
  have heq := closing?_eq hdrop
  have hiff := fun e => afterCloser_iff_blockAt (e := e) hdrop
  have hstop : ∀ e, closing? text o = some (e, true) ↔ BlockAt d text o e := by
    intro e
    rw [heq, hiff, Option.some_inj]
    cases afterCloser d 0 (text.drop (o + 1)) with
    | none => simp only [Option.elim_none, Prod.mk.injEq, Bool.false_eq_true, and_false,
        reduceCtorEq, false_and, exists_false]
    | some rest => simp only [Option.elim_some, Prod.mk.injEq, and_true, Option.some.injEq,
        exists_eq_left', eq_comm]
  have hnone : closing? text o = some (text.length, false) ↔
      afterCloser d 0 (text.drop (o + 1)) = none := by
    rw [heq, Option.some_inj]
    cases afterCloser d 0 (text.drop (o + 1)) with
    | none => exact iff_of_true rfl rfl
    | some rest => simp only [Option.elim_some, Prod.mk.injEq, Bool.true_eq_false, and_false,
        reduceCtorEq]
  refine ⟨hstop, ?_, ?_, fun other => Delimiter.ignores_other, fun text' => closing?_alike ho,
    ?_, ?_⟩
  · -- one scan stops at one place
    intro e e' h h'
    have hsame := ((hstop e).mpr h).symm.trans ((hstop e').mpr h')
    exact congrArg Prod.fst (Option.some.inj hsame)
  · rw [hnone]
    constructor
    · intro hafter e h
      obtain ⟨rest, hrest, -⟩ := (hiff e).mp h
      rw [hafter] at hrest
      exact nomatch hrest
    · intro h
      cases hafter : afterCloser d 0 (text.drop (o + 1)) with
      | none => rfl
      | some rest => exact absurd ((hiff _).mpr ⟨rest, hafter, rfl⟩) (h _)
  · -- being a block does not depend on what follows, and the scan sees nothing of what is before
    intro e before after h
    obtain ⟨hoe, he, hblock⟩ := (hstop e).mp h
    rw [closing?_of_isBlock (hblock.of_rest after) List.drop_left, List.length_take,
      List.length_drop, Nat.min_eq_left (by omega)]
  · intro before h
    rw [closing?_eq (List.drop_left.trans hdrop), hnone.mp h, Option.elim_none, List.length_append,
      List.length_drop]

/-- A block with closers inside a string, a comment of each kind and a nested block, and with a
brace that is never closed. -/
theorem closing?_iff_block_mixed :
    let text := "f( ')' /*)*/ \x7b //)\n())g".toList
    let swapped := "f( ')' /*)*/ \x7d //)\n())g".toList
    text[1]? = some Delimiter.paren.opener ∧ BlockAt .paren text 1 22 ∧
      closing? swapped 1 = some (22, true) ∧
      closing? ((text.drop 1).take 21 ++ ")".toList) 0 = some (21, true) := by
  intro text swapped
  have ho : text[1]? = some Delimiter.paren.opener := by decide
  have hclosing : closing? text 1 = some (22, true) := by decide +kernel
  obtain ⟨hstop, -, -, -, halike, haround, -⟩ := closing?_iff_block .paren text 1 ho
  have hpairs : List.Forall₂ Delimiter.paren.Alike text swapped := by
    unfold Delimiter.Alike Delimiter.Ignores
    decide
  refine ⟨ho, (hstop 22).mp hclosing, (halike swapped hpairs).trans hclosing, ?_⟩
  exact haround 22 [] ")".toList hclosing

end SourceAtlas.Block
