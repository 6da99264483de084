import SourceAtlas.Proofs.BlockNesting
import SourceAtlas.Proofs.Component.DeclaredProps

/-!
# The scan stays in the text

The scanner works on what is still to be read, and those who call it speak of offsets. Here the same
scan is a loop over an offset. Five kinds of round move the offset, each in its own way: past a
delimiter or another character by one, to the newline of a line comment, behind the mark of a block
comment, behind the quote of a string. Inside a string a backslash takes the character that it hides
along, also where there is none; the offset has then left the text, and is brought back to its end.

* `lineCommentEnd`, `blockCommentEnd`, `stringEnd` — the ends of comments and strings, by offsets;
* `Lands` — a routine ends at a later offset in the text, and leaves the text from there on;
* `Cursor.next?`, `Cursor.next?_cases` — one round of the loop, and what it can do;
* `Cursor.exists_halted` — the loop ends;
* `closing?_of_halted` — and it ends where the scanner ends the block;
* `scan_stays_in_text` — what this means for those who call the scanner.
-/

namespace SourceAtlas.Block

/-! ### The ends of comments and strings -/

/-- The first newline from an offset on, or the end of the text. -/
def lineCommentEnd (text : List Char) (i : Nat) : Nat :=
  if h : i < text.length then
    if text[i] = '\n' then i else lineCommentEnd text (i + 1)
  else text.length
termination_by text.length - i

/-- The offset behind the first `*/` from an offset on, or the end of the text. -/
def blockCommentEnd (text : List Char) (i : Nat) : Nat :=
  if h : i < text.length then
    if text[i] = '*' ∧ text[i + 1]? = some '/' then i + 2 else blockCommentEnd text (i + 1)
  else text.length
termination_by text.length - i

/-- The offset behind the first quote from an offset on that no backslash hides, or the end of the
text. -/
def stringEnd (text : List Char) (quote : Char) (i : Nat) : Nat :=
  if h : i < text.length then
    -- if the backslash is the last character, the next offset is beyond the end of the text
    if text[i] = '\\' then stringEnd text quote (i + 2)
    else if text[i] = quote then i + 1
    else stringEnd text quote (i + 1)
  else text.length
termination_by text.length - i

/-- **A routine lands in the text:** at the offset `i` it has left `rest` to be read, which is the
text from the offset `j` on, and `j` is behind `i`. -/
structure Lands (text : List Char) (i : Nat) (rest : List Char) (j : Nat) : Prop where
  /-- It moves on. -/
  lt : i < j
  /-- It stays in the text. -/
  le_length : j ≤ text.length
  /-- It leaves what stands from there on. -/
  rest_eq : rest = text.drop j

section Ends

variable {text : List Char} {quote c : Char} {i : Nat}

/-- The routines that work on the rest of the text and those that work on offsets agree. -/
theorem afterLineComment_drop (i : Nat) :
    afterLineComment (text.drop i) = text.drop (lineCommentEnd text i) := by
  fun_induction lineCommentEnd text i with
  | case1 i hi hnewline => rw [List.drop_eq_getElem_cons hi, afterLineComment, if_pos hnewline]
  | case2 i hi hother ih => rw [List.drop_eq_getElem_cons hi, afterLineComment, if_neg hother, ih]
  | case3 i hi =>
    rw [List.drop_eq_nil_of_le (Nat.le_of_not_lt hi), List.drop_length, afterLineComment]

/-- The mark that closes a block comment, in offsets. -/
theorem starSlash_prefix_drop_iff (hi : i < text.length) :
    ['*', '/'] <+: text[i] :: text.drop (i + 1) ↔ text[i] = '*' ∧ text[i + 1]? = some '/' := by
  rw [List.cons_prefix_cons, ← List.head?_drop, eq_comm]
  refine and_congr_right fun _ => ?_
  cases text.drop (i + 1) with
  | nil => exact iff_of_false (fun h => absurd h.length_le (by decide)) (by simp)
  | cons c cs =>
    rw [List.cons_prefix_cons, List.head?_cons, Option.some_inj, eq_comm]
    exact and_iff_left List.nil_prefix

theorem afterBlockComment_drop (i : Nat) :
    afterBlockComment (text.drop i) = text.drop (blockCommentEnd text i) := by
  fun_induction blockCommentEnd text i with
  | case1 i hi hmark =>
    obtain ⟨hlt, hslash⟩ := List.getElem?_eq_some_iff.mp hmark.2
    rw [List.drop_eq_getElem_cons hi, hmark.1, List.drop_eq_getElem_cons hlt, hslash,
      afterBlockComment]
  | case2 i hi hnot ih =>
    rw [List.drop_eq_getElem_cons hi,
      afterBlockComment_cons_of_not (mt (starSlash_prefix_drop_iff hi).mp hnot), ih]
  | case3 i hi =>
    rw [List.drop_eq_nil_of_le (Nat.le_of_not_lt hi), List.drop_length, afterBlockComment]

/-- A backslash takes the next character along, if there is one. -/
theorem afterQuoted_backslash (quote : Char) (cs : List Char) :
    afterQuoted quote ('\\' :: cs) = afterQuoted quote (cs.drop 1) := by
  cases cs with
  | nil => rfl
  | cons c cs => exact afterQuoted_escaped quote c cs

theorem afterQuoted_drop (quote : Char) (i : Nat) :
    afterQuoted quote (text.drop i) = text.drop (stringEnd text quote i) := by
  fun_induction stringEnd text quote i with
  | case1 i hi hback ih =>
    rw [List.drop_eq_getElem_cons hi, hback, afterQuoted_backslash, List.drop_drop, ih]
  | case2 i hi hback hquote =>
    rw [List.drop_eq_getElem_cons hi, afterQuoted_cons hback, if_pos hquote]
  | case3 i hi hback hother ih =>
    rw [List.drop_eq_getElem_cons hi, afterQuoted_cons hback, if_neg hother, ih]
  | case4 i hi => rw [List.drop_eq_nil_of_le (Nat.le_of_not_lt hi), List.drop_length, afterQuoted]

/-- A line comment ends in the text, and not before its start. -/
theorem lineCommentEnd_bounds (text : List Char) (i : Nat) :
    min i text.length ≤ lineCommentEnd text i ∧ lineCommentEnd text i ≤ text.length := by
  fun_induction lineCommentEnd text i <;> omega

theorem blockCommentEnd_bounds (text : List Char) (i : Nat) :
    min i text.length ≤ blockCommentEnd text i ∧ blockCommentEnd text i ≤ text.length := by
  fun_induction blockCommentEnd text i with
  | case1 i hi hmark =>
    have hlt := (List.getElem?_eq_some_iff.mp hmark.2).1
    omega
  | case2 i hi hnot ih => omega
  | case3 i hi => omega

/-- The offset may have left the text on the way, but it comes back to its end. -/
theorem stringEnd_bounds (text : List Char) (quote : Char) (i : Nat) :
    min i text.length ≤ stringEnd text quote i ∧ stringEnd text quote i ≤ text.length := by
  fun_induction stringEnd text quote i <;> omega

/-- A line comment lands further on: the scan starts at its first slash, which is no newline. -/
theorem lands_lineComment (hfirst : text[i]? = some '/') (hsecond : text[i + 1]? = some '/') :
    Lands text i (afterLineComment (text.drop i)) (lineCommentEnd text i) := by
  obtain ⟨hi, hslash⟩ := List.getElem?_eq_some_iff.mp hfirst
  have hlt := (List.getElem?_eq_some_iff.mp hsecond).1
  refine ⟨?_, (lineCommentEnd_bounds text i).2, afterLineComment_drop i⟩
  -- no newline stands at the first slash
  rw [lineCommentEnd, dif_pos hi, if_neg (by rw [hslash]; decide)]
  have hbounds := lineCommentEnd_bounds text (i + 1)
  omega

theorem lands_blockComment (hsecond : text[i + 1]? = some '*') :
    Lands text i (afterBlockComment (text.drop (i + 2))) (blockCommentEnd text (i + 2)) := by
  have hlt := (List.getElem?_eq_some_iff.mp hsecond).1
  have hbounds := blockCommentEnd_bounds text (i + 2)
  exact ⟨by omega, hbounds.2, afterBlockComment_drop (i + 2)⟩

theorem lands_string (hfirst : text[i]? = some quote) :
    Lands text i (afterQuoted quote (text.drop (i + 1))) (stringEnd text quote (i + 1)) := by
  have hi := (List.getElem?_eq_some_iff.mp hfirst).1
  have hbounds := stringEnd_bounds text quote (i + 1)
  exact ⟨by omega, hbounds.2, afterQuoted_drop quote (i + 1)⟩

end Ends

/-! ### The loop -/

/-- **Where a scan goes on** behind what starts at an offset with the character `c`, if `c` is no
delimiter. -/
def otherEnd (text : List Char) (c : Char) (i : Nat) : Nat :=
  if c = '/' ∧ text[i + 1]? = some '/' then lineCommentEnd text i
  else if c = '/' ∧ text[i + 1]? = some '*' then blockCommentEnd text (i + 2)
  else if isQuote c then stringEnd text c (i + 1)
  else i + 1

/-- **Where the loop stands.** -/
structure Cursor where
  /-- How many openers inside the block are still open. -/
  depth : Nat
  /-- The offset of the next character. -/
  index : Nat
  deriving DecidableEq

/-- The scan that stands at the same place. -/
def Cursor.state (text : List Char) (s : Cursor) : ScanState :=
  ⟨s.depth, text.drop s.index⟩

/-- **One round of the loop.** There is none at the end of the text, nor at the closer that ends the
block. -/
def Cursor.next? (d : Delimiter) (text : List Char) (s : Cursor) : Option Cursor :=
  match s.depth, text[s.index]? with
  | _, none => none
  | depth, some c =>
    if c = d.opener then some ⟨depth + 1, s.index + 1⟩
    else if c = d.closer then
      match depth with
      | 0 => none
      | depth + 1 => some ⟨depth, s.index + 1⟩
    else some ⟨depth, otherEnd text c s.index⟩

/-- Where the loop stands after a number of rounds, if there are as many. -/
def Cursor.after? (d : Delimiter) (text : List Char) : Nat → Cursor → Option Cursor
  | 0, s => some s
  | n + 1, s => (s.next? d text).bind (Cursor.after? d text n)

section Loop

variable {d : Delimiter} {text : List Char} {c : Char} {i n : Nat} {s t : Cursor}

/-- **A round at any character that is no bracket lands in the text,** further on. -/
theorem lands_other (hc : text[i]? = some c) :
    Lands text i (afterOther c (text.drop (i + 1))) (otherEnd text c i) := by
  obtain ⟨hi, hchar⟩ := List.getElem?_eq_some_iff.mp hc
  unfold afterOther otherEnd
  rw [List.head?_drop]
  split_ifs with hline hblock hquote
  · obtain ⟨rfl, hsecond⟩ := hline
    -- the scanner looks for the newline from the second slash on, the loop from the first
    have hlands := lands_lineComment hc hsecond
    rwa [List.drop_eq_getElem_cons hi, afterLineComment, if_neg (by rw [hchar]; decide)] at hlands
  · obtain ⟨rfl, hsecond⟩ := hblock
    rw [List.drop_drop]
    exact lands_blockComment hsecond
  · exact lands_string hc
  · exact ⟨Nat.lt_succ_self i, hi, rfl⟩

/-- **What a round can do.** It is a round of the scan, and moves the offset on in the text. There
is none at the end of the text, nor at the closer of the block. -/
theorem Cursor.next?_cases (d : Delimiter) (text : List Char) (s : Cursor) :
    (∃ t, s.next? d text = some t ∧ Round d (s.state text) (t.state text) ∧
      s.index < t.index ∧ t.index ≤ text.length) ∨
    s.next? d text = none ∧
      (text.length ≤ s.index ∨ s.depth = 0 ∧ text[s.index]? = some d.closer) := by
  obtain ⟨depth, i⟩ := s
  cases hc : text[i]? with
  | none =>
    refine .inr ⟨?_, .inl (List.getElem?_eq_none_iff.mp hc)⟩
    rw [Cursor.next?, hc]
  | some c =>
    obtain ⟨hi, hchar⟩ := List.getElem?_eq_some_iff.mp hc
    have hdrop : text.drop i = c :: text.drop (i + 1) := by
      rw [List.drop_eq_getElem_cons hi, hchar]
    by_cases hopener : c = d.opener
    · subst hopener
      refine .inl ⟨⟨depth + 1, i + 1⟩, ?_, ?_, Nat.lt_succ_self i, hi⟩
      · rw [Cursor.next?, hc]
        exact if_pos rfl
      · rw [Cursor.state, hdrop]
        exact .opener depth _
    by_cases hcloser : c = d.closer
    · subst hcloser
      cases depth with
      | zero =>
        refine .inr ⟨?_, .inr ⟨rfl, rfl⟩⟩
        rw [Cursor.next?, hc]
        exact (if_neg hopener).trans (if_pos rfl)
      | succ depth =>
        refine .inl ⟨⟨depth, i + 1⟩, ?_, ?_, Nat.lt_succ_self i, hi⟩
        · rw [Cursor.next?, hc]
          exact (if_neg hopener).trans (if_pos rfl)
        · rw [Cursor.state, hdrop]
          exact .closer depth _
    · -- a comment, a string or any other character: the one kind of round that can go far
      have hlands := lands_other hc
      refine .inl ⟨⟨depth, otherEnd text c i⟩, ?_, ?_, hlands.lt, hlands.le_length⟩
      · rw [Cursor.next?, hc]
        exact (if_neg hopener).trans (if_neg hcloser)
      · rw [Cursor.state, Cursor.state, hdrop, ← hlands.rest_eq]
        exact .other hopener hcloser depth _

/-- A step of the cursor is a round of the scan, and goes forward within the text. -/
theorem Cursor.round_of_next? (h : s.next? d text = some t) :
    Round d (s.state text) (t.state text) ∧ s.index < t.index ∧ t.index ≤ text.length := by
  rcases Cursor.next?_cases d text s with ⟨t', hnext, hround⟩ | ⟨hnone, -⟩
  · rw [hnext] at h
    exact Option.some.inj h ▸ hround
  · rw [hnone] at h
    cases h

/-- **Where the loop can end:** at the end of the text, or at the closer of the block. -/
theorem Cursor.end_of_halted (ht : t.index ≤ text.length) (h : t.next? d text = none) :
    t.index = text.length ∨ t.depth = 0 ∧ text[t.index]? = some d.closer := by
  rcases Cursor.next?_cases d text t with ⟨t', hnext, -⟩ | ⟨-, hend⟩
  · rw [h] at hnext
    cases hnext
  · exact hend.imp_left (Nat.le_antisymm ht)

/-- **A round passes the scan on:** what is found from there is what was to be found. -/
theorem Cursor.afterCloser_of_next? (h : s.next? d text = some t) :
    afterCloser d s.depth (text.drop s.index) = afterCloser d t.depth (text.drop t.index) :=
  (Cursor.round_of_next? h).1.afterCloser_eq

/-- **Rounds move the offset on,** each by one at least, and leave it in the text. -/
theorem Cursor.index_of_after? (hs : s.index ≤ text.length)
    (h : Cursor.after? d text n s = some t) : s.index + n ≤ t.index ∧ t.index ≤ text.length := by
  induction n generalizing s with
  | zero =>
    obtain rfl := Option.some.inj h
    exact ⟨Nat.le_refl _, hs⟩
  | succ n ih =>
    obtain ⟨s', hround, hrest⟩ := Option.bind_eq_some_iff.mp h
    obtain ⟨-, hlt, hle⟩ := Cursor.round_of_next? hround
    have hbounds := ih hle hrest
    omega

/-- **The loop ends.** -/
theorem Cursor.exists_halted (d : Delimiter) (text : List Char) (s : Cursor) :
    ∃ n t, Cursor.after? d text n s = some t ∧ t.next? d text = none := by
  -- on the length of the text behind the offset, which every round makes shorter
  induction hlength : text.length - s.index using Nat.strongRecOn generalizing s with
  | ind k ih =>
    cases hround : s.next? d text with
    | none => exact ⟨0, s, rfl, hround⟩
    | some s' =>
      obtain ⟨-, hlt, hle⟩ := Cursor.round_of_next? hround
      obtain ⟨n, t, hrest, hhalted⟩ := ih (text.length - s'.index) (by omega) s' rfl
      refine ⟨n + 1, t, ?_, hhalted⟩
      rw [Cursor.after?, hround, Option.bind_some, hrest]

/-- After any number of steps the scan still ends where it did. -/
theorem Cursor.afterCloser_of_after? (h : Cursor.after? d text n s = some t) :
    afterCloser d s.depth (text.drop s.index) = afterCloser d t.depth (text.drop t.index) := by
  induction n generalizing s with
  | zero =>
    obtain rfl := Option.some.inj h
    rfl
  | succ n ih =>
    obtain ⟨s', hround, hrest⟩ := Option.bind_eq_some_iff.mp h
    exact (Cursor.afterCloser_of_next? hround).trans (ih hrest)

/-- **The loop ends where the scanner ends the block:** behind the closer, or at the end of the text
if the block does not close. -/
theorem closing?_of_halted {o : Nat} (ho : text[o]? = some d.opener)
    (hrun : Cursor.after? d text n ⟨0, o + 1⟩ = some t) (hhalted : t.next? d text = none) :
    closing? text o =
      some (if t.index < text.length then (t.index + 1, true) else (text.length, false)) := by
  have hbounds := Cursor.index_of_after? (s := ⟨0, o + 1⟩) (List.getElem?_eq_some_iff.mp ho).1 hrun
  rw [closing?_eq (drop_eq_opener_cons ho), Cursor.afterCloser_of_after? hrun]
  rcases Cursor.end_of_halted hbounds.2 hhalted with hend | ⟨hdepth, hcloser⟩
  · rw [if_neg (Nat.not_lt_of_le (Nat.le_of_eq hend.symm)), hend, List.drop_length,
      afterCloser.eq_def]
    rfl
  · obtain ⟨hi, hchar⟩ := List.getElem?_eq_some_iff.mp hcloser
    rw [if_pos hi, List.drop_eq_getElem_cons hi, hchar, hdepth, afterCloser_closer_zero,
      Option.elim_some, List.length_drop]
    congr 2
    omega

end Loop

/-! ### Those who call the scanner -/

/-- A block that is found ends behind the start and in the text. -/
theorem blockEnd?_bounds {text : List Char} {start stop : Nat}
    (h : blockEnd? text start = some stop) : start < stop ∧ stop ≤ text.length := by
  obtain ⟨b, hb, rfl⟩ := Option.map_eq_some_iff.mp h
  have hle := stop_le_of_opening? hb
  rw [List.length_drop] at hle
  have hpos : 0 < b.stop := by
    unfold Found.stop
    omega
  omega

open Component Pattern

/-- The attributes of a component are those of its body if a block was found: the body is never
empty. -/
theorem attributes_eq (content : List Char) (signatureEnd : Nat) (params : List Char) :
    attributes content signatureEnd params = (blockEnd? content signatureEnd).elim {} fun bodyEnd =>
      let body := (content.drop signatureEnd).take (bodyEnd - signatureEnd)
      { props := props params body, hooks := hooks body } := by
  rw [attributes]
  cases hend : blockEnd? content signatureEnd with
  | none => rfl
  | some bodyEnd => exact if_neg (Nat.not_le_of_lt (blockEnd?_bounds hend).1)

/-- The match of a call stands in front of its declaration. -/
theorem declaration_behind_call {script : List Char} {m : Regex.Match}
    (h : Vue.definePropsRuntime.search script = some m) :
    script[m.endPos]? = some '[' ∨ script[m.endPos]? = some '{' := by
  rw [Pattern.search, regex_definePropsRuntime] at h
  have htest := (leads_opener.mp (Regex.isMatch_of_search h).leads).2
  obtain ⟨c, hc, hbracket⟩ := (Option.any_eq_true _ _).mp htest
  rw [hc, Option.some_inj, Option.some_inj]
  rcases Bool.or_eq_true_iff.mp hbracket with hbracket | hbrace
  · exact .inl (beq_iff_eq.mp hbracket)
  · exact .inr (beq_iff_eq.mp hbrace)

/-- **The scan stays in the text, and its guards are exact.** Comments and strings, whether or not
they are closed, lead to a later offset in the text, and so does every round of the scan, which goes
on from there. From every opener the scan ends after at most one round for every character behind
it, and the block ends where it stands then. So a block that is found ends behind the start and in
the text; a component whose block is found has the attributes of its body; and the character behind
the call that declares props is in the text. -/
theorem scan_stays_in_text (text : List Char) :
    (∀ i, text[i]? = some '/' → text[i + 1]? = some '/' →
      Lands text i (afterLineComment (text.drop i)) (lineCommentEnd text i)) ∧
    (∀ i, text[i]? = some '/' → text[i + 1]? = some '*' →
      Lands text i (afterBlockComment (text.drop (i + 2))) (blockCommentEnd text (i + 2))) ∧
    (∀ i quote, isQuote quote = true → text[i]? = some quote →
      Lands text i (afterQuoted quote (text.drop (i + 1))) (stringEnd text quote (i + 1))) ∧
    (∀ d s t, Cursor.next? d text s = some t → s.index < t.index ∧ t.index ≤ text.length ∧
      afterCloser d s.depth (text.drop s.index) = afterCloser d t.depth (text.drop t.index)) ∧
    (∀ d o, text[o]? = some (Delimiter.opener d) →
      ∃ n t, n ≤ text.length - (o + 1) ∧ Cursor.after? d text n ⟨0, o + 1⟩ = some t ∧
        t.next? d text = none ∧
        closing? text o =
          some (if t.index < text.length then (t.index + 1, true) else (text.length, false))) ∧
    (∀ start, blockEnd? text start = none ∨
      ∃ stop, blockEnd? text start = some stop ∧ start < stop ∧ stop ≤ text.length) ∧
    (∀ signatureEnd params, attributes text signatureEnd params =
      (blockEnd? text signatureEnd).elim {} fun bodyEnd =>
        let body := (text.drop signatureEnd).take (bodyEnd - signatureEnd)
        { props := props params body, hooks := hooks body }) ∧
    ∀ m, Vue.definePropsRuntime.search text = some m →
      m.endPos < text.length ∧ (text[m.endPos]? = some '[' ∨ text[m.endPos]? = some '{') := by
  refine ⟨fun i => lands_lineComment, fun i _ => lands_blockComment, fun i quote _ => lands_string,
    fun d s t hround => ?_, fun d o ho => ?_, fun start => ?_, attributes_eq text, fun m hm => ?_⟩
  · obtain ⟨-, hlt, hle⟩ := Cursor.round_of_next? hround
    exact ⟨hlt, hle, Cursor.afterCloser_of_next? hround⟩
  · -- each round moves on by one at least, so there are no more rounds than characters behind the
    -- opener
    obtain ⟨n, t, hrun, hhalted⟩ := Cursor.exists_halted d text ⟨0, o + 1⟩
    have hbounds := Cursor.index_of_after? (s := ⟨0, o + 1⟩)
      (List.getElem?_eq_some_iff.mp ho).1 hrun
    refine ⟨n, t, ?_, hrun, hhalted, closing?_of_halted ho hrun hhalted⟩
    exact Nat.le_sub_of_add_le' (hbounds.1.trans hbounds.2)
  · cases hend : blockEnd? text start with
    | none => exact .inl rfl
    | some stop => exact .inr ⟨stop, rfl, blockEnd?_bounds hend⟩
  · -- the pattern looks at the bracket without taking it
    have hchar := declaration_behind_call hm
    refine ⟨?_, hchar⟩
    rcases hchar with hchar | hchar
    · exact (List.getElem?_eq_some_iff.mp hchar).1
    · exact (List.getElem?_eq_some_iff.mp hchar).1

/-- A string that is not closed and ends with a backslash, in the declaration of a call. -/
theorem scan_stays_in_text_backslash :
    let text := "defineProps(\x7b 'a\\".toList
    (text[14]? = some '\'' ∧ 14 < stringEnd text '\'' 15 ∧ stringEnd text '\'' 15 ≤ text.length) ∧
      (Cursor.next? .brace text ⟨0, 14⟩ = some ⟨0, 17⟩ ∧ 14 < 17 ∧ 17 ≤ text.length) ∧
      (closing? text 12 = some (17, false) ∧
        ∃ n t, n ≤ 4 ∧ Cursor.after? .brace text n ⟨0, 13⟩ = some t ∧ t.next? .brace text = none) ∧
      (blockEnd? text 12 = some 17 ∧ 12 < 17) ∧
      ∃ m, Vue.definePropsRuntime.search text = some m ∧ m.endPos < text.length := by
  intro text
  obtain ⟨-, -, hstring, hround, hloop, hblock, -, hcall⟩ := scan_stays_in_text text
  have hlands := hstring 14 '\'' rfl rfl
  have hnext : Cursor.next? .brace text ⟨0, 14⟩ = some ⟨0, 17⟩ := by decide +kernel
  have hend : blockEnd? text 12 = some 17 := by decide +kernel
  obtain ⟨n, t, hn, hrun, hhalted, -⟩ := hloop .brace 12 rfl
  obtain ⟨m, hm⟩ : ∃ m, Vue.definePropsRuntime.search text = some m :=
    Option.isSome_iff_exists.mp (by decide +kernel)
  obtain ⟨hlt, hle, -⟩ := hround .brace _ _ hnext
  refine ⟨⟨rfl, hlands.lt, hlands.le_length⟩, ⟨hnext, hlt, hle⟩,
    ⟨by decide +kernel, n, t, hn, hrun, hhalted⟩, ⟨hend, ?_⟩, m, hm, (hcall m hm).1⟩
  rcases hblock 12 with hnone | ⟨stop, hstop, hlt, -⟩
  · rw [hend] at hnone
    cases hnone
  · rwa [Option.some.inj (hend.symm.trans hstop)]

end SourceAtlas.Block
