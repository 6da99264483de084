import SourceAtlas.Regex.Parse

/-!
# Reading the tokens of a pattern text

A pattern text is the text of its tokens, and as long as no backslash stands alone the tokens can be
read back from it. What a reader does in a sequence is then a matter of one token at a time: each
round takes a token and changes the pieces read so far, and `Consumes` puts rounds together without
their offsets, which nothing depends on as long as nothing goes wrong. A pattern text whose tokens
are consumed to the end is read as the sequence of the pieces that came of them.

* `spell` — the text of some tokens; `tokenOf_spell` reads one of them back;
* `Consumes` — some rounds of reading a sequence;
* `consumes_plain`, `consumes_escaped`, `consumes_sign`, `consumes_star` — one round for each kind
  of token;
* `parse_spell` — the pattern of a text whose tokens are consumed.
-/

namespace SourceAtlas.Regex

/-- The characters that have, or might be given, a meaning of their own in a pattern text. -/
def specials : List Char :=
  ['(', ')', '[', ']', '{', '}', '?', '*', '+', '-', '|', '^', '$', '\\', '.', '&', '~', '#', ' ',
    '\t', '\n', '\r', '\x0b', '\x0c']

namespace Reader

/-- The text of some tokens. -/
def spell (ts : List Token) : List Char :=
  ts.flatMap Token.text

/-- No backslash stands alone, so that the tokens can be read back from their text. -/
def Legible (ts : List Token) : Prop :=
  ∀ t ∈ ts, t ≠ .plain '\\'

/-- The state in which some tokens are still to be read. -/
def toRead (r : Reading) (ts : List Token) (pos : Nat) : Reading :=
  { r with next := ts.head?, rest := spell ts.tail, pos }

theorem Legible.tail {t : Token} {ts : List Token} (h : Legible (t :: ts)) : Legible ts :=
  fun t' ht' => h t' (List.mem_cons_of_mem t ht')

theorem spell_append (ts ts' : List Token) : spell (ts ++ ts') = spell ts ++ spell ts' :=
  List.flatMap_append

/-! ### Tokens -/

/-- A text that was spelled is read back token by token. -/
theorem tokenOf_spell {ts : List Token} (h : Legible ts) (pos : Nat) :
    tokenOf (spell ts) pos = .ok (ts.head?, spell ts.tail) := by
  cases ts with
  | nil => rfl
  | cons t ts =>
    cases t with
    | escaped c => rfl
    | plain c =>
      have hne : c ≠ '\\' := fun heq => h (.plain c) List.mem_cons_self (heq ▸ rfl)
      change tokenOf (c :: spell ts) pos = _
      unfold tokenOf
      split
      · next h => cases h
      · next h => exact absurd (List.cons.inj h).1 hne
      · next h => exact absurd (List.cons.inj h).1 hne
      · next h =>
        obtain ⟨rfl, rfl⟩ := List.cons.inj h
        rfl

/-- Moving over a token of a text that was spelled. -/
theorem run_advance (r : Reading) (t : Token) {ts : List Token} (h : Legible ts) (pos : Nat) :
    advance.run (toRead r (t :: ts) pos) = .ok ((), toRead r ts (pos + t.text.length)) := by
  have htoken := tokenOf_spell h (pos + t.text.length)
  simp only [advance, StateT.run_bind, StateT.run_get, toRead, List.head?_cons, Option.map_some,
    Option.getD_some, List.tail_cons, pure_bind]
  rw [htoken]
  rfl

/-- An escaped special character stands for itself. -/
theorem run_escape {c : Char} (hc : c ∈ specials) (scope : Scope) (r : Reading) :
    (escape scope c).run r = .ok (codePiece scope c.toNat, r) := by
  simp only [specials, List.mem_cons, List.not_mem_nil, or_false] at hc
  rcases hc with rfl | rfl | rfl | rfl | rfl | rfl | rfl | rfl | rfl | rfl | rfl | rfl | rfl | rfl |
    rfl | rfl | rfl | rfl | rfl | rfl | rfl | rfl | rfl | rfl
  all_goals rfl

/-- A sign that is not there is not taken, and nothing changes. -/
theorem run_accept_of_ne {c : Char} {s : Reading} (h : s.next ≠ some (.plain c)) :
    (accept c).run s = pure (false, s) := by
  simp only [accept, StateT.run_bind, StateT.run_get, pure_bind, if_neg h]
  rfl

/-- Nothing behind the sign says that the repetition is of another kind than usual. -/
theorem run_repetition {p : Piece} (hrole : p.role = .item) {s : Reading}
    (hflags : Flag.template ∉ s.flags) (hfew : s.next ≠ some (.plain '?'))
    (hall : s.next ≠ some (.plain '+')) (here least : Nat) (most : Option Nat)
    (pieces : List Piece) :
    (repetition here least most (p :: pieces)).run s =
      .ok (repeatPiece false .greedy least most p :: pieces, s) := by
  have hgreed : greed.run s = pure (.greedy, s) := by
    simp only [greed, StateT.run_bind, run_accept_of_ne hfew, run_accept_of_ne hall, pure_bind,
      Bool.false_eq_true, if_false]
    rfl
  have hforbidden : s.flags.contains Flag.template = false := by
    rw [List.contains_eq_mem]
    exact decide_eq_false hflags
  simp only [repetition, hrole, StateT.run_bind, StateT.run_get, pure_bind, hgreed]
  change Except.ok
    (repeatPiece (s.flags.contains Flag.template) .greedy least most p :: pieces, s) = _
  rw [hforbidden]

/-! ### Rounds -/

/-- A scope in which signs have their plain meaning. -/
structure Scope.IsPlain (scope : Scope) : Prop where
  /-- Blanks are not left out. -/
  verbose : scope.verbose = false
  /-- The dot leaves out newlines. -/
  dotAll : scope.dotAll = false
  /-- Line anchors are for the whole text. -/
  multiline : scope.multiline = false

/-- The signs that are pieces by themselves in a plain scope. -/
def signs : List (Char × Piece) :=
  [('.', charPiece (· != '\n')), ('^', anchorPiece .textStart), ('$', anchorPiece .lastLineEnd)]

/-- **Some rounds of reading a sequence,** one for each token at the front, turn the pieces read so
far into others. -/
def Consumes (scope : Scope) (r : Reading) (pieces : List Piece) (front ts : List Token)
    (pieces' : List Piece) : Prop :=
  ∀ leading n pos, ∃ pos',
    (sequence 0 leading scope pieces (n + front.length)).run (toRead r (front ++ ts) pos) =
      (sequence 0 leading scope pieces' n).run (toRead r ts pos')

section Rounds

variable {scope : Scope} {r : Reading} {pieces pieces' pieces'' : List Piece}
  {front mid ts : List Token}

theorem Consumes.nil : Consumes scope r pieces [] ts pieces :=
  fun _ _ pos => ⟨pos, rfl⟩

/-- Reading one token as one piece. -/
theorem Consumes.single {t : Token}
    (h : ∀ leading n pos, ∃ pos',
      (sequence 0 leading scope pieces (n + 1)).run (toRead r (t :: ts) pos) =
        (sequence 0 leading scope pieces' n).run (toRead r ts pos')) :
    Consumes scope r pieces [t] ts pieces' :=
  h

/-- Reading one stretch of tokens and then another. -/
theorem Consumes.append (h : Consumes scope r pieces front (mid ++ ts) pieces')
    (h' : Consumes scope r pieces' mid ts pieces'') :
    Consumes scope r pieces (front ++ mid) ts pieces'' := by
  intro leading n pos
  obtain ⟨pos', hfirst⟩ := h leading (n + mid.length) pos
  obtain ⟨pos'', hthen⟩ := h' leading n pos'
  refine ⟨pos'', ?_⟩
  rw [List.length_append, Nat.add_comm front.length, ← Nat.add_assoc, List.append_assoc, hfirst,
    hthen]

section Tokens

variable (hlegible : Legible ts) (hplain : scope.IsPlain)

include hlegible hplain

/-- An escaped character that stands for itself. -/
theorem consumes_escaped {c : Char} (hc : c ∈ specials) :
    Consumes scope r pieces [.escaped c] ts (codePiece scope c.toNat :: pieces) := by
  refine Consumes.single fun leading n pos => ?_
  have hadvance := run_advance r (.escaped c) hlegible pos
  have hescape := run_escape hc scope
  have hnext : (toRead r (.escaped c :: ts) pos).next = some (.escaped c) := rfl
  refine ⟨pos + 2, ?_⟩
  rw [sequence]
  simp only [StateT.run_bind, StateT.run_get, pure_bind, hnext, reduceCtorEq, decide_false,
    Bool.or_self, Bool.false_eq_true, if_false, hplain.verbose,
    Bool.false_and]
  rw [hadvance]
  change (escape scope c).run _ >>= _ = _
  rw [hescape]
  rfl

/-- A character that stands for itself. -/
theorem consumes_plain {c : Char} (hc : c ∉ specials) :
    Consumes scope r pieces [.plain c] ts (codePiece scope c.toNat :: pieces) := by
  refine Consumes.single fun leading n pos => ?_
  have hadvance := run_advance r (.plain c) hlegible pos
  have hnext : (toRead r (.plain c :: ts) pos).next = some (.plain c) := rfl
  have hne : ∀ d ∈ specials, c ≠ d := fun d hd heq => hc (heq ▸ hd)
  have hstop : (decide (c = '|') || decide (c = ')')) = false := by
    simp [hne '|' (by decide), hne ')' (by decide)]
  have hrepeat :
      (decide (c = '*') || decide (c = '+') || decide (c = '?') || decide (c = '{')) = false := by
    simp [hne '*' (by decide), hne '+' (by decide), hne '?' (by decide), hne '{' (by decide)]
  refine ⟨pos + 1, ?_⟩
  rw [sequence]
  simp only [StateT.run_bind, StateT.run_get, pure_bind, hnext, Token.plain.injEq, hstop,
    hplain.verbose, Bool.false_and, Bool.false_eq_true, if_false]
  rw [hadvance]
  -- none of the signs that mean something else is left unquoted
  split
  · next heq => cases heq
  · next heq => exact absurd (Token.plain.inj heq) (hne _ (by decide))
  · next heq => exact absurd (Token.plain.inj heq) (hne _ (by decide))
  · next heq => exact absurd (Token.plain.inj heq) (hne _ (by decide))
  · next heq => exact absurd (Token.plain.inj heq) (hne _ (by decide))
  · next heq => exact absurd (Token.plain.inj heq) (hne _ (by decide))
  · next heq =>
    obtain rfl := Token.plain.inj heq
    rw [if_neg (by rw [hrepeat]; exact Bool.false_ne_true)]
    rfl

/-- A sign that is a piece by itself. -/
theorem consumes_sign {sign : Char × Piece} (hsign : sign ∈ signs) :
    Consumes scope r pieces [.plain sign.1] ts (sign.2 :: pieces) := by
  refine Consumes.single fun leading n pos => ?_
  have hadvance := run_advance r (.plain sign.1) hlegible pos
  have hnext : (toRead r (.plain sign.1 :: ts) pos).next = some (.plain sign.1) := rfl
  refine ⟨pos + 1, ?_⟩
  simp only [signs, List.mem_cons, List.not_mem_nil, or_false] at hsign
  rw [sequence]
  -- one round of the reader, evaluated for each of the signs
  rcases hsign with rfl | rfl | rfl
  all_goals
    simp only [StateT.run_bind, StateT.run_get, pure_bind, hnext, Token.plain.injEq, Char.reduceEq,
      decide_false, Bool.or_self, Bool.false_eq_true, if_false, hplain.verbose, hplain.dotAll,
      hplain.multiline, Bool.false_and]
    rw [hadvance]
    rfl

/-- A repetition of the last piece, if nothing behind the star says that it is of another kind. -/
theorem consumes_star {p : Piece} (hrole : p.role = .item) (hflags : Flag.template ∉ r.flags)
    (hfew : ts.head? ≠ some (.plain '?')) (hall : ts.head? ≠ some (.plain '+')) :
    Consumes scope r (p :: pieces) [.plain '*'] ts
      (repeatPiece false .greedy 0 none p :: pieces) := by
  refine Consumes.single fun leading n pos => ?_
  have hadvance := run_advance r (.plain '*') hlegible pos
  have hnext : (toRead r (.plain '*' :: ts) pos).next = some (.plain '*') := rfl
  refine ⟨pos + 1, ?_⟩
  rw [sequence]
  simp only [StateT.run_bind, StateT.run_get, pure_bind, hnext, Token.plain.injEq, Char.reduceEq,
    decide_false, Bool.or_self, Bool.false_eq_true, if_false, hplain.verbose,
    Bool.false_and]
  rw [hadvance]
  change (repetition _ 0 none (p :: pieces)).run (toRead r ts (pos + 1)) >>= _ = _
  rw [run_repetition (s := toRead r ts (pos + 1)) hrole hflags hfew hall]
  rfl

end Tokens

end Rounds

/-! ### Whole texts -/

/-- The flags of a text that has none of its own. -/
def initialFlags (ignoreCase : Bool) : List Flag :=
  if ignoreCase then [.ignoreCase] else []

/-- The state at the very start of a pattern text. -/
def fresh (ignoreCase : Bool) : Reading :=
  { next := none, rest := [], pos := 0, flags := initialFlags ignoreCase, names := [], widths := [],
    behindFrom := none, conditions := [] }

theorem isPlain_initial (ignoreCase : Bool) :
    (Scope.ofFlags (initialFlags ignoreCase)).IsPlain := by
  cases ignoreCase with
  | true => exact ⟨rfl, rfl, rfl⟩
  | false => exact ⟨rfl, rfl, rfl⟩

/-- A token is at least one character. -/
theorem length_le_length_spell (ts : List Token) : ts.length ≤ (spell ts).length := by
  induction ts with
  | nil => exact Nat.le_refl 0
  | cons t ts ih =>
    have hspell : (spell (t :: ts)).length = t.text.length + (spell ts).length :=
      List.length_append
    have htext : 1 ≤ t.text.length := by
      cases t with
      | plain c => exact Nat.le_refl 1
      | escaped c => exact Nat.le_succ 1
    rw [hspell, List.length_cons]
    omega

/-- A part without late faults is accepted at the end of a text. -/
theorem run_finish (ignoreCase : Bool) {p : Part} (hp : p.late = []) (pos : Nat) :
    (finish p).run (toRead (fresh ignoreCase) [] pos) =
      .ok (p.node, toRead (fresh ignoreCase) [] pos) := by
  have hascii : (initialFlags ignoreCase).contains Flag.ascii = false := by
    cases ignoreCase <;> rfl
  have hr : (toRead (fresh ignoreCase) [] pos).flags = initialFlags ignoreCase := rfl
  simp only [finish, StateT.run_bind, StateT.run_get, pure_bind, hr, hascii, Bool.false_and,
    Bool.false_eq_true, if_false, hp]
  rfl

/-- **A text whose tokens are consumed** is read as the sequence of the pieces that came of them. -/
theorem parse_spell {ignoreCase : Bool} {ts : List Token} {pieces : List Piece}
    (hlegible : Legible ts)
    (h : Consumes (Scope.ofFlags (initialFlags ignoreCase)) (fresh ignoreCase) [] ts [] pieces)
    (hlate : ∀ p ∈ pieces, p.late = []) :
    parse ignoreCase (spell ts) = .ok (cat (pieces.reverse.map fun p => p.node)) := by
  have hstart : Reading.start (initialFlags ignoreCase) (spell ts) =
      .ok (toRead (fresh ignoreCase) ts 0) := by
    rw [Reading.start, tokenOf_spell hlegible]
    rfl
  -- one branch, one sequence: each token takes a round, and one more sees the end
  have hrounds := length_le_length_spell ts
  obtain ⟨n, hn⟩ : ∃ n, 3 * (spell ts).length + 5 = n + 1 + ts.length :=
    ⟨3 * (spell ts).length + 4 - ts.length, by omega⟩
  obtain ⟨pos, hread⟩ := h true (n + 1) 0
  rw [List.append_nil, ← hn] at hread
  have hsequence : (sequence 0 true (Scope.ofFlags (initialFlags ignoreCase)) []
      (3 * (spell ts).length + 5)).run (toRead (fresh ignoreCase) ts 0) =
      .ok (Part.ofPieces pieces, toRead (fresh ignoreCase) [] pos) := by
    rw [hread, sequence]
    rfl
  have hlate' : (Part.ofPieces pieces).late = [] := by
    refine List.flatMap_eq_nil_iff.mpr fun p hp => ?_
    exact hlate p (List.mem_reverse.mp hp)
  have hfinish := run_finish ignoreCase hlate' pos
  have halternation : (alternation 0 true (Scope.ofFlags (initialFlags ignoreCase)) []
      (3 * (spell ts).length + 6)).run (toRead (fresh ignoreCase) ts 0) =
      .ok (Part.ofPieces pieces, toRead (fresh ignoreCase) [] pos) := by
    rw [alternation, StateT.run_bind]
    change (sequence 0 true _ [] _).run _ >>= _ = _
    rw [hsequence]
    rfl
  unfold parse
  change (do let start ← Reading.start (initialFlags ignoreCase) (spell ts); _) = _
  rw [hstart]
  change Prod.fst <$> (alternation 0 true (Scope.ofFlags (initialFlags ignoreCase)) [] _ >>=
    finish).run _ = _
  rw [StateT.run_bind, halternation]
  change Prod.fst <$> (finish _).run _ = _
  rw [hfinish]
  rfl

end Reader

end SourceAtlas.Regex
