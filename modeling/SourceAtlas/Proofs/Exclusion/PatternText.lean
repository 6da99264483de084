import SourceAtlas.Proofs.Exclusion.Glob
import SourceAtlas.Proofs.Search.Literal

/-!
# Globs as pattern texts

A glob is turned into a pattern text in three rounds: it is quoted, and then the quoted star and the
quoted question mark are replaced. Replacing parts of a text knows nothing of tokens, but nothing is
replaced that is not a token, because neither sign is left unquoted behind a backslash. So the
tokens of the pattern text are those of the glob's characters, and they can be read whatever the
characters are. What comes of it is the pattern that the glob stands for.

* `globText`, `segmentText` — the pattern texts of a glob;
* `replaceAll_spell` — replacing a quoted sign, token by token;
* `globText_eq_spell` — the tokens of a glob;
* `consumes_glob` — reading them, one piece for each character of the glob;
* `parse_globText`, `parse_segmentText` — reading the pattern texts as a whole;
* `exclusion_exact` — which paths are excluded, and that no pattern text is at fault.
-/

namespace SourceAtlas

/-! ### Replacing a quoted sign -/

namespace Regex.Reader

open Text (replaceAll replaceAll_append replaceAll_cons)

/-- A text begins with a sign only where the sign stands unquoted. -/
theorem head?_spell_ne {x : Char} (hx : x ≠ '\\') {ts : List Token} (h : .plain x ∉ ts) :
    (spell ts).head? ≠ some x := by
  cases ts with
  | nil => nofun
  | cons t ts =>
    cases t with
    | plain c =>
      intro heq
      obtain rfl := Option.some.inj heq
      exact h List.mem_cons_self
    | escaped c => exact fun heq => hx (Option.some.inj heq).symm

theorem not_prefix_pair {a b c : Char} {rest : List Char} (h : c = a → rest.head? ≠ some b) :
    ¬[a, b] <+: c :: rest := by
  rintro ⟨back, heq⟩
  obtain ⟨rfl, rfl⟩ := List.cons.inj heq
  exact h rfl rfl

/-- A token, or what stands in place of a quoted sign. -/
def replaceToken (x : Char) (new : List Token) (t : Token) : List Token :=
  if t = .escaped x then new else [t]

/-- Replacing a sign brings in no sign but those it is replaced by. -/
theorem plain_notMem_replaceToken {x d : Char} {new ts : List Token} (hts : .plain d ∉ ts)
    (hnew : .plain d ∉ new) : .plain d ∉ ts.flatMap (replaceToken x new) := by
  intro hmem
  obtain ⟨t, ht, hmem⟩ := List.mem_flatMap.mp hmem
  rw [replaceToken] at hmem
  split at hmem
  · exact hnew hmem
  · exact hts (List.mem_singleton.mp hmem ▸ ht)

/-- **Replacing a quoted sign replaces tokens,** where the sign never stands unquoted. -/
theorem replaceAll_spell {x : Char} (hx : x ≠ '\\') (new : List Token) {ts : List Token}
    (hlegible : Legible ts) (hquoted : .plain x ∉ ts) :
    replaceAll ['\\', x] (spell new) (spell ts) =
      spell (ts.flatMap (replaceToken x new)) := by
  induction ts with
  | nil => simp [spell, replaceAll]
  | cons t ts ih =>
    have hlater : .plain x ∉ ts := fun hmem => hquoted (List.mem_cons_of_mem t hmem)
    have hhead : (spell ts).head? ≠ some x := head?_spell_ne hx hlater
    rw [List.flatMap_cons, spell_append, ← ih hlegible.tail hlater, replaceToken]
    cases t with
    | plain c =>
      have hc : c ≠ '\\' := fun heq => hlegible (.plain c) List.mem_cons_self (heq ▸ rfl)
      exact replaceAll_cons (not_prefix_pair fun heq => absurd heq hc) _
    | escaped c =>
      by_cases hc : c = x
      · subst hc
        rw [if_pos rfl]
        exact replaceAll_append (List.cons_ne_nil _ _) _ _
      · -- a quoted backslash could only be taken for a quote before an unquoted sign
        rw [if_neg fun heq => hc (Token.escaped.inj heq)]
        have hquote : ¬['\\', x] <+: '\\' :: c :: spell ts :=
          not_prefix_pair fun _ heq => hc (Option.some.inj heq)
        have hsign : ¬['\\', x] <+: c :: spell ts := not_prefix_pair fun _ => hhead
        exact (replaceAll_cons hquote _).trans (congrArg _ (replaceAll_cons hsign _))

end Regex.Reader

namespace Exclusion

open Text (replaceAll)
open Regex.Reader

/-! ### The tokens of a glob -/

/-- **A glob as a pattern text.** -/
def globText (glob : List Char) : List Char :=
  replaceAll ['\\', '?'] ['.'] (replaceAll ['\\', '*'] ['.', '*'] (Regex.quote glob))

/-- The tokens of one character of a glob. -/
def globTokens (w : Char) : List Token :=
  if w = '*' then [.plain '.', .plain '*']
  else if w = '?' then [.plain '.']
  else [quotedToken w]

/-- A sign that is neither a dot nor a star never stands unquoted. -/
theorem plain_notMem_globTokens {d : Char} (hd : d ∈ Regex.specials) (hdot : d ≠ '.')
    (hstar : d ≠ '*') (w : Char) : .plain d ∉ globTokens w := by
  rw [globTokens]
  split
  · simp [hdot, hstar]
  · split
    · simp [hdot]
    · rw [List.mem_singleton]
      exact (quotedToken_ne_plain w hd).symm

/-- Quoting a character and replacing the two signs gives its tokens. -/
theorem flatMap_replaceToken_quotedToken (w : Char) :
    (replaceToken '*' [.plain '.', .plain '*'] (quotedToken w)).flatMap
      (replaceToken '?' [.plain '.']) = globTokens w := by
  have hstar : quotedToken w = .escaped '*' ↔ w = '*' := quotedToken_eq_escaped_iff (by decide)
  have hmark : quotedToken w = .escaped '?' ↔ w = '?' := quotedToken_eq_escaped_iff (by decide)
  simp only [globTokens, replaceToken, hstar]
  split
  · rfl
  · simp only [List.flatMap_singleton, replaceToken, hmark]

/-- **The tokens of a glob's pattern text** are those of its characters. -/
theorem globText_eq_spell (glob : List Char) : globText glob = spell (glob.flatMap globTokens) := by
  have hquoted : ∀ d ∈ Regex.specials, .plain d ∉ glob.map quotedToken := by
    intro d hd hmem
    obtain ⟨w, -, heq⟩ := List.mem_map.mp hmem
    exact quotedToken_ne_plain w hd heq
  -- the first replacement leaves neither of these unquoted, which the second one needs
  have hlater : ∀ d ∈ ['?', '\\'], .plain d ∉ (glob.map quotedToken).flatMap
      (replaceToken '*' [.plain '.', .plain '*']) := by
    intro d hd
    simp only [List.mem_cons, List.not_mem_nil, or_false] at hd
    rcases hd with rfl | rfl
    all_goals exact plain_notMem_replaceToken (hquoted _ (by decide)) (by decide)
  have hstar : replaceAll ['\\', '*'] ['.', '*'] (spell (glob.map quotedToken)) = _ :=
    replaceAll_spell (by decide) [.plain '.', .plain '*'] (legible_quoted glob)
      (hquoted '*' (by decide))
  have hmark : replaceAll ['\\', '?'] ['.'] (spell ((glob.map quotedToken).flatMap
      (replaceToken '*' [.plain '.', .plain '*']))) = _ :=
    replaceAll_spell (by decide) [.plain '.']
      (fun t ht heq => hlater '\\' (by decide) (heq ▸ ht)) (hlater '?' (by decide))
  rw [globText, quote_eq_spell, hstar, hmark, List.flatMap_assoc, List.flatMap_map]
  simp only [flatMap_replaceToken_quotedToken]

/-! ### Reading the tokens -/

/-- The piece that one character of a glob is read as. -/
def globPiece (scope : Scope) (w : Char) : Piece :=
  if w = '*' then repeatPiece false .greedy 0 none (charPiece (· != '\n'))
  else if w = '?' then charPiece (· != '\n')
  else codePiece scope w.toNat

/-- Tokens that do not change how what stands before them is read. -/
def Inert (ts : List Token) : Prop :=
  ∀ d ∈ ['\\', '?', '+'], .plain d ∉ ts

theorem Inert.legible {ts : List Token} (h : Inert ts) : Legible ts :=
  fun _ ht heq => h '\\' (by decide) (heq ▸ ht)

theorem Inert.append {ts ts' : List Token} (h : Inert ts) (h' : Inert ts') : Inert (ts ++ ts') :=
  fun d hd hmem => (List.mem_append.mp hmem).elim (h d hd) (h' d hd)

/-- The tokens of a glob are inert: a question mark is replaced, and a plus sign is escaped. -/
theorem inert_glob (glob : List Char) : Inert (glob.flatMap globTokens) := by
  intro d hd hmem
  obtain ⟨w, -, hmem⟩ := List.mem_flatMap.mp hmem
  simp only [List.mem_cons, List.not_mem_nil, or_false] at hd
  rcases hd with rfl | rfl | rfl
  all_goals exact plain_notMem_globTokens (by decide) (by decide) (by decide) w hmem

section Rounds

variable {scope : Scope} {r : Reading} {pieces : List Piece} {ts : List Token}
  (hts : Inert ts) (hplain : scope.IsPlain) (hflags : Flag.template ∉ r.flags)

include hts hplain hflags

/-- One character of a glob is one piece of the sequence. -/
theorem consumes_globTokens (w : Char) :
    Consumes scope r pieces (globTokens w) ts (globPiece scope w :: pieces) := by
  have hdot : ∀ {ts}, Legible ts →
      Consumes scope r pieces [.plain '.'] ts (charPiece (· != '\n') :: pieces) := fun hlegible =>
    consumes_sign hlegible hplain (List.mem_cons_self (a := ('.', charPiece (· != '\n'))))
  rw [globTokens, globPiece]
  split
  · -- the dot is one piece, and the star makes a repetition of it
    have hbehind : Legible ([.plain '*'] ++ ts) :=
      List.forall_mem_append.mpr ⟨by simp, hts.legible⟩
    have hstar : Consumes scope r (charPiece (· != '\n') :: pieces) [.plain '*'] ts
        (repeatPiece false .greedy 0 none (charPiece (· != '\n')) :: pieces) :=
      consumes_star hts.legible hplain rfl hflags
        (fun heq => hts '?' (by decide) (List.mem_of_mem_head? heq))
        (fun heq => hts '+' (by decide) (List.mem_of_mem_head? heq))
    exact (hdot hbehind).append hstar
  · split
    · exact hdot hts.legible
    · exact consumes_quotedToken hts.legible hplain w

/-- **A glob is read as the sequence of its characters.** -/
theorem consumes_glob (glob : List Char) :
    Consumes scope r pieces (glob.flatMap globTokens) ts
      ((glob.map (globPiece scope)).reverse ++ pieces) := by
  induction glob generalizing pieces with
  | nil => exact Consumes.nil
  | cons w glob ih =>
    -- what follows is the rest of the glob, so it is inert whatever the glob is
    have hrest : Inert (glob.flatMap globTokens ++ ts) := (inert_glob glob).append hts
    rw [List.flatMap_cons, List.map_cons, List.reverse_cons, List.append_assoc]
    exact (consumes_globTokens hrest hplain hflags w).append ih

end Rounds

/-! ### The patterns of a glob -/

/-- The scope of a pattern text in which case does not matter. -/
abbrev foldScope : Scope :=
  Scope.ofFlags (initialFlags true)

/-- A wildcard is read as the expression of that wildcard. -/
theorem node_globPiece (w : Char) : (globPiece foldScope w).node = globChar w := by
  rw [globPiece, globChar]
  simp only [beq_iff_eq]
  split
  · rfl
  · split
    · rfl
    · exact congrArg Regex.char (Regex.codeTest_initialFlags true w)

/-- Nothing in a glob is found fault with later on. -/
theorem late_eq_nil_of_mem {glob : List Char} :
    ∀ p ∈ (glob.map (globPiece foldScope)).reverse, p.late = [] := by
  intro p hp
  obtain ⟨w, -, rfl⟩ := List.mem_map.mp (List.mem_reverse.mp hp)
  rw [globPiece]
  split
  · rfl
  · split
    · rfl
    · rfl

/-- **The text of a glob is read as the glob,** sign by sign. -/
theorem consumes_glob_fresh {ts : List Token} (hts : Inert ts) (glob : List Char)
    (pieces : List Piece) :
    Consumes foldScope (fresh true) pieces (glob.flatMap globTokens) ts
      ((glob.map (globPiece foldScope)).reverse ++ pieces) :=
  consumes_glob hts (isPlain_initial true) (by decide) glob

/-- **Every glob has a pattern text that can be read,** as the pattern that it stands for. -/
theorem parse_globText (glob : List Char) :
    Regex.parse true (globText glob) = .ok (globRegex glob) := by
  have hread := consumes_glob_fresh (fun _ _ => List.not_mem_nil) glob []
  rw [List.append_nil] at hread
  rw [globText_eq_spell, parse_spell (inert_glob glob).legible hread late_eq_nil_of_mem,
    List.reverse_reverse, List.map_map, globRegex]
  simp only [Function.comp_def, node_globPiece]

/-- The pattern text of a glob for a whole segment. -/
def segmentText (glob : List Char) : List Char :=
  '^' :: globText glob ++ ['$']

/-- The pattern that it is read as. -/
def segmentRegex (glob : List Char) : Regex :=
  .cat (.anchor .textStart :: (glob.map globChar ++ [.anchor .lastLineEnd]))

/-- **The pattern text for a whole segment can be read, too.** -/
theorem parse_segmentText (glob : List Char) :
    Regex.parse true (segmentText glob) = .ok (segmentRegex glob) := by
  have hspell : segmentText glob =
      spell ([.plain '^'] ++ (glob.flatMap globTokens ++ [.plain '$'])) := by
    rw [spell_append, spell_append, ← globText_eq_spell]
    rfl
  have hend : Inert [.plain '$'] := by simp [Inert]
  have hrest : Inert (glob.flatMap globTokens ++ [.plain '$']) := (inert_glob glob).append hend
  -- the pattern text is read in three stretches: its first sign, the glob, its last sign
  have hstart : Consumes foldScope (fresh true) [] [.plain '^']
      (glob.flatMap globTokens ++ [.plain '$']) [anchorPiece .textStart] :=
    consumes_sign hrest.legible (isPlain_initial true) (List.mem_cons_of_mem _ List.mem_cons_self)
  have hstop : ∀ pieces, Consumes foldScope (fresh true) pieces [.plain '$'] []
      (anchorPiece .lastLineEnd :: pieces) := fun pieces =>
    consumes_sign (List.forall_mem_nil _) (isPlain_initial true)
      (List.mem_cons_of_mem _ (List.mem_cons_of_mem _ List.mem_cons_self))
  have hread : Consumes foldScope (fresh true) []
      ([.plain '^'] ++ (glob.flatMap globTokens ++ [.plain '$'])) []
      (anchorPiece .lastLineEnd ::
        ((glob.map (globPiece foldScope)).reverse ++ [anchorPiece .textStart])) := by
    refine Consumes.append ?_ ((consumes_glob_fresh hend glob _).append (hstop _))
    rw [List.append_nil]
    exact hstart
  have hlate : ∀ p ∈ anchorPiece .lastLineEnd ::
      ((glob.map (globPiece foldScope)).reverse ++ [anchorPiece .textStart]), p.late = [] :=
    List.forall_mem_cons.mpr ⟨rfl, List.forall_mem_append.mpr
      ⟨late_eq_nil_of_mem, List.forall_mem_singleton.mpr rfl⟩⟩
  have hlegible : Legible ([.plain '^'] ++ (glob.flatMap globTokens ++ [.plain '$'])) :=
    List.forall_mem_append.mpr ⟨by simp, hrest.legible⟩
  rw [hspell, parse_spell hlegible hread hlate, segmentRegex]
  simp [node_globPiece, anchorPiece, Function.comp_def]

/-- At the start of a segment, the pattern that is read matches as the one that is used. -/
theorem matchesStart_segmentRegex (glob text : List Char) :
    (segmentRegex glob).matchesStart text = matchesSegment glob text := by
  have hways : Regex.ways (segmentRegex glob) ⟨Regex.Cursor.start text, []⟩ =
      Regex.ways (.cat [globRegex glob, .anchor .lastLineEnd]) ⟨Regex.Cursor.start text, []⟩ := by
    -- nothing stands before the start
    have hstart : Regex.ways (.anchor .textStart) ⟨Regex.Cursor.start text, []⟩ =
        [⟨Regex.Cursor.start text, []⟩] := rfl
    rw [segmentRegex, Regex.ways_cat_cons, hstart, List.flatMap_singleton, Regex.ways_cat_append,
      Regex.ways_cat_cons]
    rfl
  rw [matchesSegment, Bool.eq_iff_iff, Regex.matchesStart, Regex.matchesStart,
    Regex.isSome_matchAt_iff, Regex.isSome_matchAt_iff, hways]

/-! ### Excluded paths -/

/-- **Which paths are excluded.** A pattern that is not empty excludes just the paths of one line
that it covers. Whatever the characters of a glob, its two pattern texts can be read, and the
patterns that they are read as match what is asked of the glob. -/
theorem exclusion_exact (pattern path : String) :
    (pattern ≠ "" → '\n' ∉ path.toList →
      (excludes pattern path = true ↔ Covers (slashes pattern.toList) (slashes path.toList))) ∧
    ∀ glob : List Char,
      (∃ r, Regex.parse true (globText glob) = .ok r ∧
        ∀ text, r.matchesWhole text = (globRegex glob).matchesWhole text) ∧
      ∃ r, Regex.parse true (segmentText glob) = .ok r ∧
        ∀ text, r.matchesStart text = matchesSegment glob text := by
  refine ⟨excludes_iff_covers, fun glob => ⟨?_, ?_⟩⟩
  · exact ⟨globRegex glob, parse_globText glob, fun _ => rfl⟩
  · exact ⟨segmentRegex glob, parse_segmentText glob, matchesStart_segmentRegex glob⟩

/-- A segment of signs that mean something else in a pattern text. -/
theorem exclusion_exact_signs :
    "*/c++/*" ≠ "" ∧ '\n' ∉ "src\\C++\\main.h".toList ∧
      excludes "*/c++/*" "src\\C++\\main.h" = true := by
  have hpattern : "*/c++/*" ≠ "" := by decide
  have hline : '\n' ∉ "src\\C++\\main.h".toList := by decide
  refine ⟨hpattern, hline, ((exclusion_exact _ _).1 hpattern hline).mpr ?_⟩
  have hsegment : ['c', '+', '+'] ∈ Text.splitOn '/' (slashes "*/c++/*".toList) := by decide
  have hpart : ['C', '+', '+'] ∈ Text.splitOn '/' (slashes "src\\C++\\main.h".toList) := by decide
  exact .segment hsegment ⟨'c', by decide⟩ hpart (by decide)

end Exclusion

end SourceAtlas
