import SourceAtlas.Proofs.Regex.Literal
import SourceAtlas.Proofs.Regex.Tokens

/-!
# Quoted terms

A term is turned into a pattern text by a backslash before each character that has, or might be
given, a meaning of its own there. Reading the pattern text gives back the pattern of the term,
whatever characters it has: a quoted term is one token for each character, and no token is left that
a reader takes for anything but the character.

* `quote` — a term as a pattern text;
* `quote_eq_spell` — its tokens;
* `consumes_quoted` — reading it as a sequence, one piece for each character;
* `parse_quote` — reading it as a whole.
-/

namespace SourceAtlas.Regex

/-- **A term as a pattern text.** -/
def quote (term : List Char) : List Char :=
  term.flatMap fun c => if c ∈ specials then ['\\', c] else [c]

namespace Reader

/-- The token of a character in a quoted term. -/
def quotedToken (c : Char) : Token :=
  if c ∈ specials then .escaped c else .plain c

/-- Quoting is spelling each character with a token of its own. -/
theorem quote_eq_spell (term : List Char) : quote term = spell (term.map quotedToken) := by
  rw [quote, spell, List.flatMap_map]
  congr 1
  funext c
  rw [quotedToken]
  split
  · rfl
  · rfl

/-- A character with a meaning of its own never stands unquoted. -/
theorem quotedToken_ne_plain (c : Char) {d : Char} (hd : d ∈ specials) :
    quotedToken c ≠ .plain d := by
  intro heq
  rw [quotedToken] at heq
  split at heq
  · cases heq
  · next hc =>
    obtain rfl := Token.plain.inj heq
    exact hc hd

theorem quotedToken_eq_escaped_iff {c d : Char} (hd : d ∈ specials) :
    quotedToken c = .escaped d ↔ c = d := by
  rw [quotedToken]
  split
  · exact ⟨Token.escaped.inj, congrArg _⟩
  · next hc => exact iff_of_false nofun fun heq => hc (heq ▸ hd)

theorem legible_quoted (term : List Char) : Legible (term.map quotedToken) := by
  intro t ht
  obtain ⟨c, -, rfl⟩ := List.mem_map.mp ht
  exact quotedToken_ne_plain c (by decide)

section Rounds

variable {scope : Scope} {r : Reading} {pieces : List Piece} {ts : List Token}

/-- One character of a quoted term is one piece of the sequence. -/
theorem consumes_quotedToken (hlegible : Legible ts) (hplain : scope.IsPlain) (c : Char) :
    Consumes scope r pieces [quotedToken c] ts (codePiece scope c.toNat :: pieces) := by
  rw [quotedToken]
  split
  · next hc => exact consumes_escaped hlegible hplain hc
  · next hc => exact consumes_plain hlegible hplain hc

/-- **A quoted term is read as the sequence of its characters.** -/
theorem consumes_quoted (hlegible : Legible ts) (hplain : scope.IsPlain) (term : List Char) :
    Consumes scope r pieces (term.map quotedToken) ts
      ((term.map fun c => codePiece scope c.toNat).reverse ++ pieces) := by
  induction term generalizing pieces with
  | nil => exact Consumes.nil
  | cons c cs ih =>
    have hrest : Legible (cs.map quotedToken ++ ts) :=
      List.forall_mem_append.mpr ⟨legible_quoted cs, hlegible⟩
    rw [List.map_cons, List.map_cons, List.reverse_cons, List.append_assoc]
    exact (consumes_quotedToken hrest hplain c).append ih

end Rounds

end Reader

open Reader

/-- The sameness of characters in a pattern text without flags, or with the flag for case. -/
def sameUnder (ignoreCase : Bool) : Char → Char → Bool :=
  if ignoreCase then Text.sameFold else asIs

/-- With no flags but that for case, a code is compared as a character is. -/
theorem codeTest_initialFlags (ignoreCase : Bool) (c : Char) :
    (Scope.ofFlags (initialFlags ignoreCase)).alphabet.codeTest c.toNat =
      sameUnder ignoreCase c := by
  funext ch
  cases ignoreCase with
  | true => exact Bool.beq_comm
  | false =>
    change (ch.toNat == c.toNat) = (ch == c)
    rw [Bool.eq_iff_iff, beq_iff_eq, beq_iff_eq, Char.toNat_inj]

/-- **Reading a quoted term gives the pattern of the term.** -/
theorem parse_quote (ignoreCase : Bool) (term : List Char) :
    parse ignoreCase (quote term) = .ok (literal (sameUnder ignoreCase) term) := by
  have hread := parse_spell (legible_quoted term)
    (consumes_quoted (List.forall_mem_nil _) (isPlain_initial ignoreCase) term) <| by
      intro p hp
      rw [List.append_nil, List.mem_reverse] at hp
      obtain ⟨c, -, rfl⟩ := List.mem_map.mp hp
      rfl
  rw [quote_eq_spell, hread, List.append_nil, List.reverse_reverse, List.map_map, literal]
  congr 2
  refine List.map_congr_left fun c _ => ?_
  exact congrArg Regex.char (codeTest_initialFlags ignoreCase c)

end SourceAtlas.Regex
