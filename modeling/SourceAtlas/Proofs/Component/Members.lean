import SourceAtlas.Component.Options
import SourceAtlas.Proofs.Regex.Identifiers

/-!
# The members of a block are the names at the start of its lines

The pattern of a member is anchored at the start of a line, takes blanks, an identifier, blanks
again and a colon. Line ends are blanks. So the line where a match starts need not be the line of
the name, and the line where it ends need not be that line either: a match may pass several starts
of lines, and a search does not come back to what a match has passed. What a member is, is said here
without matches: a whole identifier with nothing but blanks before it on its own line, in front of a
colon (`IsMember`).

* A match that starts further up reaches the name over blank lines only, so the name is the first
  thing on its line (`exists_lineStart`), and it is no part of a longer identifier
  (`Spells.isMember`).
* Whatever line starts a match passes, the first thing behind it that is not blank is the name of
  the match or its colon (`Spells.start_eq`). So a member whose line start was passed is the one
  that the match names, and none is lost.
* Matches do not overlap, and each holds its name, so none is reported twice.

* `leads_propertyMember` — where the pattern leads;
* `members_are_the_names_at_line_starts` — the members of a block, as a list.
-/

namespace SourceAtlas.Component

open Pattern Regex

variable {text : List Char} {i j start stop colon : Nat}

/-! ### Members -/

/-- Blanks that do not end a line. -/
def isInnerBlank (c : Char) : Bool :=
  Text.isBlank c && c != '\n'

/-- **A member of a block:** a whole identifier that is the first thing on its line, in front of a
colon. Blanks may stand between, and the colon may stand on a later line. -/
structure IsMember (text : List Char) (start stop : Nat) : Prop where
  /-- It is a whole identifier. -/
  whole : IsWhole text start stop
  /-- On its line only blanks stand before it. -/
  first : ∃ line ≤ start, AtLineStart text line ∧ Covered isInnerBlank text line start
  /-- Behind blanks there is a colon. -/
  colon : ∃ k ≥ stop, Covered Text.isBlank text stop k ∧ text[k]? = some ':'

/-- What the pattern of a member reads, from an offset on: a line start, blanks, an identifier,
blanks, and a colon. -/
structure Spells (text : List Char) (i start stop colon : Nat) : Prop where
  /-- It starts with a line. -/
  line : AtLineStart text i
  /-- The name stands behind. -/
  le_start : i ≤ start
  /-- Blanks are in front of the name. -/
  lead : Covered Text.isBlank text i start
  /-- The name is an identifier. -/
  name : Leads ident text start stop
  /-- The colon stands behind. -/
  le_colon : stop ≤ colon
  /-- Blanks are in front of the colon. -/
  gap : Covered Text.isBlank text stop colon
  /-- The colon. -/
  colon : text[colon]? = some ':'

theorem regex_propertyMember : Vue.propertyMember.regex =
    cat ([.anchor .lineStart, blanks] ++ .group 1 ident :: [blanks, lit ':']) := rfl

/-- In front of a member: the start of a line, and blanks. -/
theorem leads_memberFront : Leads (cat [.anchor .lineStart, blanks]) text i j ↔
    AtLineStart text i ∧ i ≤ j ∧ j ≤ text.length ∧ Covered Text.isBlank text i j := by
  rw [leads_cat_cons rfl]
  constructor
  · rintro ⟨i', hline, hblanks⟩
    obtain ⟨-, rfl, hline⟩ := leads_lineStart.mp hline
    exact ⟨hline, leads_star_char.mp hblanks⟩
  · rintro ⟨hline, hblanks⟩
    have hi : i ≤ text.length := Nat.le_trans hblanks.1 hblanks.2.1
    exact ⟨i, leads_lineStart.mpr ⟨hi, rfl, hline⟩, leads_star_char.mpr hblanks⟩

/-- Behind the name of a member: blanks, and a colon. -/
theorem leads_memberBack : Leads (cat [blanks, lit ':']) text i j ↔
    ∃ k, j = k + 1 ∧ i ≤ k ∧ Covered Text.isBlank text i k ∧ text[k]? = some ':' := by
  rw [leads_cat_cons rfl]
  constructor
  · rintro ⟨k, hblanks, hlast⟩
    obtain ⟨rfl, hcolon⟩ := leads_lit.mp hlast
    obtain ⟨hle, -, hcovered⟩ := leads_star_char.mp hblanks
    exact ⟨k, rfl, hle, hcovered, hcolon⟩
  · rintro ⟨k, rfl, hle, hcovered, hcolon⟩
    have hk : k < text.length := (List.getElem?_eq_some_iff.mp hcolon).1
    exact ⟨k, leads_star_char.mpr ⟨hle, Nat.le_of_lt hk, hcovered⟩, leads_lit.mpr ⟨rfl, hcolon⟩⟩

/-- **Where the pattern leads:** behind the colon of what it reads. -/
theorem leads_propertyMember : Leads Vue.propertyMember.regex text i j ↔
    ∃ start stop colon, Spells text i start stop colon ∧ j = colon + 1 := by
  rw [regex_propertyMember, leads_cat_append rfl]
  constructor
  · rintro ⟨start, hfront, h⟩
    obtain ⟨stop, hname, hback⟩ := (leads_cat_cons rfl).mp h
    obtain ⟨hline, hle, -, hlead⟩ := leads_memberFront.mp hfront
    obtain ⟨colon, rfl, hle', hgap, hcolon⟩ := leads_memberBack.mp hback
    exact ⟨start, stop, colon, ⟨hline, hle, hlead, leads_group.mp hname, hle', hgap, hcolon⟩, rfl⟩
  · rintro ⟨start, stop, colon, h, rfl⟩
    exact ⟨start, leads_memberFront.mpr ⟨h.line, h.le_start, h.name.le_length, h.lead⟩,
      (leads_cat_cons rfl).mpr ⟨stop, leads_group.mpr h.name,
        leads_memberBack.mpr ⟨colon, rfl, h.le_colon, h.gap, h.colon⟩⟩⟩

/-! ### What is read is a member -/

/-- From a line start over blanks, the last line start in front of a place is found. -/
theorem exists_lineStart (hline : AtLineStart text i) (hle : i ≤ start)
    (hlead : Covered Text.isBlank text i start) :
    ∃ line ≤ start, AtLineStart text line ∧ Covered isInnerBlank text line start := by
  induction start, hle using Nat.le_induction with
  | base => exact ⟨i, Nat.le_refl i, hline, fun k hk hlt => absurd hlt (Nat.not_lt_of_le hk)⟩
  | succ start hle ih =>
    obtain ⟨line, hle', hline', hcovered⟩ := ih fun k hk hlt => hlead k hk (Nat.lt_succ_of_lt hlt)
    obtain ⟨c, hc, hblank⟩ := (Option.any_eq_true _ _).mp (hlead start hle (Nat.lt_succ_self start))
    by_cases hend : c = '\n'
    · -- a new line starts here
      subst hend
      exact ⟨start + 1, Nat.le_refl _, .inr hc, fun k hk hlt => absurd hlt (Nat.not_lt_of_le hk)⟩
    · refine ⟨line, Nat.le_succ_of_le hle', hline', fun k hk hlt => ?_⟩
      rcases Nat.lt_or_eq_of_le (Nat.le_of_lt_succ hlt) with hlt | rfl
      · exact hcovered k hk hlt
      · rw [hc, Option.any_some, isInnerBlank, hblank, Bool.true_and, bne_iff_ne]
        exact hend

theorem covered_isBlank_of_isInnerBlank (h : Covered isInnerBlank text i j) :
    Covered Text.isBlank text i j := by
  intro k hk hlt
  obtain ⟨c, hc, hinner⟩ := (Option.any_eq_true _ _).mp (h k hk hlt)
  rw [hc]
  exact (Bool.and_eq_true_iff.mp hinner).1

/-- The first character of an identifier is not blank. -/
theorem not_blank_of_leads_ident (h : Leads ident text start stop) :
    text[start]?.any Text.isBlank = false := by
  obtain ⟨hlt, -, hcovered⟩ := leads_ident.mp h
  obtain ⟨c, hc, hcontinuer⟩ := (Option.any_eq_true _ _).mp (hcovered start (Nat.le_refl _) hlt)
  rw [hc]
  exact isBlank_of_isScriptContinuer hcontinuer

theorem not_blank_colon (h : text[colon]? = some ':') : text[colon]?.any Text.isBlank = false := by
  rw [h]
  decide

/-- **The name that the pattern reads is a member.** -/
theorem Spells.isMember (h : Spells text i start stop colon) : IsMember text start stop where
  whole := by
    have hstop : Leads blanks text stop colon :=
      leads_star_char.mpr ⟨h.le_colon, Nat.le_of_lt (List.getElem?_eq_some_iff.mp h.colon).1, h.gap⟩
    obtain ⟨-, hlast⟩ := break_of_leads_blanks (by decide) hstop h.colon
    have hlt := (leads_ident.mp h.name).1
    refine .of_break h.name hlast fun q hq _ => ?_
    -- the character in front of the name is a blank, or it ends the line before
    rcases Nat.eq_or_lt_of_le h.le_start with rfl | hlead
    · rcases h.line with hzero | hnewline
      · omega
      · refine ⟨i - 1, by omega, by omega, ?_⟩
        rw [hnewline]
        rfl
    · exact ⟨start - 1, by omega, by omega,
        not_continuer_of_blank (h.lead (start - 1) (by omega) (by omega))⟩
  first := exists_lineStart h.line h.le_start h.lead
  colon := ⟨colon, h.le_colon, h.gap, h.colon⟩

/-- Every member is read from the start of its line. -/
theorem IsMember.exists_spells (h : IsMember text start stop) :
    ∃ line colon, Spells text line start stop colon := by
  obtain ⟨line, hle, hline, hcovered⟩ := h.first
  obtain ⟨colon, hle', hgap, hcolon⟩ := h.colon
  exact ⟨line, colon, hline, hle, covered_isBlank_of_isInnerBlank hcovered, h.whole.leads, hle',
    hgap, hcolon⟩

/-- **A line start that is passed has the same name behind it.** Where what the pattern reads from
one offset goes over the start of a line, nothing else can be read from that line start. -/
theorem Spells.start_eq {line start' stop' colon' : Nat} (h : Spells text i start stop colon)
    (h' : Spells text line start' stop' colon') (hle : i ≤ line) (hpass : line ≤ colon) :
    start' = start := by
  have hname' := not_blank_of_leads_ident h'.name
  rcases Nat.lt_or_ge start line with hlt | hge
  · -- behind the name a line start is followed by blanks and the colon, and a colon starts no name
    have hstop : stop ≤ line := by
      refine Nat.le_of_not_lt fun hinside => ?_
      rcases h'.line with hzero | hnewline
      · omega
      · have hcontinuer := (leads_ident.mp h.name).2.2 (line - 1) (by omega) (by omega)
        rw [hnewline] at hcontinuer
        cases hcontinuer
    obtain rfl : start' = colon := eq_of_covered_of_not h'.le_start hpass h'.lead
      (h.gap.of_le hstop) hname' (not_blank_colon h.colon)
    have hopener := (leads_ident.mp h'.name).2.1
    rw [h.colon] at hopener
    cases hopener
  · exact eq_of_covered_of_not h'.le_start hge h'.lead (h.lead.of_le hle) hname'
      (not_blank_of_leads_ident h.name)

/-- A whole identifier ends at one place. -/
theorem IsMember.stop_eq {stop' : Nat} (h : IsMember text start stop)
    (h' : IsMember text start stop') : stop = stop' := by
  have hle : ∀ {a b}, IsMember text start a → IsMember text start b → a ≤ b := by
    intro a b ha hb
    refine Nat.le_of_not_lt fun hlt => ?_
    have hcontinues := (leads_ident.mp ha.whole.leads).2.2 b (Nat.le_of_lt hb.whole.lt) hlt
    rw [hb.whole.last] at hcontinues
    cases hcontinues
  exact Nat.le_antisymm (hle h h') (hle h' h)

/-! ### The list of members -/

/-- Where the name of a match stands. -/
def nameSpan (m : Match) : Nat × Nat :=
  ((m.final.capture? 1).map fun c => (c.start.pos, c.stop.pos)).getD (0, 0)

/-- **What a match reports:** the name that it has read. -/
theorem spells_of_mem_findAll {m : Match} (hm : m ∈ Vue.propertyMember.findAll text) :
    Spells text m.startPos (nameSpan m).1 (nameSpan m).2 (m.endPos - 1) ∧ m.startPos < m.endPos ∧
      Vue.propertyMember.nameOf m = text.extract (nameSpan m).1 (nameSpan m).2 := by
  have hmatch : IsMatch Vue.propertyMember.regex text m := isMatch_of_mem_findAll hm
  rw [regex_propertyMember] at hmatch
  obtain ⟨start, stop, hfront, hname, hback, hcapture⟩ := hmatch.exists_capture rfl rfl rfl
  obtain ⟨hline, hle, -, hlead⟩ := leads_memberFront.mp hfront
  obtain ⟨colon, hend, hle', hgap, hcolon⟩ := leads_memberBack.mp hback
  have hspan : nameSpan m = (start, stop) := by
    rw [nameSpan, hcapture]
    rfl
  have hlt := (leads_ident.mp hname).1
  rw [hspan, hend]
  refine ⟨⟨hline, hle, hlead, hname, hle', hgap, hcolon⟩, by omega, ?_⟩
  -- an identifier has no blanks, so trimming the name does nothing
  have hblank : ∀ c ∈ text.extract start stop, Text.isBlank c = false := fun c hc =>
    isBlank_of_isScriptContinuer ((leads_ident.mp hname).2.2.of_mem_extract hc)
  have hgroups : Vue.propertyMember.nameGroups = [1] := rfl
  rw [nameOf, hgroups, firstGroup, List.findSome?_cons, group?_of_capture Nat.one_ne_zero hcapture]
  exact Text.trim_eq_self hblank

/-- **No member is lost:** one of the matches reports it. -/
theorem exists_mem_findAll_of_isMember (h : IsMember text start stop) :
    ∃ m ∈ Vue.propertyMember.findAll text, nameSpan m = (start, stop) := by
  obtain ⟨line, colon, hspells⟩ := h.exists_spells
  obtain ⟨m, hm, hle, hspan⟩ :=
    (leads_propertyMember.mpr ⟨start, stop, colon, hspells, rfl⟩).exists_mem_findAll
  obtain ⟨hread, hlt, -⟩ := spells_of_mem_findAll hm
  -- the match starts at the line, or it passes the line
  have hstart : start = (nameSpan m).1 := hread.start_eq hspells hle (by omega)
  have hmember := hread.isMember
  rw [← hstart] at hmember
  exact ⟨m, hm, Prod.ext hstart.symm (hmember.stop_eq h)⟩

/-- **The members of a block are the names at the start of its lines.** For every text, the names
that are reported are those of a list of places. The list goes through the text from left to right,
and holds just the places of whole identifiers that are the first thing on their line and stand in
front of a colon. So each of them is reported once, whatever line starts a match has passed, and
nothing else is. -/
theorem members_are_the_names_at_line_starts (contents : List Char) :
    ∃ places : List (Nat × Nat),
      places.Pairwise (fun a b => a.1 < b.1) ∧
      (∀ start stop, (start, stop) ∈ places ↔ IsMember contents start stop) ∧
      memberNames contents Vue.propertyMember =
        places.map fun place => String.ofList (contents.extract place.1 place.2) := by
  refine ⟨(Vue.propertyMember.findAll contents).map nameSpan, ?_, fun start stop => ?_, ?_⟩
  · refine List.pairwise_map.mpr
      ((pairwise_findAll _ contents).imp_of_mem fun {a b} ha hb hle => ?_)
    -- a name lies in its match, and matches follow each other
    obtain ⟨ha', hlt, -⟩ := spells_of_mem_findAll ha
    obtain ⟨hb', -, -⟩ := spells_of_mem_findAll hb
    have hinside := ha'.le_colon
    have hname := (leads_ident.mp ha'.name).1
    have hbehind := hb'.le_start
    omega
  · rw [List.mem_map]
    constructor
    · rintro ⟨m, hm, hspan⟩
      have hmember := (spells_of_mem_findAll hm).1.isMember
      rwa [hspan] at hmember
    · exact exists_mem_findAll_of_isMember
  · rw [memberNames, List.map_map]
    refine List.map_congr_left fun m hm => ?_
    rw [(spells_of_mem_findAll hm).2.2]
    rfl

/-- Blank lines before a name, a colon two lines below one, and names that do not start their
line. -/
example : memberNames "a\n\n : b: 1,\n\n  c: d:\n ) e:".toList Vue.propertyMember = ["a", "c"] := by
  decide +kernel

end SourceAtlas.Component
