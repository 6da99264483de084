import SourceAtlas.Component.Options
import SourceAtlas.Proofs.BlockOpening
import SourceAtlas.Proofs.Regex.Identifiers
import SourceAtlas.Proofs.Regex.Preferred

/-!
# A call declares the props that a section declares

Props are declared at run time by an object or by a list of names. The options form writes the
declaration behind `props:`, the short form gives it to a call. The two are read in different ways:
the section by one pattern for objects and another one for lists, whose group goes up to the
bracket; the call by one pattern that stops in front of the declaration, from which a block or a
bracket is then looked for.

All four patterns start alike, with a word by itself, a mark, and blanks around the mark
(`announced`). In a text that starts so and has the word nowhere else, such a pattern leads from the
start of the text, and in front of what is not blank it leads to one offset only
(`leads_announced_eq`). So what is read depends on the declaration alone (`declaredProps`), and not
on where it stands or on what stands behind it.

* `props_section` — what the options form reads;
* `props_call` — what the short form reads;
* `call_declares_what_a_section_declares` — the two compared.
-/

namespace SourceAtlas.Component

open Pattern Regex

variable {text front rest declared : List Char} {word : String} {mark mark' : Char}
  {test : Char → Bool} {i j : Nat}

/-- Characters that all pass a test, at their place in a text. -/
theorem covered_append {items : List Char} (pre post : List Char) (h : ∀ c ∈ items, test c = true) :
    Covered test (pre ++ (items ++ post)) pre.length (pre.length + items.length) := by
  intro k hk hlt
  obtain ⟨n, rfl⟩ := Nat.exists_eq_add_of_le hk
  have hn : n < items.length := by omega
  rw [List.getElem?_append_right hk, Nat.add_sub_cancel_left, List.getElem?_append_left hn,
    List.getElem?_eq_getElem hn]
  exact h _ (List.getElem_mem hn)

/-- What stands right behind a front. -/
theorem getElem?_behind : (front ++ rest)[front.length]? = rest.head? := by
  rw [List.getElem?_append_right (Nat.le_refl _), Nat.sub_self, List.head?_eq_getElem?]

theorem extract_append (pre items post : List Char) :
    (pre ++ (items ++ post)).extract pre.length (pre.length + items.length) = items := by
  show ((pre ++ (items ++ post)).drop pre.length).take (pre.length + items.length - pre.length) =
    items
  rw [List.drop_left, Nat.add_sub_cancel_left, List.take_left]

/-! ### Announcements -/

/-- A word by itself and a mark, with blanks on both sides of the mark. -/
def announced (word : String) (mark : Char) : List Regex :=
  [boundary, Regex.text word, blanks, lit mark, blanks]

/-- What an announcement reads, from an offset to another, with its mark at an offset between. -/
structure Announces (word : String) (mark : Char) (text : List Char) (i k j : Nat) : Prop where
  /-- A word starts or ends here. -/
  atBoundary : AtWordBoundary text i
  /-- The word stands here. -/
  stands : word.toList <+: text.drop i
  /-- The mark stands behind the word. -/
  le_mark : i + word.length ≤ k
  /-- Blanks are in front of the mark. -/
  lead : Covered Text.isBlank text (i + word.length) k
  /-- The mark. -/
  isMark : text[k]? = some mark
  /-- It ends behind the mark. -/
  lt_end : k < j
  /-- It ends in the text. -/
  le_length : j ≤ text.length
  /-- Blanks are behind the mark. -/
  gap : Covered Text.isBlank text (k + 1) j

/-- **The pattern of an announcement reads announcements,** each with its mark at one place. -/
theorem leads_announced :
    Leads (cat (announced word mark)) text i j ↔ ∃ k, Announces word mark text i k j := by
  have hrecalls : (cat [Regex.text word, blanks, lit mark, blanks]).recalls = false := by
    rw [recalls_cat_cons, recalls_text]
    rfl
  rw [announced, leads_cat_cons hrecalls]
  constructor
  · -- the five parts in turn: boundary, word, blanks, mark, blanks
    rintro ⟨i', hboundary, h⟩
    obtain ⟨-, rfl, hboundary⟩ := leads_boundary.mp hboundary
    obtain ⟨p, hword, h⟩ := (leads_cat_cons rfl).mp h
    obtain ⟨-, rfl, hstands⟩ := leads_text.mp hword
    obtain ⟨k, hlead, h⟩ := (leads_cat_cons rfl).mp h
    obtain ⟨hle, -, hlead⟩ := leads_star_char.mp hlead
    obtain ⟨q, hmark, hgap⟩ := (leads_cat_cons rfl).mp h
    obtain ⟨rfl, hisMark⟩ := leads_lit.mp hmark
    obtain ⟨hlt, hlength, hgap⟩ := leads_star_char.mp hgap
    exact ⟨k, hboundary, hstands, hle, hlead, hisMark, hlt, hlength, hgap⟩
  · rintro ⟨k, h⟩
    have hk : k < text.length := Nat.lt_of_lt_of_le h.lt_end h.le_length
    have hi : i ≤ text.length := by
      have := h.le_mark
      omega
    exact ⟨i, leads_boundary.mpr ⟨hi, rfl, h.atBoundary⟩,
      (leads_cat_cons rfl).mpr ⟨i + word.length, leads_text.mpr ⟨hi, rfl, h.stands⟩,
        (leads_cat_cons rfl).mpr ⟨k, leads_star_char.mpr ⟨h.le_mark, Nat.le_of_lt hk, h.lead⟩,
          (leads_cat_cons rfl).mpr ⟨k + 1, leads_lit.mpr ⟨rfl, h.isMark⟩,
            leads_star_char.mpr ⟨h.lt_end, h.le_length, h.gap⟩⟩⟩⟩⟩

/-- **A front that announces something:** the word, the mark at once behind it, and blanks. What is
left of the front at a later place is not how the word starts. -/
structure IsFront (word : String) (mark : Char) (front : List Char) : Prop where
  /-- The word is a word. -/
  starts : word.toList.head?.any Text.isWord = true
  /-- The mark is not blank. -/
  not_blank : Text.isBlank mark = false
  /-- It is made of the word, the mark and blanks. -/
  shape : ∃ gap, front = word.toList ++ mark :: gap ∧ ∀ c ∈ gap, Text.isBlank c = true
  /-- The word starts only once. -/
  once : ∀ i < front.length, word.toList.take (front.length - i) <+: front.drop i → i = 0

/-- A word that does not stand behind a front stands only at its start. -/
theorem IsFront.eq_zero (h : IsFront word mark front) (hrest : ¬word.toList <:+: rest)
    (hword : word.toList <+: (front ++ rest).drop i) : i = 0 := by
  rw [List.drop_append] at hword
  rcases Nat.lt_or_ge i front.length with hi | hi
  · -- the word may run over the end of the front, so only what is left of the front is compared
    refine h.once i hi ?_
    have hzero : i - front.length = 0 := by omega
    rw [hzero, List.drop_zero] at hword
    refine List.prefix_of_prefix_length_le ((List.take_prefix _ _).trans hword)
      (List.prefix_append _ rest) ?_
    rw [List.length_take, List.length_drop]
    exact Nat.min_le_left ..
  · rw [List.drop_eq_nil_of_le hi, List.nil_append] at hword
    exact absurd (hword.isInfix.trans (List.drop_suffix _ rest).isInfix) hrest

/-- The mark of a front stands right behind its word. -/
theorem IsFront.getElem?_mark (h : IsFront word mark front) (rest : List Char) :
    (front ++ rest)[word.length]? = some mark := by
  obtain ⟨gap, rfl, -⟩ := h.shape
  rw [List.append_assoc, List.getElem?_append_right (Nat.le_of_eq String.length_toList),
    String.length_toList, Nat.sub_self]
  rfl

/-- Between the mark of a front and its end there are blanks only. -/
theorem IsFront.covered_gap (h : IsFront word mark front) (rest : List Char) :
    word.length < front.length ∧
      Covered Text.isBlank (front ++ rest) (word.length + 1) front.length := by
  obtain ⟨gap, rfl, hgap⟩ := h.shape
  have hlength : (word.toList ++ mark :: gap).length = word.length + 1 + gap.length := by
    rw [List.length_append, List.length_cons, String.length_toList]
    omega
  have hcovered := covered_append (word.toList ++ [mark]) rest hgap
  rw [List.length_append, List.length_singleton, String.length_toList, ← hlength] at hcovered
  refine ⟨by omega, ?_⟩
  rwa [List.append_assoc] at hcovered ⊢

/-- **A front is what the announcement reads.** -/
theorem IsFront.announces (h : IsFront word mark front) :
    Announces word mark (front ++ rest) 0 word.length front.length := by
  obtain ⟨gap, hfront, -⟩ := h.shape
  refine ⟨?_, ?_, Nat.le_of_eq (Nat.zero_add _), ?_, h.getElem?_mark rest,
    (h.covered_gap rest).1, ?_, (h.covered_gap rest).2⟩
  · have hstarts := h.starts
    cases hword : word.toList with
    | nil =>
      rw [hword] at hstarts
      cases hstarts
    | cons c cs =>
      rw [hword] at hstarts
      -- at offset zero nothing is in front, so a word character makes a boundary
      have hzero : (front ++ rest)[0]? = some c := by
        rw [hfront, hword]
        rfl
      rw [AtWordBoundary, hzero]
      intro hiff
      exact absurd (hiff.mpr hstarts).1 (Nat.lt_irrefl 0)
  · rw [hfront, List.append_assoc]
    exact List.prefix_append ..
  · intro k hk hlt
    omega
  · rw [List.length_append]
    exact Nat.le_add_right ..

/-- **An announcement of the word is read at the start of the text only,** and its mark is that of
the front. -/
theorem leads_announced_mark (h : IsFront word mark front) (hrest : ¬word.toList <:+: rest)
    (hmark : Text.isBlank mark' = false)
    (hlead : Leads (cat (announced word mark')) (front ++ rest) i j) :
    i = 0 ∧ mark' = mark ∧ Announces word mark (front ++ rest) 0 word.length j := by
  obtain ⟨k, hread⟩ := leads_announced.mp hlead
  obtain rfl : i = 0 := h.eq_zero hrest hread.stands
  have hthere := h.getElem?_mark rest
  have hle := hread.le_mark
  have hcovered := hread.lead
  rw [Nat.zero_add] at hle hcovered
  -- both marks stand behind blanks only, and neither is a blank
  have hk : k = word.length := by
    refine eq_of_covered_of_not hle (Nat.le_refl _) hcovered
      (fun p hp hlt => absurd hlt (Nat.not_lt_of_le hp)) ?_ ?_
    · rw [hread.isMark, Option.any_some, hmark]
    · rw [hthere, Option.any_some, h.not_blank]
  subst hk
  obtain rfl : mark' = mark := Option.some.inj (hread.isMark.symm.trans hthere)
  exact ⟨rfl, rfl, hread⟩

/-- **In front of what is not blank it leads to the end of the front.** -/
theorem leads_announced_eq (h : IsFront word mark front) (hrest : ¬word.toList <:+: rest)
    (hhead : rest.head?.any Text.isBlank = false)
    (hlead : Leads (cat (announced word mark)) (front ++ rest) i j)
    (hend : (front ++ rest)[j]?.any Text.isBlank = false) : i = 0 ∧ j = front.length := by
  obtain ⟨rfl, -, hread⟩ := leads_announced_mark h hrest h.not_blank hlead
  obtain ⟨hlt, hgap⟩ := h.covered_gap rest
  refine ⟨rfl, eq_of_covered_of_not hread.lt_end hlt hread.gap hgap hend ?_⟩
  rw [getElem?_behind, hhead]

/-! ### Openers -/

/-- An announcement in front of a character, which is not taken. -/
def opener (word : String) (mark : Char) (test : Char → Bool) : Regex :=
  cat (announced word mark ++ [.ahead true (.char test)])

/-- An opener is a front with a bracket behind it, which it does not take. -/
theorem leads_opener : Leads (opener word mark test) text i j ↔
    Leads (cat (announced word mark)) text i j ∧ text[j]?.any test = true := by
  rw [opener, leads_cat_append rfl]
  -- the bracket is looked at and not taken
  have hnext : ∀ {k}, Leads (cat [.ahead true (.char test)]) text k j ↔
      k ≤ text.length ∧ j = k ∧ text[k]?.any test = true := by
    intro k
    show Leads (.ahead true (.char test)) text k j ↔ _
    rw [leads_ahead]
    refine and_congr_right fun _ => and_congr_right fun _ => ?_
    constructor
    · intro h
      obtain ⟨_, hchar⟩ := h.mpr rfl
      exact (leads_char.mp hchar).2
    · intro h
      exact ⟨fun _ => rfl, fun _ => ⟨k + 1, leads_char.mpr ⟨rfl, h⟩⟩⟩
  constructor
  · rintro ⟨k, hlead, h⟩
    obtain ⟨-, rfl, htest⟩ := hnext.mp h
    exact ⟨hlead, htest⟩
  · rintro ⟨hlead, htest⟩
    exact ⟨j, hlead, hnext.mpr ⟨hlead.end_le_length, rfl, htest⟩⟩

/-- **The opener stops in front of the declaration.** -/
theorem search_opener (h : IsFront word mark front) (hrest : ¬word.toList <:+: rest)
    (htest : ∀ c, test c = true → Text.isBlank c = false) (hhead : rest.head?.any test = true) :
    ∃ m, (opener word mark test).search (front ++ rest) = some m ∧ m.endPos = front.length := by
  have hend : (front ++ rest)[front.length]?.any test = true := by
    rw [getElem?_behind, hhead]
  have hnot : ∀ {o : Option Char}, o.any test = true → o.any Text.isBlank = false := by
    intro o ho
    obtain ⟨c, rfl, hc⟩ := (Option.any_eq_true _ _).mp ho
    exact htest c hc
  have hlead : Leads (opener word mark test) (front ++ rest) 0 front.length :=
    leads_opener.mpr ⟨leads_announced.mpr ⟨_, h.announces⟩, hend⟩
  obtain ⟨m, hm⟩ := Option.isSome_iff_exists.mp (isSome_search_iff.mpr ⟨_, _, hlead⟩)
  obtain ⟨hfound, htests⟩ := leads_opener.mp (isMatch_of_search hm).leads
  exact ⟨m, hm, (leads_announced_eq h hrest (hnot hhead) hfound (hnot htests)).2⟩

/-- An opener finds nothing in front of another character. -/
theorem search_opener_eq_none (h : IsFront word mark front) (hrest : ¬word.toList <:+: rest)
    (htest : ∀ c, test c = true → Text.isBlank c = false)
    (hhead : rest.head?.any Text.isBlank = false) (hother : rest.head?.any test = false) :
    (opener word mark test).search (front ++ rest) = none := by
  rw [← Option.not_isSome_iff_eq_none, isSome_search_iff]
  rintro ⟨i, j, hlead⟩
  obtain ⟨hfound, htests⟩ := leads_opener.mp hlead
  obtain ⟨c, hc, htestc⟩ := (Option.any_eq_true _ _).mp htests
  have hend : (front ++ rest)[j]?.any Text.isBlank = false := by
    rw [hc]
    exact htest c htestc
  obtain ⟨-, rfl⟩ := leads_announced_eq h hrest hhead hfound hend
  rw [getElem?_behind, hother] at htests
  cases htests

/-! ### Declarations -/

/-- **A declaration:** a brace block that closes, or a bracket list that ends. -/
def IsDeclaration (declared : List Char) : Prop :=
  (declared.head? = some '{' ∧ ∃ stop, Block.closing? declared 0 = some (stop, true)) ∨
    (declared.head? = some '[' ∧ ']' ∈ declared)

/-- **The props of a declaration:** the items of a list up to its bracket, or the members of a
block. -/
def declaredProps (declared : List Char) : List String :=
  if declared.head? = some '[' then arrayItems (declared.tail.takeWhile (· ≠ ']'))
  else (Block.opening? declared).elim [] fun b => memberNames b.contents Vue.propertyMember

/-- A list that is closed is read up to its bracket. -/
theorem takeWhile_bracket {items behind : List Char} (h : ']' ∉ items) :
    (items ++ ']' :: behind).takeWhile (· ≠ ']') = items := by
  have hitems : ∀ c ∈ items, decide (c ≠ ']') = true := by
    intro c hc
    refine decide_eq_true ?_
    rintro rfl
    exact h hc
  rw [List.takeWhile_append_of_pos hitems, List.takeWhile_cons_of_neg (by decide), List.append_nil]

/-- What a declaration looks like: an object of which nothing behind its closer matters, or a list
with its items up to the first bracket. -/
theorem IsDeclaration.cases (h : IsDeclaration declared) :
    (declared.head? = some '{' ∧ ∃ b, Block.opening? declared = some b ∧ b.closed = true ∧
      declaredProps declared = memberNames b.contents Vue.propertyMember) ∨
    ∃ items behind, declared = '[' :: (items ++ ']' :: behind) ∧ ']' ∉ items ∧
      declaredProps declared = arrayItems items := by
  rcases h with ⟨hhead, stop, hclosing⟩ | ⟨hhead, hmem⟩
  · obtain ⟨b, hb, hstop⟩ := Option.map_eq_some_iff.mp hclosing
    rw [List.drop_zero] at hb
    refine .inl ⟨hhead, b, hb, congrArg Prod.snd hstop, ?_⟩
    rw [declaredProps, hhead, hb, if_neg (by decide)]
    rfl
  · obtain ⟨rest, rfl⟩ := List.head?_eq_some_iff.mp hhead
    have hrest : ']' ∈ rest := (List.mem_cons.mp hmem).resolve_left (by decide)
    obtain ⟨items, behind, rfl, hitems⟩ := List.eq_append_cons_of_mem hrest
    refine .inr ⟨items, behind, rfl, hitems, ?_⟩
    rw [declaredProps, if_pos hhead, List.tail_cons, takeWhile_bracket hitems]

/-! ### The options form -/

theorem isFront_section : IsFront "props" ':' "props: ".toList where
  starts := by decide
  not_blank := by decide
  shape := ⟨[' '], rfl, List.forall_mem_singleton.mpr (by decide)⟩
  once := by decide +kernel

/-- The pattern of an array of names, cut where its group starts. -/
theorem regex_propsArray : Vue.propsArray.regex =
    cat ((announced "props" ':' ++ [lit '[']) ++ .group 1 (star (notChar ']')) :: [lit ']']) := rfl

/-- Where the pattern of a list leads up to its items. -/
theorem leads_listFront (hword : ¬"props".toList <:+: declared)
    (hhead : declared.head?.any Text.isBlank = false)
    (h : Leads (cat (announced "props" ':' ++ [lit '['])) ("props: ".toList ++ declared) i j) :
    j = "props: ".length + 1 ∧ declared.head? = some '[' := by
  obtain ⟨k, hlead, hlast⟩ := (leads_cat_append rfl).mp h
  obtain ⟨rfl, hbracket⟩ := leads_lit.mp hlast
  obtain ⟨-, rfl⟩ := leads_announced_eq isFront_section hword hhead hlead (by rw [hbracket]; decide)
  rw [getElem?_behind] at hbracket
  exact ⟨rfl, hbracket⟩

/-- In front of an object there is no list. -/
theorem search_propsArray_eq_none (hword : ¬"props".toList <:+: declared)
    (hhead : declared.head? = some '{') :
    Vue.propsArray.search ("props: ".toList ++ declared) = none := by
  rw [← Option.not_isSome_iff_eq_none, Pattern.search, isSome_search_iff, regex_propsArray]
  rintro ⟨i, j, h⟩
  obtain ⟨k, hfront, -⟩ := (leads_cat_append rfl).mp h
  obtain ⟨-, hbracket⟩ := leads_listFront hword (by rw [hhead]; decide) hfront
  rw [hhead] at hbracket
  exact absurd hbracket (by decide)

/-- **The group of a list has its items.** -/
theorem search_propsArray {items behind : List Char} (hitems : ']' ∉ items)
    (hword : ¬"props".toList <:+: '[' :: (items ++ ']' :: behind)) :
    ∃ m, Vue.propsArray.search ("props: ".toList ++ '[' :: (items ++ ']' :: behind)) = some m ∧
      firstGroup m [1] = items := by
  have hcovered : Covered (· != ']') ("props: [".toList ++ (items ++ ']' :: behind)) 8
      (8 + items.length) := by
    refine covered_append "props: [".toList (']' :: behind) fun c hc => bne_iff_ne.mpr ?_
    rintro rfl
    exact hitems hc
  have hend : ("props: [".toList ++ (items ++ ']' :: behind))[8 + items.length]? = some ']' := by
    have hlength : "props: [".toList.length = 8 := rfl
    rw [List.getElem?_append_right (by omega), hlength, Nat.add_sub_cancel_left,
      List.getElem?_append_right (Nat.le_refl _), Nat.sub_self]
    rfl
  have hlead : Leads Vue.propsArray.regex ("props: ".toList ++ '[' :: (items ++ ']' :: behind)) 0
      (8 + items.length + 1) := by
    rw [regex_propsArray]
    refine (leads_cat_append rfl).mpr ⟨8, (leads_cat_append rfl).mpr
      ⟨7, leads_announced.mpr ⟨_, isFront_section.announces⟩, leads_lit.mpr ⟨rfl, rfl⟩⟩, ?_⟩
    refine (leads_cat_cons rfl).mpr ⟨8 + items.length, leads_group.mpr (leads_star_char.mpr
      ⟨Nat.le_add_right .., ?_, hcovered⟩), leads_lit.mpr ⟨rfl, hend⟩⟩
    exact Nat.le_of_lt (List.getElem?_eq_some_iff.mp hend).1
  obtain ⟨m, hm⟩ := Option.isSome_iff_exists.mp (isSome_search_iff.mpr ⟨_, _, hlead⟩)
  refine ⟨m, hm, ?_⟩
  have hmatch := isMatch_of_search hm
  rw [regex_propsArray] at hmatch
  obtain ⟨start, stop, hfront, hbody, hback, hcapture⟩ := hmatch.exists_capture rfl rfl rfl
  obtain ⟨rfl, -⟩ := leads_listFront hword rfl hfront
  obtain ⟨hle, -, hbody⟩ := leads_star_char.mp hbody
  obtain ⟨-, hbracket⟩ := leads_lit.mp hback
  -- the items go up to a bracket, and there is none among them
  obtain rfl : stop = 8 + items.length := by
    refine eq_of_covered_of_not hle (Nat.le_add_right ..) hbody hcovered ?_ ?_
    · rw [hbracket]
      decide
    · exact (congrArg (Option.any (· != ']')) hend).trans (by decide)
  rw [firstGroup, List.findSome?_cons, group?_of_capture Nat.one_ne_zero hcapture]
  exact extract_append "props: [".toList items (']' :: behind)

/-- **What the options form reads** behind its word. -/
theorem props_section (hword : ¬"props".toList <:+: declared) (h : IsDeclaration declared) :
    (optionSections ("props: ".toList ++ declared)).props = declaredProps declared := by
  have hbrace : ∀ c, (c == '{') = true → Text.isBlank c = false := by
    intro c hc
    rw [beq_iff_eq.mp hc]
    decide
  rw [optionSections]
  rcases h.cases with ⟨hhead, b, hb, -, hprops⟩ | ⟨items, behind, rfl, hitems, hprops⟩
  · -- braces: the pattern for arrays finds nothing
    obtain ⟨m, hm, hend⟩ := search_opener isFront_section hword hbrace (by rw [hhead]; rfl)
    have hblock : Vue.propsBlock.search ("props: ".toList ++ declared) = some m := hm
    dsimp only
    rw [blockMembers, hblock, search_propsArray_eq_none hword hhead, hprops]
    dsimp only
    rw [Block.blockContents?, hend, List.drop_left, hb, List.append_nil]
    rfl
  · -- an array: the pattern for braces finds nothing
    obtain ⟨m, hm, hgroup⟩ := search_propsArray hitems hword
    have hblock :
        Vue.propsBlock.search ("props: ".toList ++ '[' :: (items ++ ']' :: behind)) = none :=
      search_opener_eq_none isFront_section hword hbrace rfl rfl
    dsimp only
    rw [blockMembers, hblock, hm, hprops]
    dsimp only
    rw [hgroup, List.nil_append]

/-! ### The short form -/

theorem isFront_call : IsFront "defineProps" '(' "defineProps(".toList where
  starts := by decide
  not_blank := by decide
  shape := ⟨[], rfl, fun _ hc => absurd hc List.not_mem_nil⟩
  once := by decide +kernel

theorem regex_definePropsRuntime : Vue.definePropsRuntime.regex =
    opener "defineProps" '(' fun c => c == '[' || c == '{' := rfl

/-- A call with its declaration gives no type. -/
theorem search_definePropsType (hword : ¬"defineProps".toList <:+: rest) :
    Vue.definePropsType.search ("defineProps(".toList ++ rest) = none := by
  have hregex : Vue.definePropsType.regex = cat (announced "defineProps" '<' ++
    [.group 1 (plusFew (notChar '>')), blanks, lit '>', blanks, lit '(', blanks, lit ')']) := rfl
  rw [← Option.not_isSome_iff_eq_none, Pattern.search, isSome_search_iff, hregex]
  rintro ⟨i, j, h⟩
  obtain ⟨k, hfront, -⟩ := (leads_cat_append rfl).mp h
  exact absurd (leads_announced_mark isFront_call hword (by decide) hfront).2.1 (by decide)

/-- **What the short form reads** in its call. -/
theorem props_call (hword : ¬"defineProps".toList <:+: declared ++ [')'])
    (h : IsDeclaration declared) :
    (setupBindings ("defineProps(".toList ++ declared ++ [')'])).props =
      distinct (declaredProps declared) := by
  have hbracket : ∀ c, (c == '[' || c == '{') = true → Text.isBlank c = false := by
    intro c hc
    rcases Bool.or_eq_true_iff.mp hc with hc | hc
    · rw [beq_iff_eq.mp hc]
      decide
    · rw [beq_iff_eq.mp hc]
      decide
  rw [setupBindings, List.append_assoc, search_definePropsType hword]
  dsimp only
  rw [List.nil_append]
  rcases h.cases with ⟨hhead, b, hb, hclosed, hprops⟩ | ⟨items, behind, rfl, hitems, hprops⟩
  · obtain ⟨rest, rfl⟩ := List.head?_eq_some_iff.mp hhead
    obtain ⟨m, hm, hend⟩ := search_opener isFront_call hword hbracket rfl
    rw [Pattern.search, regex_definePropsRuntime, hm, hprops]
    dsimp only
    -- the parenthesis stands behind the closer, and is not looked at
    have hblock := Block.opening?_append_of_closed hb hclosed [')']
    rw [runtimeProps, Block.blockContents?, hend, List.drop_left, hblock]
    rfl
  · obtain ⟨m, hm, hend⟩ := search_opener isFront_call hword hbracket rfl
    rw [Pattern.search, regex_definePropsRuntime, hm, hprops]
    dsimp only
    rw [runtimeProps, hend, List.drop_left]
    show distinct (arrayItems ((items ++ ']' :: behind ++ [')']).takeWhile (· ≠ ']'))) = _
    rw [List.append_assoc, List.cons_append, takeWhile_bracket hitems]

/-- **A call declares what a section declares.** For every object whose block closes, and every list
that ends, the props of a call with it are those of a section with it, each where it is first
listed. In both they are the props of the declaration: nested objects, strings with brackets or
braces, and comments in it are treated alike, and so is anything that stands behind the closer. The
word of the section must not occur in the declaration, however its letters are capitalised. -/
theorem call_declares_what_a_section_declares (declared : List Char)
    (hword : ¬"props".toList <:+: declared.map Char.toLower) (h : IsDeclaration declared) :
    (setupBindings ("defineProps(".toList ++ declared ++ [')'])).props =
        distinct (optionSections ("props: ".toList ++ declared)).props ∧
      (optionSections ("props: ".toList ++ declared)).props = declaredProps declared := by
  have hsection : ¬"props".toList <:+: declared := fun hin => hword (hin.map Char.toLower)
  have hcall : ¬"defineProps".toList <:+: declared ++ [')'] := by
    -- the word of the call ends with that of the section, capitalised, and not with a parenthesis
    intro hin
    have hlower := hin.map Char.toLower
    rw [List.map_append] at hlower
    have htail : "props".toList <:+: declared.map Char.toLower ++ [')'] :=
      (List.IsSuffix.isInfix ⟨"define".toList, rfl⟩).trans hlower
    rcases List.infix_concat_iff.mp htail with hsuffix | hin
    · rcases List.suffix_concat_iff.mp hsuffix with hnil | ⟨t, ht, -⟩
      · exact absurd hnil (by decide)
      · have hlast := congrArg List.getLast? ht
        rw [List.getLast?_concat] at hlast
        exact absurd hlast (by decide)
    · exact hword hin
  rw [props_section hsection h, props_call hcall h]
  exact ⟨rfl, rfl⟩

/-- An object with a nested one, closers in a string and in a comment, and a name that stands twice,
and a list with an opener among its items. Something follows either. -/
theorem call_declares_what_a_section_declares_mixed :
    let object := "\x7b\n a: \x7b b: 1,\n c: '\x7d' \x7d, // \x7d\n d: 2,\n a: 3 \x7d, \x7b".toList
    let list := "['x', \"y\", [z, 'x'], w]".toList
    IsDeclaration object ∧ IsDeclaration list ∧
      (setupBindings ("defineProps(".toList ++ object ++ [')'])).props = ["a", "c", "d"] ∧
      (optionSections ("props: ".toList ++ object)).props = ["a", "c", "d", "a"] ∧
      (setupBindings ("defineProps(".toList ++ list ++ [')'])).props = ["x", "y", "[z"] := by
  intro object list
  have hobject : IsDeclaration object := .inl ⟨rfl, 44, by decide +kernel⟩
  have hlist : IsDeclaration list := .inr ⟨rfl, by decide +kernel⟩
  have hprops : declaredProps object = ["a", "c", "d", "a"] := by decide +kernel
  have hitems : declaredProps list = ["x", "y", "[z", "x"] := by decide +kernel
  obtain ⟨hcall, hsection⟩ := call_declares_what_a_section_declares object (by decide +kernel)
    hobject
  obtain ⟨hcall', hsection'⟩ := call_declares_what_a_section_declares list (by decide +kernel) hlist
  rw [hcall, hcall', hsection, hsection', hprops, hitems]
  exact ⟨hobject, hlist, by decide +kernel, rfl, by decide +kernel⟩

end SourceAtlas.Component
