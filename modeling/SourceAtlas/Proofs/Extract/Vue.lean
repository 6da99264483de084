import Mathlib.Data.Nat.Find
import SourceAtlas.Extract.Vue
import SourceAtlas.Proofs.Regex.Identifiers
import SourceAtlas.Proofs.Regex.Preferred

/-!
# Every script block has one form

A script block of a source starts with a tag, and one attribute in the tag decides about its form.
The two patterns for blocks look for the attribute in different ways: the one reads it, with any
characters of the tag on both sides, and the other refuses to match where it could be read. Here a
tag, its attribute and the end of its block are described by offsets (`IsTag`, `MarksSetup`,
`EndsBlock`), and both patterns are described by them.

* The pattern that reads the attribute has many ways through a tag, but no way leaves the tag before
  its first `>`, and none passes it (`leads_setupTag`). The look ahead of the other pattern cannot
  pass it either, so it sees this tag and no more of the source (`leads_optionsTag`). So the two are
  exclusive, and one of them always matches.
* All ways through a tag end at the same offset. From there on, both patterns go up to the first end
  of a block (`exists_matchFrom_upTo`).

* `exists_matchFrom_block` — what is matched at a tag whose block ends, and what is captured;
* `component_eq_form` — a component is made from the form of its source;
* `script_blocks_have_one_form` — both, and when the short form decides.
-/

namespace SourceAtlas

namespace Regex

variable {text : List Char} {i j p : Nat}

/-- A text in either case leads over an occurrence of it. -/
theorem leads_textFold {name : String} : Leads (textFold name) text i j ↔
    i ≤ text.length ∧ j = i + name.length ∧ OccursAt Text.sameFold name.toList text i := by
  have hliteral : textFold name = literal Text.sameFold name.toList := rfl
  rw [hliteral, leads_literal, String.length_toList]

/-- Where a term stands, there are no other characters than its own, up to the sameness. -/
theorem OccursAt.covered {same : Char → Char → Bool} {term : List Char}
    (h : OccursAt same term text p) {c : Char} (hc : term.all (fun w => !same w c) = true) :
    Covered (· != c) text p (p + term.length) := by
  intro k hk hlt
  obtain ⟨hlength, hsame⟩ := List.forall₂_iff_get.mp h
  have hindex : k - p < ((text.drop p).take term.length).length := by omega
  have hk' : k < text.length := by
    rw [List.length_take, List.length_drop] at hindex
    omega
  -- the character at `k` is compared with the one at `k - p` of the term
  have hget : ((text.drop p).take term.length).get ⟨k - p, hindex⟩ = text[k] := by
    simp only [List.get_eq_getElem, List.getElem_take, List.getElem_drop, Nat.add_sub_cancel' hk]
  have hat := hsame (k - p) (by omega) hindex
  rw [hget] at hat
  rw [List.getElem?_eq_getElem hk', Option.any_some, bne_iff_ne]
  rintro rfl
  have hnot := List.all_eq_true.mp hc _ (List.get_mem term ⟨k - p, by omega⟩)
  rw [hat] at hnot
  cases hnot

end Regex

namespace Extract.Vue

open Pattern Regex Component

variable {source : List Char} {i j k e : Nat}

/-! ### Tags and blocks -/

/-- **A script tag of a source,** from its opener to the first `>` behind it. -/
structure IsTag (source : List Char) (i j : Nat) : Prop where
  /-- It is opened, in any case of letters. -/
  opens : OccursAt Text.sameFold "<script".toList source i
  /-- The `>` stands behind the opener. -/
  le : i + 7 ≤ j
  /-- There is a `>`. -/
  closes : source[j]? = some '>'
  /-- It is the first. -/
  first : Covered (· != '>') source (i + 7) j

/-- **A tag has the attribute of the short form:** a blank and the word, in any case of letters,
stand inside of it. -/
def MarksSetup (source : List Char) (i j : Nat) : Prop :=
  ∃ k, i + 7 ≤ k ∧ k + 6 ≤ j ∧ source[k]?.any Text.isBlank = true ∧
    OccursAt Text.sameFold "setup".toList source (k + 1)

/-- A script block ends at an offset, in any case of letters. -/
def EndsBlock (source : List Char) (e : Nat) : Prop :=
  OccursAt Text.sameFold "</script>".toList source e

instance (source : List Char) (i j : Nat) : Decidable (IsTag source i j) :=
  decidable_of_iff (OccursAt Text.sameFold "<script".toList source i ∧ i + 7 ≤ j ∧
      source[j]? = some '>' ∧ Covered (· != '>') source (i + 7) j)
    ⟨fun h => ⟨h.1, h.2.1, h.2.2.1, h.2.2.2⟩, fun h => ⟨h.opens, h.le, h.closes, h.first⟩⟩

instance (source : List Char) (i j : Nat) : Decidable (MarksSetup source i j) :=
  decidable_of_iff (∃ k < j, i + 7 ≤ k ∧ k + 6 ≤ j ∧ source[k]?.any Text.isBlank = true ∧
      OccursAt Text.sameFold "setup".toList source (k + 1))
    ⟨fun h => h.imp fun _ hk => hk.2, fun h => h.imp fun k hk => ⟨by have := hk.2.1; omega, hk⟩⟩

instance (source : List Char) (e : Nat) : Decidable (EndsBlock source e) :=
  inferInstanceAs (Decidable (OccursAt ..))

/-- A tag that starts at an offset has one end. -/
theorem IsTag.eq {j' : Nat} (h : IsTag source i j) (h' : IsTag source i j') : j = j' := by
  have hnot : ∀ {k : Nat}, source[k]? = some '>' → source[k]?.any (· != '>') = false := by
    intro k hk
    rw [hk]
    rfl
  exact eq_of_covered_of_not h.le h'.le h.first h'.first (hnot h.closes) (hnot h'.closes)

/-- A block ends in the text. -/
theorem EndsBlock.le (h : EndsBlock source e) : e ≤ source.length := by
  have hend := OccursAt.le h (by decide)
  omega

/-- Where blocks end behind an offset, there is a first such place. -/
theorem exists_first_endsBlock (h : ∃ k > j, EndsBlock source k) :
    ∃ e > j, EndsBlock source e ∧ ∀ k > j, EndsBlock source k → e ≤ k := by
  classical
  exact ⟨Nat.find h, (Nat.find_spec h).1, (Nat.find_spec h).2, fun k hk hend =>
    Nat.find_min' h ⟨hk, hend⟩⟩

/-! ### The two patterns by offsets -/

/-- The pattern of a tag that looks at its attributes in some way. -/
def tagWith (look : Regex) : List Regex :=
  [textFold "<script", look, Vue.inTag, lit '>']

theorem regex_setupTag : Vue.setupTag.regex = cat (tagWith Vue.setupAttribute) := rfl

theorem regex_setupScript : Vue.setupScript.regex =
    cat (tagWith Vue.setupAttribute ++ [upTo 1 Text.sameFold "</script>".toList]) := rfl

theorem regex_optionsScript : Vue.optionsScript.regex =
    cat (tagWith (.ahead false Vue.setupAttribute) ++
      [upTo 1 Text.sameFold "</script>".toList]) := rfl

/-- **Where a tag can be read that passes a test:** the test looks from behind the tag's name, and
the tag goes on to the first closing bracket. -/
theorem leads_tagWith {look : Regex} (hlook : look.recalls = false) :
    Leads (cat (tagWith look)) source i e ↔
      OccursAt Text.sameFold "<script".toList source i ∧
        ∃ k j, Leads look source (i + 7) k ∧ k ≤ j ∧
        Covered (· != '>') source k j ∧ source[j]? = some '>' ∧ e = j + 1 := by
  have hrest : (cat [look, Vue.inTag, lit '>']).recalls = false := by
    rw [recalls_cat_cons, hlook]
    rfl
  rw [tagWith, leads_cat_cons hrest]
  constructor
  · -- the four parts in turn: the tag's name, the test, the rest of the tag, the bracket
    rintro ⟨i', hopen, h⟩
    obtain ⟨-, rfl, hopens⟩ := leads_textFold.mp hopen
    obtain ⟨k, hlooked, h⟩ := (leads_cat_cons rfl).mp h
    obtain ⟨j, htag, hlast⟩ := (leads_cat_cons rfl).mp h
    obtain ⟨rfl, hcloses⟩ := leads_lit.mp hlast
    obtain ⟨hle, -, hcovered⟩ := leads_star_char.mp htag
    exact ⟨hopens, k, j, hlooked, hle, hcovered, hcloses, rfl⟩
  · rintro ⟨hopens, k, j, hlooked, hle, hcovered, hcloses, rfl⟩
    have hi := OccursAt.le hopens (by decide)
    have hj : j < source.length := (List.getElem?_eq_some_iff.mp hcloses).1
    exact ⟨i + 7, leads_textFold.mpr ⟨by omega, rfl, hopens⟩, (leads_cat_cons rfl).mpr ⟨k, hlooked,
      (leads_cat_cons rfl).mpr ⟨j, leads_star_char.mpr ⟨hle, Nat.le_of_lt hj, hcovered⟩,
        leads_lit.mpr ⟨rfl, hcloses⟩⟩⟩⟩

/-- **Where the setup attribute can be read:** its name behind a blank, with no closing bracket in
front. -/
theorem leads_setupAttribute : Leads Vue.setupAttribute source i e ↔
    ∃ k, e = k + 6 ∧ i ≤ k ∧ Covered (· != '>') source i k ∧ source[k]?.any Text.isBlank = true ∧
      OccursAt Text.sameFold "setup".toList source (k + 1) := by
  rw [Vue.setupAttribute, leads_cat_cons rfl]
  constructor
  · rintro ⟨k, hfront, h⟩
    obtain ⟨hle, -, hcovered⟩ := leads_star_char.mp hfront
    obtain ⟨k', hone, hrest⟩ := (leads_cat_cons rfl).mp h
    obtain ⟨rfl, hblank⟩ := leads_char.mp hone
    obtain ⟨-, rfl, hword⟩ := leads_textFold.mp hrest
    exact ⟨k, rfl, hle, hcovered, hblank, hword⟩
  · rintro ⟨k, rfl, hle, hcovered, hblank, hword⟩
    have hk := lt_length_of_any hblank
    exact ⟨k, leads_star_char.mpr ⟨hle, Nat.le_of_lt hk, hcovered⟩, (leads_cat_cons rfl).mpr ⟨k + 1,
      leads_char.mpr ⟨rfl, hblank⟩, leads_textFold.mpr ⟨hk, rfl, hword⟩⟩⟩

/-- The attribute holds no `>`. -/
theorem covered_setupAttribute (hblank : source[k]?.any Text.isBlank = true)
    (hword : OccursAt Text.sameFold "setup".toList source (k + 1)) :
    Covered (· != '>') source k (k + 6) := by
  have hone : Covered (· != '>') source k (k + 1) := by
    intro p hp hlt
    obtain rfl : p = k := by omega
    obtain ⟨c, hc, hc'⟩ := (Option.any_eq_true _ _).mp hblank
    rw [hc, Option.any_some, bne_iff_ne]
    rintro rfl
    cases hc'
  exact hone.append (hword.covered (by decide))

/-- **In a tag, the attribute can be read just where the tag has it.** What is read stays in the
tag. -/
theorem IsTag.marksSetup_iff (h : IsTag source i j) :
    MarksSetup source i j ↔ ∃ e, Leads Vue.setupAttribute source (i + 7) e := by
  constructor
  · rintro ⟨k, hik, hkj, hblank, hword⟩
    exact ⟨k + 6, leads_setupAttribute.mpr ⟨k, rfl, hik,
      fun p hp hlt => h.first p hp (by omega), hblank, hword⟩⟩
  · rintro ⟨e, hread⟩
    obtain ⟨k, rfl, hik, hcovered, hblank, hword⟩ := leads_setupAttribute.mp hread
    refine ⟨k, hik, Nat.le_of_not_lt fun hlt => ?_, hblank, hword⟩
    -- otherwise the `>` that ends the tag would have been passed
    have hpassed := hcovered.append (covered_setupAttribute hblank hword) j h.le hlt
    rw [h.closes] at hpassed
    cases hpassed

/-- **The pattern that reads the attribute** leads behind the tags that have it. -/
theorem leads_setupTag : Leads (cat (tagWith Vue.setupAttribute)) source i e ↔
    ∃ j, e = j + 1 ∧ IsTag source i j ∧ MarksSetup source i j := by
  rw [leads_tagWith rfl]
  constructor
  · rintro ⟨hopens, k, j, hread, hle, hcovered, hcloses, rfl⟩
    obtain ⟨k, rfl, hik, hfront, hblank, hword⟩ := leads_setupAttribute.mp hread
    have hmark := covered_setupAttribute hblank hword
    exact ⟨j, rfl, ⟨hopens, by omega, hcloses, (hfront.append hmark).append hcovered⟩, k, hik, hle,
      hblank, hword⟩
  · rintro ⟨j, rfl, htag, k, hik, hkj, hblank, hword⟩
    exact ⟨htag.opens, k + 6, j, leads_setupAttribute.mpr ⟨k, rfl, hik,
      fun p hp hlt => htag.first p hp (by omega), hblank, hword⟩, hkj, htag.first.of_le (by omega),
      htag.closes, rfl⟩

/-- **The pattern that refuses the attribute** leads behind the other tags. -/
theorem leads_optionsTag : Leads (cat (tagWith (.ahead false Vue.setupAttribute))) source i e ↔
    ∃ j, e = j + 1 ∧ IsTag source i j ∧ ¬MarksSetup source i j := by
  rw [leads_tagWith rfl]
  constructor
  · rintro ⟨hopens, k, j, hlook, hle, hcovered, hcloses, rfl⟩
    obtain ⟨-, rfl, hnot⟩ := leads_ahead.mp hlook
    have htag : IsTag source i j := ⟨hopens, hle, hcloses, hcovered⟩
    refine ⟨j, rfl, htag, fun hmarks => ?_⟩
    cases hnot.mp (htag.marksSetup_iff.mp hmarks)
  · rintro ⟨j, rfl, htag, hnot⟩
    have hi := OccursAt.le htag.opens (by decide)
    have hlook : Leads (.ahead false Vue.setupAttribute) source (i + 7) (i + 7) :=
      leads_ahead.mpr ⟨hi, rfl, iff_of_false (fun hread => hnot (htag.marksSetup_iff.mpr hread))
        Bool.false_ne_true⟩
    exact ⟨htag.opens, i + 7, j, hlook, htag.le, htag.first, htag.closes, rfl⟩

/-! ### Blocks -/

/-- What a pattern for blocks matches starts with what its tag matches. -/
theorem exists_of_leads_block {look : Regex} (h : Leads
    (cat (tagWith look ++ [upTo 1 Text.sameFold "</script>".toList])) source i e) :
    ∃ k, Leads (cat (tagWith look)) source i k ∧ ∃ p ≥ k, EndsBlock source p := by
  obtain ⟨k, htag, hbody⟩ := (leads_cat_append rfl).mp h
  have hparts : Leads (cat [.group 1 (starFew (.char fun _ => true)),
      literal Text.sameFold "</script>".toList]) source k e := hbody
  obtain ⟨p, hany, hend⟩ := (leads_cat_cons rfl).mp hparts
  exact ⟨k, htag, p, hany.le, (leads_literal.mp hend).2.2⟩

section Blocks

variable (htag : IsTag source i j) (hlt : j < e) (hend : EndsBlock source e)
  (hfirst : ∀ k > j, EndsBlock source k → e ≤ k)

include htag hlt hend hfirst

/-- **What is matched at a tag whose block ends,** if of two ways of looking at attributes one takes
the tag and the other does not: with the one, the text of the block is captured, and with the other
there is no match. -/
theorem exists_matchFrom_block {look other : Regex} {P Q : Nat → Prop}
    (hgroups : ∀ n, bodies n (cat (tagWith look)) = [])
    (hlook : ∀ q, Leads (cat (tagWith look)) source i q ↔ ∃ j, q = j + 1 ∧ IsTag source i j ∧ P j)
    (hother : ∀ q, Leads (cat (tagWith other)) source i q ↔ ∃ j, q = j + 1 ∧ IsTag source i j ∧ Q j)
    (hP : P j) (hQ : ¬Q j) :
    (∃ m, (cat (tagWith look ++ [upTo 1 Text.sameFold "</script>".toList])).matchFrom source i =
        some m ∧ m.group? 1 = some (source.extract (j + 1) e)) ∧
      (cat (tagWith other ++ [upTo 1 Text.sameFold "</script>".toList])).matchFrom source i =
        none := by
  constructor
  · -- the tag has one end, so the text between it and the first closing tag is the only candidate
    have hunique : ∀ q, Leads (cat (tagWith look)) source i q → q = j + 1 := by
      intro q hq
      obtain ⟨j', rfl, htag', -⟩ := (hlook q).mp hq
      rw [htag.eq htag']
    exact exists_matchFrom_upTo hgroups ((hlook _).mpr ⟨j, rfl, htag, hP⟩) hunique hlt hend.le hend
      (fun k hk hke hbefore => Nat.not_le_of_lt hke (hfirst k hk hbefore)) Nat.one_ne_zero
  · -- the other pattern would have to read the same tag, with the opposite test
    have hi := OccursAt.le htag.opens (by decide)
    rw [matchFrom_eq_none_iff (by omega)]
    intro q h
    obtain ⟨k, hleads, -⟩ := exists_of_leads_block h
    obtain ⟨j', -, htag', hQ'⟩ := (hother k).mp hleads
    exact hQ (htag.eq htag' ▸ hQ')

/-- A tag with the attribute. -/
theorem exists_matchFrom_setup (hmarks : MarksSetup source i j) :
    (∃ m, Vue.setupScript.regex.matchFrom source i = some m ∧
        m.group? 1 = some (source.extract (j + 1) e)) ∧
      Vue.optionsScript.regex.matchFrom source i = none :=
  exists_matchFrom_block htag hlt hend hfirst (fun _ => rfl) (fun _ => leads_setupTag)
    (fun _ => leads_optionsTag) hmarks (not_not_intro hmarks)

/-- A tag without it. -/
theorem exists_matchFrom_options (hmarks : ¬MarksSetup source i j) :
    (∃ m, Vue.optionsScript.regex.matchFrom source i = some m ∧
        m.group? 1 = some (source.extract (j + 1) e)) ∧
      Vue.setupScript.regex.matchFrom source i = none :=
  exists_matchFrom_block htag hlt hend hfirst (fun _ => rfl) (fun _ => leads_optionsTag)
    (fun _ => leads_setupTag) hmarks hmarks

end Blocks

/-- **A source has a complete block of the options form** just where the pattern for it finds
one. -/
theorem isSome_search_optionsScript : (Vue.optionsScript.search source).isSome = true ↔
    ∃ i j, IsTag source i j ∧ ¬MarksSetup source i j ∧ ∃ k > j, EndsBlock source k := by
  constructor
  · intro h
    obtain ⟨i, e, hleads⟩ := isSome_search_iff.mp h
    rw [regex_optionsScript] at hleads
    obtain ⟨k, htag, p, hp, hend⟩ := exists_of_leads_block hleads
    obtain ⟨j, rfl, htag, hmarks⟩ := leads_optionsTag.mp htag
    exact ⟨i, j, htag, hmarks, p, hp, hend⟩
  · rintro ⟨i, j, htag, hmarks, hends⟩
    obtain ⟨e, hlt, hend, hfirst⟩ := exists_first_endsBlock hends
    obtain ⟨⟨m, hm, -⟩, -⟩ := exists_matchFrom_options htag hlt hend hfirst hmarks
    have hi := OccursAt.le htag.opens (by decide)
    obtain ⟨e', hleads⟩ := (isSome_matchFrom_iff (by omega)).mp (Option.isSome_of_eq_some hm)
    exact isSome_search_iff.mpr ⟨i, e', hleads⟩

/-- A source has a setup tag just when one of its tags is marked so. -/
theorem isSome_search_setupTag : (Vue.setupTag.search source).isSome = true ↔
    ∃ i j, IsTag source i j ∧ MarksSetup source i j := by
  rw [Pattern.search, isSome_search_iff]
  refine exists_congr fun i => ?_
  rw [regex_setupTag]
  constructor
  · rintro ⟨e, hleads⟩
    obtain ⟨j, -, h⟩ := leads_setupTag.mp hleads
    exact ⟨j, h⟩
  · rintro ⟨j, h⟩
    exact ⟨j + 1, leads_setupTag.mpr ⟨j, rfl, h⟩⟩

/-! ### The form of a source -/

/-- **The form of a source:** which of its scripts decides about the component. -/
inductive Form where
  /-- A complete block of the options form. -/
  | options (script : List Char)
  /-- The short form. -/
  | setup (script : List Char)
  /-- None. -/
  | bare
  deriving DecidableEq, Repr

/-- The form of a source: the options form where there is a complete block of it, else the short
form where there is a tag of it. -/
def formOf (source : List Char) : Form :=
  match Vue.optionsScript.search source with
  | some m => .options (firstGroup m [1])
  | none => if (Vue.setupTag.search source).isSome then .setup (setupText source) else .bare

/-- The component that a form describes, in a source that has a tag of the short form or not. -/
def Form.component (filePath : String) (isSetup : Bool) : Form → ComponentEntity
  | .options script =>
    let sections := optionSections script
    { name := sections.name
      filePath
      props := sections.props
      data := sections.data
      methods := sections.methods
      computedProperties := sections.computed
      isAlternateSyntax := isSetup }
  | .setup script =>
    let found := setupBindings script
    { name := (Path.ofString filePath).stem
      filePath
      props := found.props
      methods := found.bindings
      isAlternateSyntax := true }
  | .bare => { name := "", filePath }

/-- **A component is made from the form of its source.** -/
theorem component_eq_form (source : List Char) (filePath : String) :
    component source filePath =
      (formOf source).component filePath (Vue.setupTag.search source).isSome := by
  unfold component formOf
  cases Vue.optionsScript.search source with
  | some m => rfl
  | none =>
    cases (Vue.setupTag.search source).isSome with
    | true => rfl
    | false => rfl

/-- The short form decides where there is a tag of it and no complete block of the options form. -/
theorem formOf_eq_setup_iff : (∃ script, formOf source = .setup script) ↔
    (Vue.optionsScript.search source).isSome = false ∧
      (Vue.setupTag.search source).isSome = true := by
  unfold formOf
  cases Vue.optionsScript.search source with
  | some m => simp
  | none => cases (Vue.setupTag.search source).isSome <;> simp

/-- **Every script block has one form.** For every source:

* At a tag whose block ends, one of the two patterns for blocks matches and the other does not. The
  one for the short form matches if the tag has its attribute. What is captured is the text from the
  tag to the first end of a block behind it.
* Where the pattern for blocks of the short form matches, the one for their tags does.
* The component is made from the form of the source, and that is the short form if and only if there
  is a tag of the short form and no complete block without its attribute. -/
theorem script_blocks_have_one_form (source : List Char) :
    (∀ i j, IsTag source i j → (∃ k > j, EndsBlock source k) →
      ∃ e > j, EndsBlock source e ∧ (∀ k > j, EndsBlock source k → e ≤ k) ∧
        ∃ m, m.group? 1 = some (source.extract (j + 1) e) ∧
          (MarksSetup source i j → Vue.setupScript.regex.matchFrom source i = some m ∧
            Vue.optionsScript.regex.matchFrom source i = none) ∧
          (¬MarksSetup source i j → Vue.optionsScript.regex.matchFrom source i = some m ∧
            Vue.setupScript.regex.matchFrom source i = none)) ∧
    (∀ i ≤ source.length, (Vue.setupScript.regex.matchFrom source i).isSome = true →
      (Vue.setupTag.regex.matchFrom source i).isSome = true) ∧
    (∀ filePath, component source filePath =
      (formOf source).component filePath (Vue.setupTag.search source).isSome) ∧
    ((∃ script, formOf source = .setup script) ↔
      (¬∃ i j, IsTag source i j ∧ ¬MarksSetup source i j ∧ ∃ k > j, EndsBlock source k) ∧
        ∃ i j, IsTag source i j ∧ MarksSetup source i j) := by
  refine ⟨fun i j htag hends => ?_, fun i hi hblock => ?_, component_eq_form source, ?_⟩
  · obtain ⟨e, hlt, hend, hfirst⟩ := exists_first_endsBlock hends
    refine ⟨e, hlt, hend, hfirst, ?_⟩
    -- the two patterns differ in one test of the tag, and it is decided one way or the other
    by_cases hmarks : MarksSetup source i j
    · obtain ⟨⟨m, hm, hgroup⟩, hnone⟩ := exists_matchFrom_setup htag hlt hend hfirst hmarks
      exact ⟨m, hgroup, fun _ => ⟨hm, hnone⟩, fun hnot => absurd hmarks hnot⟩
    · obtain ⟨⟨m, hm, hgroup⟩, hnone⟩ := exists_matchFrom_options htag hlt hend hfirst hmarks
      exact ⟨m, hgroup, fun hmarks' => absurd hmarks' hmarks, fun _ => ⟨hm, hnone⟩⟩
  · obtain ⟨e, hleads⟩ := (isSome_matchFrom_iff hi).mp hblock
    rw [regex_setupScript] at hleads
    obtain ⟨k, htag, -⟩ := exists_of_leads_block hleads
    exact (isSome_matchFrom_iff hi).mpr ⟨k, htag⟩
  · rw [formOf_eq_setup_iff, isSome_search_setupTag, ← isSome_search_optionsScript,
      Bool.not_eq_true]

/-- A block of the short form in mixed case, with a tag inside that does not end it, and a block
whose tag only looks as if it had the attribute. -/
theorem script_blocks_have_one_form_mixed :
    let source := "<Script SETUP>a</script ></SCRIPT><script data-setup>b</script>".toList
    IsTag source 0 13 ∧ MarksSetup source 0 13 ∧ EndsBlock source 25 ∧
      (∃ m, Vue.setupScript.regex.matchFrom source 0 = some m ∧
        m.group? 1 = some "a</script >".toList) ∧
      Vue.optionsScript.regex.matchFrom source 0 = none ∧
      ¬∃ script, formOf source = .setup script := by
  intro source
  have htag : IsTag source 0 13 := by decide +kernel
  have hmarks : MarksSetup source 0 13 := by decide +kernel
  have hends : EndsBlock source 25 := by decide +kernel
  have hearlier : ∀ k < 25, 13 < k → ¬EndsBlock source k := by decide +kernel
  obtain ⟨hblock, -, -, hsetup⟩ := script_blocks_have_one_form source
  obtain ⟨e, hlt, hend, hfirst, m, hgroup, hmatch, -⟩ := hblock 0 13 htag ⟨25, by decide, hends⟩
  obtain ⟨hm, hnone⟩ := hmatch hmarks
  -- the closing tag with a blank in it does not count, so the first end is the later one
  obtain rfl : e = 25 := by
    have hle := hfirst 25 (by decide) hends
    exact Nat.le_antisymm hle (Nat.le_of_not_lt fun hlow => hearlier e hlow hlt hend)
  refine ⟨htag, hmarks, hends, ⟨m, hm, hgroup.trans (by decide +kernel)⟩, hnone, ?_⟩
  rw [hsetup]
  exact fun h => h.1 ⟨34, 52, by decide +kernel, by decide +kernel, 54, by decide,
    by decide +kernel⟩

end Extract.Vue

end SourceAtlas
