import SourceAtlas.Component.Attributes
import SourceAtlas.Proofs.Order
import SourceAtlas.Proofs.Regex.Identifiers

/-!
# The hooks of a body are the hook calls in it

The pattern of a hook call reads `use` at a word boundary, then one of ten known names or any
identifier with a capital letter, then a parenthesis. What that means is said here without the
pattern: take a maximal run of identifier characters in front of a parenthesis, and of its ends that
look like a hook the longest one (`CallsHook`).

The two descriptions differ in three places, and each needs an argument:

* The known names are tried first. All of them are identifiers with a capital letter, so they lead
  nowhere that the wildcard does not (`leads_hook`), and the result is the same with any part of the
  list.
* `$` is an identifier character, but not one of words. So an identifier may have a word boundary
  inside, and one run may have several ends that look like a hook, all of which the pattern matches.
  The search reports the leftmost: an earlier one would have been passed only by a match that ends
  in front of the reported one, with a parenthesis inside of the run (`startPos_le_of_mem_findAll`).
* The search passes over the rest of a match. What it passes over lies in the same run, and ends
  where the match ends, so no run is lost (`exists_mem_findAll_of_run`).

* `mem_hooksWith_iff` — hooks are hook calls, whichever known names the pattern has;
* `hooks_are_the_hook_calls` — the hooks of a body, as a list.
-/

namespace SourceAtlas.Component

open Pattern Regex

variable {text body : List Char} {start stop i j k : Nat}

/-! ### Hook calls -/

/-- **A maximal run of identifier characters** of a text. -/
structure IsRun (text : List Char) (start stop : Nat) : Prop where
  /-- It is not empty. -/
  lt : start < stop
  /-- It has identifier characters only. -/
  covered : Covered isScriptContinuer text start stop
  /-- No identifier character stands before it. -/
  first : start = 0 ∨ text[start - 1]?.any isScriptContinuer = false
  /-- No identifier character stands behind it. -/
  last : text[stop]?.any isScriptContinuer = false

/-- **What looks like a hook,** up to an offset of a text: `use` at a word boundary, and a capital
letter. -/
structure LooksLikeHook (text : List Char) (i stop : Nat) : Prop where
  /-- There is room for four characters. -/
  room : i + 3 < stop
  /-- It starts with `use`. -/
  use : "use".toList <+: text.drop i
  /-- A capital letter follows. -/
  capital : text[i + 3]?.any Char.isUpper = true
  /-- A word boundary is in front. -/
  boundary : AtWordBoundary text i

/-- **A body calls a hook:** its name is the longest end that looks like a hook of a maximal run in
front of a parenthesis. -/
def CallsHook (body : List Char) (h : String) : Prop :=
  ∃ start stop i, IsRun body start stop ∧ body[stop]? = some '(' ∧
    start ≤ i ∧ LooksLikeHook body i stop ∧
    (∀ k, start ≤ k → LooksLikeHook body k stop → i ≤ k) ∧
    h.toList = body.extract i stop

/-- A stretch of identifier characters reaches back to where its run starts. -/
theorem exists_isRun (hlt : i < stop) (hcovered : Covered isScriptContinuer text i stop)
    (hlast : text[stop]?.any isScriptContinuer = false) : ∃ start ≤ i, IsRun text start stop := by
  induction i with
  | zero => exact ⟨0, Nat.le_refl 0, hlt, hcovered, .inl rfl, hlast⟩
  | succ i ih =>
    rcases hbefore : text[i]?.any isScriptContinuer with - | -
    · exact ⟨i + 1, Nat.le_refl _, hlt, hcovered, .inr hbefore, hlast⟩
    · have hlonger : Covered isScriptContinuer text i stop := by
        intro k hk hks
        rcases Nat.eq_or_lt_of_le hk with rfl | hk
        · exact hbefore
        · exact hcovered k hk hks
      obtain ⟨start, hstart, hrun⟩ := ih (Nat.lt_of_succ_lt hlt) hlonger
      exact ⟨start, Nat.le_succ_of_le hstart, hrun⟩

/-- A stretch that ends with a run starts in it. -/
theorem IsRun.start_le (h : IsRun text start stop)
    (hcovered : Covered isScriptContinuer text i stop) : start ≤ i := by
  refine Nat.le_of_not_lt fun hbefore => ?_
  rcases h.first with rfl | hfirst
  · exact Nat.not_lt_zero i hbefore
  · have hinside := hcovered (start - 1) (by omega) (by have := h.lt; omega)
    rw [hfirst] at hinside
    cases hinside

/-! ### The pattern with other known names -/

/-- The names that the pattern of hook calls knows. -/
def knownHooks : List String :=
  ["State", "Effect", "Context", "Reducer", "Callback", "Memo", "Ref", "ImperativeHandle",
    "LayoutEffect", "DebugValue"]

/-- The pattern of hook calls with given known names. -/
def hookPattern (names : List String) : Pattern :=
  { React.hook with
    regex := cat [Regex.boundary, Regex.text "use", oneOf (names.map Regex.text ++ [capitalIdent]),
      lit '('] }

/-- The hooks of a body, with given known names. -/
def hooksWith (names : List String) (body : List Char) : List String :=
  sortedDistinct (((hookPattern names).findAll body).map fun m =>
    String.ofList (Text.trimEndWhile (· == '(') ((hookPattern names).nameOf m)))

theorem hooksWith_knownHooks (body : List Char) : hooksWith knownHooks body = hooks body := rfl

/-- The known names are identifiers with a capital letter in front. -/
theorem capital_of_mem_knownHooks : ∀ name ∈ knownHooks,
    name.toList[0]?.any Char.isUpper = true ∧ name.toList.all isScriptContinuer = true := by
  decide +kernel

/-- Where a known name stands, the wildcard leads to its end. -/
theorem leads_capitalIdent_of_known {name : String} (hname : name ∈ knownHooks)
    (h : Leads (Regex.text name) text i j) : Leads capitalIdent text i j := by
  obtain ⟨-, rfl, hstands⟩ := leads_text.mp h
  obtain ⟨hcapital, hall⟩ := capital_of_mem_knownHooks name hname
  have hpos : 0 < name.toList.length := lt_length_of_any hcapital
  have hcovered := covered_of_isPrefix hstands hall
  have hfirst := getElem?_of_isPrefix hstands hpos
  rw [String.length_toList] at hpos hcovered
  rw [Nat.add_zero] at hfirst
  exact leads_capitalIdent.mpr ⟨by omega, hfirst ▸ hcapital, hcovered⟩

section Known

variable {names : List String} (hnames : names ⊆ knownHooks) {m : Match}

include hnames

/-- **The list of known names decides nothing:** whatever it has, the general form reads as well. -/
theorem leads_hookName :
    Leads (oneOf (names.map Regex.text ++ [capitalIdent])) text i j ↔
      Leads capitalIdent text i j := by
  rw [leads_oneOf]
  constructor
  · rintro ⟨r, hr, hleads⟩
    rcases List.mem_append.mp hr with hr | hr
    · obtain ⟨name, hname, rfl⟩ := List.mem_map.mp hr
      exact leads_capitalIdent_of_known (hnames hname) hleads
    · rwa [List.mem_singleton.mp hr] at hleads
  · intro hleads
    exact ⟨capitalIdent, List.mem_append_right _ (List.mem_singleton_self _), hleads⟩

/-- **Where the pattern leads,** whichever names it knows: from what looks like a hook behind the
next parenthesis. -/
theorem leads_hook : Leads (hookPattern names).regex text i j ↔ ∃ stop, j = stop + 1 ∧
    text[stop]? = some '(' ∧ LooksLikeHook text i stop ∧ Covered isScriptContinuer text i stop := by
  -- no part reads a group back, so the pattern can be cut anywhere
  have hname : (oneOf (names.map Regex.text ++ [capitalIdent])).recalls = false := by
    refine recalls_oneOf fun r hr => ?_
    rcases List.mem_append.mp hr with hr | hr
    · obtain ⟨name, -, rfl⟩ := List.mem_map.mp hr
      exact recalls_text name
    · rw [List.mem_singleton.mp hr]
      rfl
  have hrest : (cat [oneOf (names.map Regex.text ++ [capitalIdent]), lit '(']).recalls = false := by
    rw [recalls_cat_cons, hname]
    rfl
  have hcat : (cat [Regex.text "use", oneOf (names.map Regex.text ++ [capitalIdent]),
      lit '(']).recalls = false := by
    rw [recalls_cat_cons, recalls_text, hrest]
    rfl
  unfold hookPattern
  rw [leads_cat_cons hcat]
  constructor
  · rintro ⟨i', hboundary, h⟩
    obtain ⟨-, rfl, hboundary⟩ := leads_boundary.mp hboundary
    obtain ⟨k, hstart, h⟩ := (leads_cat_cons hrest).mp h
    obtain ⟨-, rfl, huse⟩ := leads_text.mp hstart
    obtain ⟨stop, hname, hlast⟩ := (leads_cat_cons rfl).mp h
    obtain ⟨rfl, hparen⟩ := leads_lit.mp hlast
    obtain ⟨hroom, hcapital, hcovered⟩ := leads_capitalIdent.mp ((leads_hookName hnames).mp hname)
    exact ⟨stop, rfl, hparen, ⟨hroom, huse, hcapital, hboundary⟩,
      (covered_of_isPrefix huse (by decide)).append hcovered⟩
  · rintro ⟨stop, rfl, hparen, hhook, hcovered⟩
    have hin : i + 3 < text.length := lt_length_of_any hhook.capital
    have hname : Leads capitalIdent text (i + 3) stop :=
      leads_capitalIdent.mpr ⟨hhook.room, hhook.capital, hcovered.of_le (Nat.le_add_right i 3)⟩
    have hparen : Leads (cat [oneOf (names.map Regex.text ++ [capitalIdent]), lit '(']) text (i + 3)
        (stop + 1) :=
      (leads_cat_cons rfl).mpr ⟨stop, (leads_hookName hnames).mpr hname,
        leads_lit.mpr ⟨rfl, hparen⟩⟩
    have huse : Leads (Regex.text "use") text i (i + 3) :=
      leads_text.mpr ⟨by omega, rfl, hhook.use⟩
    exact ⟨i, leads_boundary.mpr ⟨by omega, rfl, hhook.boundary⟩,
      (leads_cat_cons hrest).mpr ⟨i + 3, huse, hparen⟩⟩

/-- What a match gives: where it starts looks like a hook, up to the parenthesis that it ends with,
and the name is what stands between. -/
theorem hook_of_mem_findAll (hm : m ∈ (hookPattern names).findAll body) :
    ∃ stop, m.endPos = stop + 1 ∧ body[stop]? = some '(' ∧ LooksLikeHook body m.startPos stop ∧
      Covered isScriptContinuer body m.startPos stop ∧
      Text.trimEndWhile (· == '(') ((hookPattern names).nameOf m) =
        body.extract m.startPos stop := by
  have hmatch : IsMatch (hookPattern names).regex body m := isMatch_of_mem_findAll hm
  obtain ⟨stop, hend, hparen, hhook, hcovered⟩ := (leads_hook hnames).mp hmatch.leads
  refine ⟨stop, hend, hparen, hhook, hcovered, ?_⟩
  have hroom := hhook.room
  -- the match is the name with its parenthesis, which is trimmed again
  have htext : m.text = body.extract m.startPos stop ++ ['('] := by
    rw [hmatch.text_eq, hend, extract_succ hparen (by omega)]
  have hcontinuer : ∀ c ∈ body.extract m.startPos stop, isScriptContinuer c = true :=
    fun c hc => hcovered.of_mem_extract hc
  have hblank : ∀ c ∈ m.text, Text.isBlank c = false := by
    intro c hc
    rw [htext, List.mem_append, List.mem_singleton] at hc
    rcases hc with hc | rfl
    · exact isBlank_of_isScriptContinuer (hcontinuer c hc)
    · decide
  have hother : ∀ c ∈ body.extract m.startPos stop, (c == '(') = false := by
    intro c hc
    refine beq_eq_false_iff_ne.mpr ?_
    rintro rfl
    cases hcontinuer _ hc
  have hname : (hookPattern names).nameOf m = Text.trim m.text := rfl
  rw [hname, Text.trim_eq_self hblank, htext, Text.trimEndWhile_append_singleton rfl,
    Text.trimEndWhile_eq_self hother]

/-- The pattern leads from every end of a run that looks like a hook behind the run. -/
theorem leads_of_run (hrun : IsRun body start stop) (hparen : body[stop]? = some '(')
    (hi : start ≤ i) (hhook : LooksLikeHook body i stop) :
    Leads (hookPattern names).regex body i (stop + 1) :=
  (leads_hook hnames).mpr ⟨stop, rfl, hparen, hhook, hrun.covered.of_le hi⟩

/-- **The search reports the longest end of a run** that looks like a hook. -/
theorem startPos_le_of_mem_findAll (hm : m ∈ (hookPattern names).findAll body)
    (hrun : IsRun body start stop) (hparen : body[stop]? = some '(') (hend : m.startPos < stop)
    (hk : start ≤ k) (hhook : LooksLikeHook body k stop) : m.startPos ≤ k := by
  refine Nat.le_of_not_lt fun hlt => ?_
  have hends : ∀ {i j}, Leads (hookPattern names).regex body i j →
      i < j ∧ body[j - 1]? = some '(' := by
    intro i j h
    obtain ⟨stop, rfl, hparen, hhook, -⟩ := (leads_hook hnames).mp h
    have hroom := hhook.room
    exact ⟨by omega, hparen⟩
  -- the match that was in the way ends inside of the run
  obtain ⟨q, hkq, hq, hinner⟩ :=
    exists_end_between hends hm (leads_of_run hnames hrun hparen hk hhook) hlt
  have hcontinuer := hrun.covered q (by omega) (by omega)
  rw [hinner] at hcontinuer
  cases hcontinuer

/-- **No run is lost:** one of the matches ends with it. -/
theorem exists_mem_findAll_of_run (hrun : IsRun body start stop) (hparen : body[stop]? = some '(')
    (hi : start ≤ i) (hhook : LooksLikeHook body i stop) :
    ∃ m ∈ (hookPattern names).findAll body, start ≤ m.startPos ∧ m.startPos ≤ i ∧
      m.endPos = stop + 1 := by
  obtain ⟨m, hm, hle, hspan⟩ := (leads_of_run hnames hrun hparen hi hhook).exists_mem_findAll
  obtain ⟨stop', hend, hparen', hhook', hcovered', -⟩ := hook_of_mem_findAll hnames hm
  have hroom := hhook.room
  have hroom' := hhook'.room
  -- a parenthesis is in no stretch of identifier characters, so both end at the same one
  have hstop : stop' = stop := by
    rcases Nat.lt_trichotomy stop' stop with hlt | heq | hgt
    · have hinside := hrun.covered stop' (by omega) hlt
      rw [hparen'] at hinside
      cases hinside
    · exact heq
    · have hinside := hcovered' stop (by omega) hgt
      rw [hparen] at hinside
      cases hinside
  subst hstop
  exact ⟨m, hm, hrun.start_le hcovered', hle, hend⟩

/-- **Hooks are hook calls,** whichever names the pattern knows. -/
theorem mem_hooksWith_iff {h : String} : h ∈ hooksWith names body ↔ CallsHook body h := by
  rw [hooksWith, mem_sortedDistinct, List.mem_map]
  constructor
  · rintro ⟨m, hm, rfl⟩
    obtain ⟨stop, hend, hparen, hhook, hcovered, hname⟩ := hook_of_mem_findAll hnames hm
    have hroom := hhook.room
    have hlast : body[stop]?.any isScriptContinuer = false := by
      rw [hparen]
      rfl
    obtain ⟨start, hstart, hrun⟩ := exists_isRun (by omega) hcovered hlast
    refine ⟨start, stop, m.startPos, hrun, hparen, hstart, hhook, fun k hk hother => ?_, ?_⟩
    · exact startPos_le_of_mem_findAll hnames hm hrun hparen (by omega) hk hother
    · rw [String.toList_ofList, hname]
  · rintro ⟨start, stop, i, hrun, hparen, hi, hhook, hlongest, hh⟩
    obtain ⟨m, hm, hstart, hle, hend⟩ := exists_mem_findAll_of_run hnames hrun hparen hi hhook
    obtain ⟨stop', hend', -, hhook', -, hname⟩ := hook_of_mem_findAll hnames hm
    obtain rfl : stop' = stop := by omega
    -- the match starts no earlier than the longest end
    obtain rfl : i = m.startPos := Nat.le_antisymm (hlongest m.startPos hstart hhook') hle
    exact ⟨m, hm, by rw [hname, ← hh, String.ofList_toList]⟩

end Known

theorem not_mem_of_callsHook {h : String} (hcall : CallsHook body h) : '(' ∉ h.toList := by
  obtain ⟨start, stop, i, hrun, -, hi, -, -, hh⟩ := hcall
  intro hmem
  rw [hh] at hmem
  cases (hrun.covered.of_le hi).of_mem_extract hmem

/-- **The hooks of a body are the hook calls in it.** For every body, the list is strictly
increasing. Its items are just the longest ends that look like a hook of the maximal runs of
identifier characters in front of a parenthesis, and none of them holds a parenthesis. With fewer
known names, or with none, the pattern gives the same list. -/
theorem hooks_are_the_hook_calls (body : List Char) :
    (hooks body).Pairwise CodeLt ∧ (∀ h, h ∈ hooks body ↔ CallsHook body h) ∧
      (∀ h ∈ hooks body, '(' ∉ h.toList) ∧
      ∀ names ⊆ knownHooks, hooksWith names body = hooks body := by
  have hcalls : ∀ h, h ∈ hooks body ↔ CallsHook body h := fun h => by
    rw [← hooksWith_knownHooks]
    exact mem_hooksWith_iff (List.Subset.refl knownHooks)
  refine ⟨pairwise_sortedDistinct _, hcalls, fun h hh => not_mem_of_callsHook ((hcalls h).mp hh),
    ?_⟩
  intro names hnames
  refine eq_of_pairwise_of_mem_iff (fun _ _ => CodeLt.asymm) (pairwise_sortedDistinct _)
    (pairwise_sortedDistinct _) fun h => ?_
  exact (mem_hooksWith_iff hnames).trans (hcalls h).symm

/-- A run with two ends that look like a hook, and one where `use` is not at a word boundary. The
longer of the two ends is called, and it is found without known names as well. -/
theorem hooks_are_the_hook_calls_dollar :
    hooks "useA$useB(reuseC(x))".toList = ["useA$useB"] ∧
      CallsHook "useA$useB(reuseC(x))".toList "useA$useB" ∧
      hooksWith [] "useA$useB(reuseC(x))".toList = ["useA$useB"] := by
  have hhooks : hooks "useA$useB(reuseC(x))".toList = ["useA$useB"] := by decide +kernel
  obtain ⟨-, hcalls, -, hnames⟩ := hooks_are_the_hook_calls "useA$useB(reuseC(x))".toList
  refine ⟨hhooks, (hcalls _).mp ?_, (hnames [] (List.nil_subset _)).trans hhooks⟩
  rw [hhooks]
  exact List.mem_singleton_self _

end SourceAtlas.Component
