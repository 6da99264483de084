import SourceAtlas.Extract.JavaScript
import SourceAtlas.Proofs.Regex.Identifiers

/-!
# Functions and methods have whole names

Three patterns find functions and methods by a name in front of a parameter list. None of them says
that the name has to start at a word boundary, so at a later offset of `reload(x) {` the pattern
matches again, with `load` for the name. That this match is never reported rests on the search:

* Behind the name comes a blank, a parenthesis or a colon, so the name goes on to the end of its
  identifier (`Bounds.begins`).
* If the identifier started earlier, the pattern would match there as well, with the rest of the
  match unchanged. A search reports the first of these matches, unless it had to skip that offset
  because an earlier match was still going on. But every match ends with a brace or a parenthesis
  (`Bounds.ends`), which cannot stand inside of an identifier (`exists_end_between`).
* The pattern of class methods may take modifiers and a `#` in front of the name. Then the name
  starts behind a blank or behind the `#`, and neither stands inside of an identifier.

So a name is never a fragment of an identifier, and in particular never one of a control word: where
the pattern matches at a control word, the match has the whole of it for the name, and is discarded.

* `isWhole_of_leading`, `isWhole_of_classMethod` — the names of all matches;
* `exists_namedAt_of_functionOf`, `exists_namedAt_of_mem_methods`, `exists_namedAt_of_mem_classes` —
  what is recorded;
* `names_are_whole_identifiers` — both together.
-/

namespace SourceAtlas

/-- The contents of a brace block stand behind a brace. -/
theorem Block.exists_of_braceContents? {text body : List Char} {start : Nat}
    (h : braceContents? text start = some body) :
    ∃ before after, text = before ++ ('{' :: body ++ after) := by
  unfold braceContents? at h
  split at h
  · cases h
  · next c cs hcs =>
    have hbrace : c = '{' := by
      have hhead := List.head?_dropWhile_not (fun c => decide (c ≠ '{')) (text.drop start)
      rw [hcs] at hhead
      simpa using hhead
    obtain ⟨skipped, hskipped⟩ : ∃ skipped, skipped ++ '{' :: cs = text.drop start := by
      rw [← hbrace, ← hcs]
      exact List.dropWhile_suffix _
    -- the contents are all that follows, or a front of it
    obtain ⟨after, hafter⟩ : ∃ after, body ++ after = cs := by
      obtain rfl := Option.some.inj h
      unfold Found.ofOpener
      split
      · exact ⟨_, List.take_append_drop _ cs⟩
      · exact ⟨[], List.append_nil cs⟩
    refine ⟨text.take start ++ skipped, after, ?_⟩
    rw [List.cons_append, hafter, List.append_assoc, hskipped, List.take_append_drop]

namespace Regex

variable {text : List Char} {i j k : Nat}

/-- A parameter list starts and ends with parentheses. -/
theorem ends_of_leads_parameters {index : Nat} (h : Leads (parameters index) text i j) :
    text[i]? = some '(' ∧ i < j ∧ text[j - 1]? = some ')' := by
  obtain ⟨i', hfirst, h⟩ := (leads_cat_cons rfl).mp h
  obtain ⟨rfl, hopen⟩ := leads_lit.mp hfirst
  obtain ⟨k, hinner, hlast⟩ := (leads_cat_cons rfl).mp h
  obtain ⟨rfl, hclose⟩ := leads_lit.mp hlast
  have hle := hinner.le
  exact ⟨hopen, by omega, hclose⟩

/-! ### What follows a name -/

/-- **What follows a name in a pattern:** it starts with a character that cannot go on with the
name, and ends with one that no name holds. -/
structure Bounds (rest : List Regex) (c : Char) : Prop where
  /-- No group is asked for. -/
  recalls : (cat rest).recalls = false
  /-- The first character does not go on with a name. -/
  begins : ∀ {text i j}, Leads (cat rest) text i j →
    i < text.length ∧ text[i]?.any isScriptContinuer = false
  /-- The last character is the given one. -/
  ends : ∀ {text i j}, Leads (cat rest) text i j → i < j ∧ text[j - 1]? = some c
  /-- No name holds it. -/
  outside : isScriptContinuer c = false

/-- Parameters and the brace of a body. -/
theorem bounds_body (index : Nat) : Bounds [blanks, parameters index, blanks, lit '{'] '{' where
  recalls := rfl
  begins := by
    intro text i j h
    obtain ⟨k, hblanks, h⟩ := (leads_cat_cons rfl).mp h
    obtain ⟨k', hparameters, -⟩ := (leads_cat_cons rfl).mp h
    exact break_of_leads_blanks (by decide) hblanks (ends_of_leads_parameters hparameters).1
  ends := by
    intro text i j h
    have hsplit : Leads (cat ([blanks, parameters index, blanks] ++ [lit '{'])) text i j := h
    obtain ⟨k, hfront, hlast⟩ := (leads_cat_append rfl).mp hsplit
    obtain ⟨rfl, hbrace⟩ := leads_lit.mp hlast
    exact ⟨Nat.lt_succ_of_le hfront.le, hbrace⟩
  outside := by decide

/-- A colon, the word for a function, and parameters. -/
theorem bounds_functionValue (index : Nat) :
    Bounds [blanks, lit ':', blanks, Regex.text "function", blanks, parameters index] ')' where
  recalls := rfl
  begins := by
    intro text i j h
    obtain ⟨k, hblanks, h⟩ := (leads_cat_cons rfl).mp h
    obtain ⟨k', hcolon, -⟩ := (leads_cat_cons rfl).mp h
    exact break_of_leads_blanks (by decide) hblanks (leads_lit.mp hcolon).2
  ends := by
    intro text i j h
    have hsplit : Leads (cat ([blanks, lit ':', blanks, Regex.text "function", blanks] ++
        [parameters index])) text i j := h
    obtain ⟨k, hfront, hparameters⟩ := (leads_cat_append rfl).mp hsplit
    obtain ⟨-, hlt, hclose⟩ := ends_of_leads_parameters hparameters
    exact ⟨Nat.lt_of_le_of_lt hfront.le hlt, hclose⟩
  outside := by decide

section Bounds

variable {front rest : List Regex} {c : Char} {r body : Regex} {g : Nat} {m : Match}

/-- A pattern ends as what follows its name does. -/
theorem Bounds.ends_cat (hrest : Bounds rest c) (hr : r.recalls = false)
    (h : Leads (cat (front ++ r :: rest)) text i j) : i < j ∧ text[j - 1]? = some c := by
  have hlast : (cat (r :: rest)).recalls = false := by
    rw [recalls_cat_cons, hr, hrest.recalls]
    rfl
  obtain ⟨k, hfront, h⟩ := (leads_cat_append hlast).mp h
  obtain ⟨k', hname, h⟩ := (leads_cat_cons hrest.recalls).mp h
  obtain ⟨hlt, hend⟩ := hrest.ends h
  have hle := hfront.le
  have hle' := hname.le
  exact ⟨by omega, hend⟩

/-- **In front of a match, the pattern matches only before a character that no name holds.** -/
theorem Bounds.exists_break (hrest : Bounds rest c) (hr : r.recalls = false)
    (hm : m ∈ (cat (front ++ r :: rest)).findAll text)
    (h : Leads (cat (front ++ r :: rest)) text i j) (hi : i < m.startPos) :
    ∃ k, i ≤ k ∧ k < m.startPos ∧ text[k]?.any isScriptContinuer = false := by
  obtain ⟨k, hik, hk, hc⟩ := exists_end_between (hrest.ends_cat hr) hm h hi
  refine ⟨k, hik, hk, ?_⟩
  rw [hc]
  exact hrest.outside

end Bounds

/-! ### The names of all matches -/

/-- **A capture holds a whole identifier,** which starts at an offset: it is the identifier, or a
`#` in front of it. There is more of the text behind it. -/
structure HoldsWhole (text : List Char) (c : Capture) (start : Nat) : Prop where
  /-- The identifier is whole. -/
  whole : IsWhole text start c.stop.pos
  /-- The text goes on behind it. -/
  inner : c.stop.pos < text.length
  /-- It is the captured text, up to a `#`. -/
  captured : c.start.pos = start ∧ c.text = text.extract start c.stop.pos ∨
    c.start.pos + 1 = start ∧ c.text = '#' :: text.extract start c.stop.pos

/-- A captured name has only characters of identifiers, and perhaps the sign of a private member. -/
theorem HoldsWhole.mem_text {c : Capture} {start : Nat} (h : HoldsWhole text c start) {ch : Char}
    (hch : ch ∈ c.text) : isScriptContinuer ch = true ∨ ch = '#' := by
  have hident : ch ∈ text.extract start c.stop.pos → isScriptContinuer ch = true :=
    (leads_ident.mp h.whole.leads).2.2.of_mem_extract
  rcases h.captured with ⟨-, heq⟩ | ⟨-, heq⟩
  · rw [heq] at hch
    exact .inl (hident hch)
  · rw [heq] at hch
    exact (List.mem_cons.mp hch).elim .inr fun hmem => .inl (hident hmem)

theorem HoldsWhole.text_ne_nil {c : Capture} {start : Nat} (h : HoldsWhole text c start) :
    c.text ≠ [] := by
  have hlength := length_extract (i := start) h.whole.inside
  have hlt := h.whole.lt
  rcases h.captured with ⟨-, heq⟩ | ⟨-, heq⟩
  · rw [heq, ← List.length_pos_iff, hlength]
    omega
  · rw [heq]
    exact List.cons_ne_nil _ _

section Names

variable {rest : List Regex} {c : Char} {g : Nat} {m : Match}

/-- **A name at the start of a pattern is a whole identifier.** -/
theorem isWhole_of_leading (hrest : Bounds rest c) (hlater : bodies g (cat rest) = [])
    (hm : m ∈ (cat (.group g ident :: rest)).findAll text) :
    ∃ capture start, m.final.capture? g = some capture ∧ HoldsWhole text capture start := by
  have hmatch : IsMatch (cat ([] ++ .group g ident :: rest)) text m := isMatch_of_mem_findAll hm
  obtain ⟨i, j, hfront, hname, hafter, hcapture⟩ := hmatch.exists_capture rfl hrest.recalls hlater
  obtain ⟨-, rfl⟩ := leads_empty.mp hfront
  obtain ⟨hinner, hlast⟩ := hrest.begins hafter
  refine ⟨_, m.startPos, hcapture, ?_, hinner, .inl ⟨rfl, rfl⟩⟩
  refine .of_break hname hlast fun q hq hlonger => ?_
  -- an identifier that starts earlier would make a match with the same rest
  have hearlier : Leads (cat ([] ++ .group g ident :: rest)) text q m.endPos :=
    (leads_cat_cons hrest.recalls).mpr ⟨j, leads_group.mpr hlonger, hafter⟩
  obtain ⟨k, hqk, hk, hbreak⟩ := hrest.exists_break rfl hm hearlier hq
  exact ⟨k, hqk, Nat.lt_of_lt_of_le hk hname.le, hbreak⟩

/-- Modifiers end with a blank. -/
theorem blank_of_leads_modifiers {words : Regex} (hwords : words.recalls = false)
    (h : Leads (star (.seq words gap)) text i j) :
    i = j ∨ i < j ∧ text[j - 1]?.any isScriptContinuer = false := by
  have hbody : (Regex.seq words gap).recalls = false := by
    rw [recalls, hwords]
    rfl
  obtain ⟨-, hrounds⟩ := (leads_star hbody).mp h
  clear h
  induction hrounds with
  | refl => exact .inl rfl
  | @tail k j _ hround ih =>
    obtain ⟨k', hword, hgap⟩ := (leads_seq rfl).mp hround
    obtain ⟨k'', hone, hblanks⟩ := (leads_plus rfl).mp hgap
    obtain ⟨hle, hend, hcovered⟩ := leads_star_char.mp hblanks
    obtain ⟨rfl, hfirst⟩ := leads_char.mp hone
    -- the last character of the gap is the first one, or one of the others
    have hblank : text[j - 1]?.any Text.isBlank = true := by
      rcases Nat.eq_or_lt_of_le hle with rfl | hlt
      · exact hfirst
      · exact hcovered (j - 1) (by omega) (by omega)
    have hik : i ≤ k := ih.elim Nat.le_of_eq fun h => Nat.le_of_lt h.1
    have hkk := hword.le
    exact .inr ⟨by omega, not_continuer_of_blank hblank⟩

/-- The modifiers in front of a method. -/
def methodModifiers : Regex :=
  .group 1 (star (.seq (words ["static", "get", "set", "async"]) gap))

/-- The name of a method. -/
def methodName : Regex :=
  .group 2 (.seq (opt (lit '#')) ident)

theorem regex_classMethod : Pattern.JavaScript.classMethod.regex =
    cat ([methodModifiers] ++ methodName :: [blanks, parameters 3, blanks, lit '{']) := rfl

/-- An identifier may stand alone in front of the parameters. -/
theorem leads_classMethod_of_ident (hname : Leads ident text i j)
    (hafter : Leads (cat [blanks, parameters 3, blanks, lit '{']) text j k) :
    Leads Pattern.JavaScript.classMethod.regex text i k := by
  have hnone : Leads methodModifiers text i i :=
    leads_group.mpr ((leads_star rfl).mpr ⟨hname.le_length, .refl⟩)
  have hunmarked : Leads methodName text i j :=
    leads_group.mpr ((leads_seq rfl).mpr ⟨i, leads_opt.mpr (.inr ⟨hname.le_length, rfl⟩), hname⟩)
  exact (leads_cat_cons rfl).mpr ⟨i, hnone, (leads_cat_cons rfl).mpr ⟨j, hunmarked, hafter⟩⟩

/-- **The name of a class method is a whole identifier,** possibly behind a `#`. -/
theorem isWhole_of_classMethod (hm : m ∈ Pattern.JavaScript.classMethod.findAll text) :
    ∃ capture start, m.final.capture? 2 = some capture ∧ HoldsWhole text capture start := by
  have hrest := bounds_body 3
  have hmatch : IsMatch Pattern.JavaScript.classMethod.regex text m := isMatch_of_mem_findAll hm
  rw [regex_classMethod] at hmatch
  obtain ⟨i, j, hfront, hname, hafter, hcapture⟩ := hmatch.exists_capture rfl hrest.recalls rfl
  obtain ⟨hinner, hlast⟩ := hrest.begins hafter
  obtain ⟨k, hmark, hident⟩ := (leads_seq rfl).mp hname
  have hlt : k < j := (leads_ident.mp hident).1
  rcases leads_opt.mp hmark with hmark | ⟨-, rfl⟩
  · -- behind the mark, which no identifier holds
    obtain ⟨rfl, hsharp⟩ := leads_lit.mp hmark
    have hwhole : IsWhole text (i + 1) j := by
      refine .of_break hident hlast fun q hq _ => ⟨i, Nat.le_of_lt_succ hq, by omega, ?_⟩
      rw [hsharp]
      rfl
    have htext : text.extract i j = '#' :: text.extract (i + 1) j :=
      extract_eq_cons hsharp (Nat.lt_of_succ_lt hlt)
    exact ⟨_, i + 1, hcapture, hwhole, hinner, .inr ⟨rfl, htext⟩⟩
  · have hwhole : IsWhole text k j := by
      refine .of_break hident hlast fun q hq hlonger => ?_
      rcases blank_of_leads_modifiers rfl (leads_group.mp hfront) with hnone | ⟨hfirst, hblank⟩
      · -- without modifiers the match starts with the name, and so would an earlier one
        have hearlier := leads_classMethod_of_ident hlonger hafter
        rw [regex_classMethod] at hearlier
        obtain ⟨k', hqk, hk, hbreak⟩ := hrest.exists_break rfl hm hearlier (hnone ▸ hq)
        exact ⟨k', hqk, by omega, hbreak⟩
      · -- behind the blank that ends the modifiers
        exact ⟨k - 1, by omega, by omega, hblank⟩
    exact ⟨_, k, hcapture, hwhole, hinner, .inl ⟨rfl, rfl⟩⟩

end Names

end Regex

namespace Extract.JavaScript

open Pattern Regex

/-! ### What is recorded -/

/-- The patterns whose name may start anywhere. -/
def unanchored : List Pattern :=
  [JavaScript.methodShorthand, JavaScript.objectFunctionValue, JavaScript.classMethod]

/-- **The name of every match of them is a whole identifier.** -/
theorem exists_holdsWhole {p : Pattern} (hp : p ∈ unanchored) {source : List Char} {m : Match}
    (hm : m ∈ p.findAll source) :
    ∃ g capture start, p.nameGroups = [g] ∧ m.final.capture? g = some capture ∧
      p.nameOf m = capture.text ∧ HoldsWhole source capture start := by
  obtain ⟨g, hgroups, hg, capture, start, hcapture, hholds⟩ : ∃ g, p.nameGroups = [g] ∧ g ≠ 0 ∧
      ∃ capture start, m.final.capture? g = some capture ∧ HoldsWhole source capture start := by
    simp only [unanchored, List.mem_cons, List.not_mem_nil, or_false] at hp
    rcases hp with rfl | rfl | rfl
    · exact ⟨1, rfl, Nat.one_ne_zero, isWhole_of_leading (bounds_body 2) rfl hm⟩
    · exact ⟨1, rfl, Nat.one_ne_zero, isWhole_of_leading (bounds_functionValue 2) rfl hm⟩
    · exact ⟨2, rfl, Nat.succ_ne_zero 1, isWhole_of_classMethod hm⟩
  refine ⟨g, capture, start, hgroups, hcapture, ?_, hholds⟩
  -- no character of a name is a blank, so trimming does nothing
  have hblanks : ∀ c ∈ capture.text, Text.isBlank c = false := by
    intro c hc
    rcases hholds.mem_text hc with hcontinuer | rfl
    · exact isBlank_of_isScriptContinuer hcontinuer
    · decide
  rw [nameOf, hgroups, firstGroup, List.findSome?_cons, group?_of_capture hg hcapture]
  exact Text.trim_eq_self hblanks

/-- **A name that is recorded for a text,** and the identifier that it is for. -/
structure NamedAt (text : List Char) (name : String) (start stop : Nat) : Prop where
  /-- The identifier is whole. -/
  whole : IsWhole text start stop
  /-- The text goes on behind it. -/
  inner : stop < text.length
  /-- The name is the identifier, or a `#` in front of it. -/
  spelled : name.toList = text.extract start stop ∨ name.toList = '#' :: text.extract start stop
  /-- The name is no control word. -/
  notControl : name ∉ JavaScript.controlWords
  /-- Nor is it cut out of one: where a control word covers the identifier, it is all of it, and the
  name has a `#` in front. -/
  notFragment : ∀ q e, q ≤ start → stop ≤ e → e ≤ text.length →
    String.ofList (text.extract q e) ∈ JavaScript.controlWords →
      name.toList = '#' :: text.extract q e

/-- Control words are identifiers. -/
theorem matchesWhole_of_mem_controlWords :
    ∀ w ∈ JavaScript.controlWords, ident.matchesWhole w.toList = true := by
  decide +kernel

/-- A whole identifier that is no control word is a name. -/
theorem NamedAt.of_whole {text : List Char} {name : String} {start stop : Nat}
    (whole : IsWhole text start stop) (inner : stop < text.length)
    (spelled : name.toList = text.extract start stop ∨ name.toList = '#' :: text.extract start stop)
    (notControl : name ∉ JavaScript.controlWords) : NamedAt text name start stop where
  whole := whole
  inner := inner
  spelled := spelled
  notControl := notControl
  notFragment := by
    intro q e hq he hin hcontrol
    have hident := matchesWhole_of_mem_controlWords _ hcontrol
    rw [String.toList_ofList] at hident
    obtain ⟨rfl, rfl⟩ := whole.eq_of_covers hq he hin hident
    refine spelled.resolve_left fun hname => notControl ?_
    rwa [← hname, String.ofList_toList] at hcontrol

/-- A match whose name is no control word gives a recorded name. -/
theorem exists_namedAt {p : Pattern} (hp : p ∈ unanchored) {source : List Char} {m : Match}
    (hm : m ∈ p.findAll source)
    (hcontrol : String.ofList (p.nameOf m) ∉ JavaScript.controlWords) :
    ∃ start stop, NamedAt source (String.ofList (p.nameOf m)) start stop := by
  obtain ⟨-, capture, start, -, -, hname, hholds⟩ := exists_holdsWhole hp hm
  refine ⟨start, capture.stop.pos, .of_whole hholds.whole hholds.inner ?_ hcontrol⟩
  rw [String.toList_ofList, hname]
  exact hholds.captured.imp And.right And.right

/-- **What a function pattern records.** -/
theorem exists_namedAt_of_functionOf {p : Pattern} (hp : p ∈ unanchored) {source : List Char}
    {m : Match} (hm : m ∈ p.findAll source) {filePath : String} {f : FunctionEntity}
    (hf : functionOf filePath p m = some f) : ∃ start stop, NamedAt source f.name start stop := by
  obtain ⟨-, capture, start, -, -, hname, hholds⟩ := exists_holdsWhole hp hm
  have hfound : String.ofList (p.nameOf m) ≠ "" := by
    rw [hname, Ne, String.ofList_eq_empty_iff]
    exact hholds.text_ne_nil
  simp only [functionOf, if_neg hfound] at hf
  split at hf
  · cases hf
  · next hcontrol =>
    obtain rfl := Option.some.inj hf
    exact exists_namedAt hp hm fun hmem => hcontrol (List.contains_iff_mem.mpr hmem)

theorem mem_of_mem_firstOfEachName {seen : List String} {l : List Method} {method : Method}
    (h : method ∈ firstOfEachName seen l) : method ∈ l := by
  fun_induction firstOfEachName seen l with
  | case1 => exact h
  | case2 seen m ms _ ih => exact List.mem_cons_of_mem m (ih h)
  | case3 seen m ms _ ih =>
    rcases List.mem_cons.mp h with rfl | h
    · exact List.mem_cons_self
    · exact List.mem_cons_of_mem m (ih h)

/-- **What is recorded for the body of a class.** -/
theorem exists_namedAt_of_mem_methods {body : List Char} {method : Method}
    (h : method ∈ methods body) : ∃ start stop, NamedAt body method.name start stop := by
  obtain ⟨p, hp, hmethod⟩ := List.mem_flatMap.mp (mem_of_mem_firstOfEachName h)
  obtain ⟨m, hm, hmethod⟩ := List.mem_filterMap.mp hmethod
  have hrole : ofRole JavaScript.table .classMember = [JavaScript.classMethod] := rfl
  rw [hrole, List.mem_singleton] at hp
  subst hp
  simp only [methodOf] at hmethod
  split at hmethod
  · cases hmethod
  · next hname =>
    obtain rfl := Option.some.inj hmethod
    exact exists_namedAt (by simp [unanchored]) hm fun hmem =>
      hname (.inr (List.contains_iff_mem.mpr hmem))

/-- A name that is recorded for what stands behind a brace is recorded for the whole text. -/
theorem NamedAt.shift {part : List Char} {name : String} {start stop : Nat}
    (h : NamedAt part name start stop) (before after : List Char) :
    NamedAt (before ++ ('{' :: part ++ after)) name (before.length + 1 + start)
      (before.length + 1 + stop) := by
  refine .of_whole (h.whole.shift h.inner (by decide) before after) ?_ ?_ h.notControl
  · have hinner := h.inner
    simp only [List.length_append, List.length_cons]
    omega
  · rw [extract_part h.whole.inside]
    exact h.spelled

/-- **What is recorded for the classes of a source.** -/
theorem exists_namedAt_of_mem_classes {source : List Char} {filePath : String} {cls : ClassEntity}
    (hcls : cls ∈ classes source filePath) {method : Method} (hmethod : method ∈ cls.methods) :
    ∃ start stop, NamedAt source method.name start stop := by
  obtain ⟨p, -, hcls⟩ := List.mem_flatMap.mp hcls
  obtain ⟨m, -, rfl⟩ := List.mem_map.mp hcls
  unfold classOf at hmethod
  dsimp only at hmethod
  split at hmethod
  · next body hbody =>
    obtain ⟨before, after, rfl⟩ := Block.exists_of_braceContents? hbody
    obtain ⟨start, stop, hnamed⟩ := exists_namedAt_of_mem_methods hmethod
    exact ⟨_, _, hnamed.shift before after⟩
  · cases hmethod

/-- **Functions and methods are recorded under whole identifiers.** For every source:

* Each match of a pattern whose name may start anywhere has one group for the name, and that group
  holds a whole identifier, possibly behind a `#`: no longer identifier ends where it ends, and the
  character behind it does not go on with it.
* So what such a function pattern records, what is recorded for the source as the body of a class,
  and what is recorded for the bodies of its classes are names of whole identifiers. None of them is
  a control word, and none is cut out of one. -/
theorem names_are_whole_identifiers (source : List Char) (filePath : String) :
    (∀ p ∈ [JavaScript.methodShorthand, JavaScript.objectFunctionValue, JavaScript.classMethod],
      ∀ m ∈ p.findAll source, ∃ g capture start, p.nameGroups = [g] ∧
        m.final.capture? g = some capture ∧ p.nameOf m = capture.text ∧
        HoldsWhole source capture start) ∧
    (∀ p ∈ [JavaScript.methodShorthand, JavaScript.objectFunctionValue],
      ∀ f ∈ (p.findAll source).filterMap (functionOf filePath p),
        ∃ start stop, NamedAt source f.name start stop) ∧
    (∀ method ∈ methods source, ∃ start stop, NamedAt source method.name start stop) ∧
    ∀ cls ∈ classes source filePath, ∀ method ∈ cls.methods,
      ∃ start stop, NamedAt source method.name start stop := by
  refine ⟨fun p hp m hm => exists_holdsWhole hp hm, fun p hp f hf => ?_,
    fun method hmethod => exists_namedAt_of_mem_methods hmethod,
    fun cls hcls method hmethod => exists_namedAt_of_mem_classes hcls hmethod⟩
  obtain ⟨m, hm, hf⟩ := List.mem_filterMap.mp hf
  -- the two patterns for functions are among the three without an anchor
  have hunanchored : p ∈ unanchored := by
    simp only [List.mem_cons, List.not_mem_nil, or_false] at hp
    rcases hp with rfl | rfl
    · exact List.mem_cons_self
    · exact List.mem_cons_of_mem _ List.mem_cons_self
  exact exists_namedAt_of_functionOf hunanchored hm hf

/-- A class with one method, whose body has a control statement that looks like another one. -/
theorem names_are_whole_identifiers_reload :
    ((classes "class A { static reload(x) { if (x) { } } }".toList "a.js").flatMap (·.methods)).map
        (·.name) = ["reload"] ∧
      ∃ start stop,
        NamedAt "class A { static reload(x) { if (x) { } } }".toList "reload" start stop := by
  have hnames : ((classes "class A { static reload(x) { if (x) { } } }".toList "a.js").flatMap
      (·.methods)).map (·.name) = ["reload"] := by
    decide +kernel
  refine ⟨hnames, ?_⟩
  obtain ⟨method, hmethod, hname⟩ := List.mem_map.mp (hnames ▸ List.mem_singleton_self "reload")
  obtain ⟨cls, hcls, hmethod⟩ := List.mem_flatMap.mp hmethod
  rw [← hname]
  exact (names_are_whole_identifiers _ "a.js").2.2.2 cls hcls method hmethod

end Extract.JavaScript

end SourceAtlas
