import SourceAtlas.Extract.React
import SourceAtlas.Proofs.Merging
import SourceAtlas.Proofs.Regex.Captures

/-!
# Components of a file are told apart by their names

Three patterns look for components, and one component is often found by more than one of them, or
more than once by one of them. The extractor keeps a name set and passes over what it has seen; the
merge of several files keeps a key set and does the same. Inside of one file the two agree: kind and
file are the same for all components, so a key is as good as a name. The extractor also passes over
names without a capital letter. That test never fails, since the group that holds the name starts
with a capital letter in every pattern of the table, and a name that starts with a letter is not cut
off at its start when blanks are trimmed.

* `isComponentName_nameOf` — every name that is matched starts with a capital letter;
* `map_firstOfEachName` — keeping the first of each name is keeping the first of each key;
* `components_are_first_discoveries` — what the extractor reports.
-/

namespace SourceAtlas

/-! ### Lists with distinct keys -/

/-- Where every key is new and occurs once, nothing is dropped. -/
theorem keepNew_eq_self {seen : List (String × String × String)} {l : List Entity}
    (hkeys : l.Pairwise fun a b => a.key ≠ b.key) (hnew : ∀ e ∈ l, e.key ∉ seen) :
    deduplicate.keepNew seen l = l := by
  induction l generalizing seen with
  | nil => rfl
  | cons e l ih =>
    obtain ⟨hhead, hkeys⟩ := List.pairwise_cons.mp hkeys
    obtain ⟨he, hnew⟩ := List.forall_mem_cons.mp hnew
    have hunseen : ¬seen.contains e.key = true := fun h => he (List.contains_iff_mem.mp h)
    have hlater : ∀ x ∈ l, x.key ∉ e.key :: seen := by
      intro x hx hmem
      rcases List.mem_cons.mp hmem with heq | hmem
      · exact hhead x hx heq.symm
      · exact hnew x hx hmem
    rw [deduplicate.keepNew, if_neg hunseen, ih hkeys hlater]

/-- **Dropping repetitions a second time changes nothing.** -/
theorem deduplicate_deduplicate (l : List Entity) : deduplicate (deduplicate l) = deduplicate l :=
  keepNew_eq_self (pairwise_key_keepNew [] l) fun _ _ => List.not_mem_nil

/-! ### Names that start with a capital letter -/

namespace Text

/-- Trimming keeps a text that does not start with a blank at its start. -/
theorem head?_trim_cons {c : Char} (hc : isBlank c = false) (cs : List Char) :
    (trim (c :: cs)).head? = some c := by
  have hkept : (c :: cs).dropWhile isBlank = c :: cs := by
    rw [List.dropWhile_cons, if_neg (Bool.eq_false_iff.mp hc)]
  have hend : [c].dropWhile isBlank = [c] := by
    rw [List.dropWhile_cons, if_neg (Bool.eq_false_iff.mp hc)]
  rw [trim, trimWhile, hkept, trimEndWhile, List.reverse_cons, List.dropWhile_append, hend]
  -- whatever is cut off at the end, the first character stays where it is
  split
  · rfl
  · rw [List.reverse_append]
    rfl

/-- Capital letters of the first 128 code points. -/
theorem isUpper_iff {c : Char} : c.isUpper = true ↔ 'A' ≤ c ∧ c ≤ 'Z' := by
  show decide ('A' ≤ c ∧ c ≤ 'Z') = true ↔ _
  exact decide_eq_true_iff

theorem isBlank_of_isUpper {c : Char} (h : c.isUpper = true) : isBlank c = false := by
  have hrange : 0x41 ≤ c.toNat ∧ c.toNat ≤ 0x5a := isUpper_iff.mp h
  simp only [isBlank, Bool.or_eq_false_iff, Bool.and_eq_false_iff, beq_eq_false_iff_ne,
    decide_eq_false_iff_not]
  omega

end Text

namespace Extract.React

open Pattern Regex

/-- The three patterns that find components, in table order. -/
def componentPatterns : List Pattern :=
  [React.componentFunction, React.componentArrow, React.componentClass]

theorem ofRole_component : ofRole React.table .component = componentPatterns := rfl

/-- In each of them the name is held by one group, which no match leaves out and whose body is an
identifier with a capital letter. -/
theorem names_of_componentPatterns :
    ∀ p ∈ componentPatterns,
      p.nameGroups = [1] ∧ p.regex.sets 1 = true ∧ p.regex.bodies 1 = [capitalIdent] := by
  intro p hp
  simp only [componentPatterns, List.mem_cons, List.not_mem_nil, or_false] at hp
  rcases hp with rfl | rfl | rfl
  · exact ⟨rfl, by decide +kernel, rfl⟩
  · exact ⟨rfl, by decide +kernel, rfl⟩
  · exact ⟨rfl, by decide +kernel, rfl⟩

/-- **The name of every match starts with a capital letter.** -/
theorem isComponentName_nameOf {p : Pattern} (hp : p ∈ componentPatterns) {source : List Char}
    {m : Match} (hm : m ∈ p.findAll source) : isComponentName (p.nameOf m) = true := by
  obtain ⟨hgroups, hsets, hbodies⟩ := names_of_componentPatterns p hp
  have hmatch : IsMatch p.regex source m := isMatch_of_mem_findAll hm
  obtain ⟨found, hfound⟩ := hmatch.exists_group hsets
  obtain ⟨c, ⟨body, hbody, s, s', hs', rfl⟩, htext⟩ :=
    hmatch.captured_of_group Nat.one_ne_zero hfound
  rw [hbodies, List.mem_singleton] at hbody
  subst hbody
  obtain ⟨ch, cs, hcs, hupper⟩ := exists_cons_of_mem_ways hs'
  have hname : p.nameOf m = Text.trim (ch :: cs) := by
    rw [nameOf, hgroups, firstGroup, List.findSome?_cons, hfound, ← hcs, ← htext]
    rfl
  rw [isComponentName, hname, Text.head?_trim_cons (Text.isBlank_of_isUpper hupper)]
  exact hupper

/-- The matches that components are made of. -/
theorem mem_matched_iff {source : List Char} {p : Pattern} {m : Match} :
    (p, m) ∈ matched source ↔ p ∈ componentPatterns ∧ m ∈ p.findAll source := by
  rw [matched, ofRole_component]
  constructor
  · intro h
    obtain ⟨_, hp, hx⟩ := List.mem_flatMap.mp h
    obtain ⟨_, hm, heq⟩ := List.mem_map.mp hx
    obtain ⟨rfl, rfl⟩ := Prod.mk.inj heq
    exact ⟨hp, hm⟩
  · rintro ⟨hp, hm⟩
    exact List.mem_flatMap.mpr ⟨p, hp, List.mem_map.mpr ⟨m, hm, rfl⟩⟩

/-! ### The first of each name -/

/-- What one match gives, as an entity. -/
def discovery (source : List Char) (filePath : String) (x : Pattern × Match) : Entity :=
  .component (componentOf source filePath x.1 x.2)

/-- **Everything that is found,** one component for each match of each pattern, repetitions
included. -/
def discoveries (source : List Char) (filePath : String) : List Entity :=
  componentPatterns.flatMap fun p => (p.findAll source).map fun m =>
    discovery source filePath (p, m)

/-- The key of a component of a file. -/
def keyOf (filePath : String) (name : List Char) : String × String × String :=
  ("component", String.ofList name, filePath)

/-- Within a file, the key of a component is its name. -/
theorem keyOf_injective (filePath : String) : Function.Injective (keyOf filePath) := by
  intro name name' h
  exact String.ofList_injective (Prod.mk.inj (Prod.mk.inj h).2).1

theorem key_discovery (source : List Char) (filePath : String) (x : Pattern × Match) :
    (discovery source filePath x).key = keyOf filePath (x.1.nameOf x.2) := rfl

/-- Each match is a discovery of the merged list. -/
theorem map_discovery_matched (source : List Char) (filePath : String) :
    (matched source).map (discovery source filePath) = discoveries source filePath := by
  rw [matched, ofRole_component, List.map_flatMap, discoveries]
  simp only [List.map_map, Function.comp_def]

/-- **Keeping the first of each name is keeping the first of each key.** -/
theorem map_firstOfEachName (source : List Char) (filePath : String) (seen : List (List Char))
    {found : List (Pattern × Match)}
    (hnames : ∀ x ∈ found, isComponentName (x.1.nameOf x.2) = true) :
    (firstOfEachName seen found).map (discovery source filePath) =
      deduplicate.keepNew (seen.map (keyOf filePath)) (found.map (discovery source filePath)) := by
  induction found generalizing seen with
  | nil => rfl
  | cons x found ih =>
    obtain ⟨p, m⟩ := x
    obtain ⟨hname, hnames⟩ := List.forall_mem_cons.mp hnames
    -- within a file, to have seen a name is to have seen its key
    have hseen : (seen.map (keyOf filePath)).contains (discovery source filePath (p, m)).key =
        seen.contains (p.nameOf m) := by
      rw [Bool.eq_iff_iff, List.contains_iff_mem, List.contains_iff_mem, key_discovery,
        List.mem_map_of_injective (keyOf_injective filePath)]
    rw [firstOfEachName, List.map_cons, deduplicate.keepNew, hseen, hname, Bool.not_true,
      Bool.false_or]
    by_cases hold : seen.contains (p.nameOf m) = true
    · rw [if_pos hold, if_pos hold]
      exact ih seen hnames
    · rw [if_neg hold, if_neg hold, List.map_cons, ih _ hnames]
      rfl

/-- **The components of a file are the first discoveries.** -/
theorem entities_eq_deduplicate (source : List Char) (filePath : String) :
    entities source filePath = deduplicate (discoveries source filePath) := by
  have hnames : ∀ x ∈ matched source, isComponentName (x.1.nameOf x.2) = true := by
    rintro ⟨p, m⟩ hx
    obtain ⟨hp, hm⟩ := mem_matched_iff.mp hx
    exact isComponentName_nameOf hp hm
  rw [entities, components, List.map_map, deduplicate, ← map_discovery_matched]
  exact map_firstOfEachName source filePath [] hnames

section Discoveries

variable {source : List Char} {filePath : String} {e : Entity}

/-- What is discovered, before anything is left out. -/
theorem mem_discoveries_iff :
    e ∈ discoveries source filePath ↔
      ∃ p ∈ componentPatterns, ∃ m ∈ p.findAll source, discovery source filePath (p, m) = e := by
  simp only [discoveries, List.mem_flatMap, List.mem_map]

/-- The components of a file have its path and the same kind, so their names tell them apart. -/
theorem key_of_mem_discoveries (h : e ∈ discoveries source filePath) :
    e.key = keyOf filePath e.name.toList := by
  obtain ⟨p, -, m, -, rfl⟩ := mem_discoveries_iff.mp h
  rw [keyOf, String.ofList_toList]
  rfl

/-- **A discovered component has a capital letter in front.** -/
theorem head_of_mem_discoveries (h : e ∈ discoveries source filePath) :
    ∃ c ∈ e.name.toList.head?, 'A' ≤ c ∧ c ≤ 'Z' := by
  obtain ⟨p, hp, m, hm, rfl⟩ := mem_discoveries_iff.mp h
  obtain ⟨c, hc, hupper⟩ := (Option.any_eq_true _ _).mp (isComponentName_nameOf hp hm)
  have hname : (discovery source filePath (p, m)).name.toList = p.nameOf m := String.toList_ofList
  exact ⟨c, hname ▸ hc, Text.isUpper_iff.mp hupper⟩

/-- What is reported was discovered. -/
theorem mem_of_mem_entities (h : e ∈ entities source filePath) :
    e ∈ discoveries source filePath := by
  rw [entities_eq_deduplicate, mem_deduplicate_iff] at h
  exact h.mem

end Discoveries

/-- No name is reported twice. -/
theorem nodup_names_entities (source : List Char) (filePath : String) :
    ((entities source filePath).map Entity.name).Nodup := by
  rw [List.Nodup, List.pairwise_map]
  have hkeys : (entities source filePath).Pairwise fun a b => a.key ≠ b.key := by
    rw [entities_eq_deduplicate]
    exact pairwise_key_keepNew [] _
  refine hkeys.imp_of_mem fun {a b} ha hb hne heq => hne ?_
  rw [key_of_mem_discoveries (mem_of_mem_entities ha),
    key_of_mem_discoveries (mem_of_mem_entities hb), heq]

/-- **The components of a file are its first discoveries.** Of all matches of all three patterns,
taken in table order and then from left to right, each name is kept once, as what its first match
gave, and none is lost. No match is passed over for its name, since all names start with a capital
letter. So the components are those that the merge of several files would keep, and it has nothing
left to drop. -/
theorem components_are_first_discoveries (source : List Char) (filePath : String) :
    entities source filePath = deduplicate (discoveries source filePath) ∧
      ((entities source filePath).map Entity.name).Nodup ∧
      (∀ e ∈ entities source filePath, ∃ c ∈ e.name.toList.head?, 'A' ≤ c ∧ c ≤ 'Z') ∧
      (∀ p ∈ componentPatterns, ∀ m ∈ p.findAll source,
        isComponentName (p.nameOf m) = true ∧
          ((entities source filePath).map Entity.name).count (String.ofList (p.nameOf m)) = 1 ∧
          ∃ e ∈ entities source filePath, e.name = String.ofList (p.nameOf m) ∧
            IsFirst (discoveries source filePath) e) ∧
      deduplicate (entities source filePath) = entities source filePath := by
  have hfirst := entities_eq_deduplicate source filePath
  have hnodup := nodup_names_entities source filePath
  refine ⟨hfirst, hnodup, fun e he => head_of_mem_discoveries (mem_of_mem_entities he), ?_, ?_⟩
  · intro p hp m hm
    have hfound : discovery source filePath (p, m) ∈ discoveries source filePath :=
      mem_discoveries_iff.mpr ⟨p, hp, m, hm, rfl⟩
    -- the first discovery of the name is the one that is kept
    obtain ⟨e, he, hkey⟩ := exists_isFirst hfound
    have hname : e.name = String.ofList (p.nameOf m) := (Prod.mk.inj (Prod.mk.inj hkey).2).1
    have hmem : e ∈ entities source filePath := by
      rw [hfirst, mem_deduplicate_iff]
      exact he
    refine ⟨isComponentName_nameOf hp hm, ?_, e, hmem, hname, he⟩
    exact List.count_eq_one_of_mem hnodup (List.mem_map.mpr ⟨e, hmem, hname⟩)
  · rw [hfirst, deduplicate_deduplicate]

/-- An arrow function, a function and a class of one name: the function comes first in the table, so
its props and hooks are reported, though it is neither first in the text nor without rivals. -/
theorem components_are_first_discoveries_rivals :
    let source :=
      "const A = x => x\nfunction A(\x7b b \x7d) \x7b useC() \x7d\nclass A extends Component".toList
    let component : ComponentEntity :=
      { name := "A", filePath := "a.jsx", props := ["b"], hooks := ["useC"] }
    entities source "a.jsx" = [.component component] ∧
      ∃ m ∈ React.componentArrow.findAll source,
        ((entities source "a.jsx").map Entity.name).count
          (String.ofList (React.componentArrow.nameOf m)) = 1 := by
  intro source component
  obtain ⟨hfirst, -, -, hmatches, -⟩ := components_are_first_discoveries source "a.jsx"
  refine ⟨?_, ?_⟩
  · rw [hfirst]
    decide +kernel
  · have hfound : 0 < (React.componentArrow.findAll source).length := by decide +kernel
    obtain ⟨m, hm⟩ := List.exists_mem_of_length_pos hfound
    exact ⟨m, hm, (hmatches _ (by simp [componentPatterns]) m hm).2.1⟩

end Extract.React

end SourceAtlas
