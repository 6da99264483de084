import SourceAtlas.Extract.Dialect
import SourceAtlas.Proofs.Regex.Groups

/-!
# Extraction never fails

An extractor reads groups of a match by number, and in one place the character behind a match.
Written with defaults, such a reading cannot fail, but it may hide that there was nothing to read.
Here every extractor is written again with readings that fail: for a group that the pattern does not
have, for a group that has to have taken part and did not, and for a character behind the end of the
text. The failing form is then shown to succeed with the result of the total one, for every source
text. So no default is ever used in place of something missing.

* `Pattern.IsSound` — every group number that a pattern mentions is the number of one of its groups;
* `Pattern.group?`, `Pattern.text?` — readings that fail;
* `Dialect.extract?` — extraction with readings that fail;
* `Dialect.extract?_eq_some` — it never does.
-/

namespace SourceAtlas

open Regex (Match IsMatch)

/-- The numbers of the groups of a pattern. -/
def Regex.groups : Regex → List Nat
  | .seq first second => first.groups ++ second.groups
  | .alt first second => first.groups ++ second.groups
  | .rep _ _ _ body => body.groups
  | .group index body => index :: body.groups
  | .atomic body => body.groups
  | .ahead _ body => body.groups
  | .behind _ _ body => body.groups
  | .ifGroup _ yes no => yes.groups ++ no.groups
  | _ => []

/-- A group that a pattern sets is one of its groups. -/
theorem Regex.mem_groups_of_sets {r : Regex} {index : Nat} (h : r.sets index = true) :
    index ∈ r.groups := by
  induction r with
  | seq first second ih₁ ih₂ =>
    rcases Bool.or_eq_true _ _ ▸ h with h | h
    · exact List.mem_append_left _ (ih₁ h)
    · exact List.mem_append_right _ (ih₂ h)
  -- both branches set the group, so either would do
  | alt first second ih₁ _ => exact List.mem_append_left _ (ih₁ (Bool.and_eq_true_iff.mp h).1)
  | rep mode least most body ih => exact ih (Bool.and_eq_true_iff.mp h).2
  | group i body ih =>
    rcases Bool.or_eq_true _ _ ▸ h with h | h
    · obtain rfl := of_decide_eq_true h
      exact List.mem_cons_self
    · exact List.mem_cons_of_mem _ (ih h)
  | atomic body ih => exact ih h
  | ahead positive body ih => exact ih (Bool.and_eq_true_iff.mp h).2
  | behind positive width body ih => exact ih (Bool.and_eq_true_iff.mp h).2
  | ifGroup i yes no ih₁ _ => exact List.mem_append_left _ (ih₁ (Bool.and_eq_true_iff.mp h).1)
  | empty => cases h
  | char test => cases h
  | backref i same => cases h
  | anchor test => cases h

/-- What succeeds for every item of a list succeeds for the list. -/
theorem mapM_eq_some_map {α β : Type} {f : α → Option β} {g : α → β} {as : List α}
    (h : ∀ a ∈ as, f a = some (g a)) : as.mapM f = some (as.map g) := by
  induction as with
  | nil => rfl
  | cons a as ih =>
    rw [List.mapM_cons, h a List.mem_cons_self, ih fun b hb => h b (List.mem_cons_of_mem _ hb)]
    rfl

/-! ### Readings that fail -/

namespace Pattern

variable {p : Pattern} {m : Match} {text : List Char} {index : Nat}

/-- **Reads a group of a match.** Fails if the pattern has no such group. -/
def group? (p : Pattern) (m : Match) (index : Nat) : Option (Option (List Char)) :=
  if index = 0 ∨ index ∈ p.regex.groups then some (m.group? index) else none

/-- **Reads a group that has to have taken part.** -/
def text? (p : Pattern) (m : Match) (index : Nat) : Option (List Char) :=
  (p.group? m index).join

/-- Reads the first of some groups that took part. -/
def firstGroup? (p : Pattern) (m : Match) : List Nat → Option (List Char)
  | [] => some []
  | index :: rest =>
    match p.group? m index with
    | none => none
    | some (some found) => some found
    | some none => firstGroup? p m rest

/-- Reads the name. -/
def nameOf? (p : Pattern) (m : Match) : Option (List Char) :=
  (p.firstGroup? m p.nameGroups).map Text.trim

/-- Reads the raw parameters. -/
def paramsOf? (p : Pattern) (m : Match) : Option (List Char) :=
  p.firstGroup? m p.paramGroups

/-- Reads the base, where the pattern has one. -/
def baseOf? (p : Pattern) (m : Match) : Option (Option (List Char)) :=
  match p.baseGroup with
  | none => some none
  | some index => p.group? m index

/-- Reads the modifiers, where the pattern has them. -/
def modifiersOf? (p : Pattern) (m : Match) : Option (List (List Char)) :=
  match p.modifierGroup with
  | none => some []
  | some index => (p.group? m index).map fun found => Text.fields (found.getD [])

/-- The group numbers that a pattern mentions. -/
def mentioned (p : Pattern) : List Nat :=
  p.nameGroups ++ p.paramGroups ++ p.baseGroup.toList ++ p.modifierGroup.toList

/-- **Every group number that a pattern mentions is the number of one of its groups.** Number zero
stands for the whole match. -/
def IsSound (p : Pattern) : Prop :=
  ∀ index ∈ p.mentioned, index = 0 ∨ index ∈ p.regex.groups

instance (p : Pattern) : Decidable p.IsSound :=
  inferInstanceAs (Decidable (∀ index ∈ p.mentioned, index = 0 ∨ index ∈ p.regex.groups))

/-- Soundness is what makes a group that the pattern mentions readable. -/
theorem IsSound.group?_eq (h : p.IsSound) (hindex : index ∈ p.mentioned) :
    p.group? m index = some (m.group? index) :=
  if_pos (h index hindex)

/-- Where each of some groups can be read, so can the first of them that took part. -/
theorem firstGroup?_eq {groups : List Nat}
    (h : ∀ index ∈ groups, p.group? m index = some (m.group? index)) :
    p.firstGroup? m groups = some (firstGroup m groups) := by
  induction groups with
  | nil => rfl
  | cons index rest ih =>
    unfold firstGroup? firstGroup
    rw [h index List.mem_cons_self, List.findSome?_cons]
    cases m.group? index with
    | some found => rfl
    | none => exact ih fun i hi => h i (List.mem_cons_of_mem _ hi)

/-- A sound pattern's match has its name to be read. -/
theorem IsSound.nameOf?_eq (h : p.IsSound) : p.nameOf? m = some (p.nameOf m) := by
  have hfirst : p.firstGroup? m p.nameGroups = some (firstGroup m p.nameGroups) :=
    firstGroup?_eq fun index hindex => h.group?_eq (by simp [mentioned, hindex])
  rw [nameOf?, hfirst]
  rfl

theorem IsSound.paramsOf?_eq (h : p.IsSound) : p.paramsOf? m = some (p.paramsOf m) :=
  firstGroup?_eq fun index hindex => h.group?_eq (by simp [mentioned, hindex])

theorem IsSound.baseOf?_eq (h : p.IsSound) : p.baseOf? m = some (p.baseOf m) := by
  unfold baseOf? baseOf
  cases hbase : p.baseGroup with
  | none => rfl
  | some index => exact h.group?_eq (by simp [mentioned, hbase])

theorem IsSound.modifiersOf?_eq (h : p.IsSound) : p.modifiersOf? m = some (p.modifiersOf m) := by
  unfold modifiersOf? modifiersOf
  cases hmodifier : p.modifierGroup with
  | none => rfl
  | some index =>
    change (p.group? m index).map _ = _
    rw [h.group?_eq (by simp [mentioned, hmodifier])]
    rfl

/-- A group that the pattern sets is there to be read. -/
theorem text?_eq (hm : IsMatch p.regex text m) (hsets : p.regex.sets index = true) :
    p.text? m index = some (firstGroup m [index]) := by
  obtain ⟨found, hfound⟩ := hm.exists_group hsets
  have hgroup : p.group? m index = some (some found) := by
    rw [group?, if_pos (.inr (Regex.mem_groups_of_sets hsets)), hfound]
  rw [text?, hgroup, firstGroup, List.findSome?_cons, hfound]
  rfl

/-- What a pattern's search finds is a match of its expression. -/
theorem isMatch_of_search (h : p.search text = some m) : IsMatch p.regex text m :=
  Regex.isMatch_of_search h

/-- What a pattern's scan finds are matches of its expression. -/
theorem isMatch_of_mem_findAll (h : m ∈ p.findAll text) : IsMatch p.regex text m :=
  Regex.isMatch_of_mem_findAll h

/-- The tables are sound: of each pattern, its group numbers are compared with its expression. -/
theorem isSound_javaScript : ∀ p ∈ JavaScript.table, p.IsSound := by
  decide +kernel

theorem isSound_react : ∀ p ∈ React.table, p.IsSound := by
  decide +kernel

theorem isSound_vue : ∀ p ∈ Vue.table, p.IsSound := by
  decide +kernel

theorem mem_of_mem_ofRole {table : List Pattern} {role : Role} (h : p ∈ ofRole table role) :
    p ∈ table :=
  (List.mem_filter.mp h).1

end Pattern

open Pattern

/-- Goes through all matches of some patterns, with readings that may fail. A match may give
nothing. -/
def forMatches? {α : Type} (patterns : List Pattern) (text : List Char)
    (read : Pattern → Match → Option (Option α)) : Option (List α) := do
  let found ← patterns.mapM fun p => (p.findAll text).mapM (read p)
  return found.flatten.filterMap id

/-- A reader that never fails on a match does not fail on a list of patterns either. -/
theorem forMatches?_eq {α : Type} {patterns : List Pattern} {text : List Char}
    {read : Pattern → Match → Option (Option α)} {give : Pattern → Match → Option α}
    (h : ∀ p ∈ patterns, ∀ m, read p m = some (give p m)) :
    forMatches? patterns text read =
      some (patterns.flatMap fun p => (p.findAll text).filterMap (give p)) := by
  have hinner : ∀ p ∈ patterns, (p.findAll text).mapM (read p) =
      some ((p.findAll text).map (give p)) := fun p hp =>
    mapM_eq_some_map fun m _ => h p hp m
  rw [forMatches?, mapM_eq_some_map hinner]
  simp [List.flatMap_def, List.filterMap_flatten, List.filterMap_map, Function.comp_def]

/-! ### JavaScript -/

namespace Extract.JavaScript

/-- A function of a match, with readings that may fail. -/
def functionOf? (filePath : String) (p : Pattern) (m : Match) :
    Option (Option FunctionEntity) := do
  let found := String.ofList (← p.nameOf? m)
  let name := if found = "" then anonymous else found
  if JavaScript.controlWords.contains name then return none
  else return some { name, filePath, parameters := parameterList (← p.paramsOf? m) }

/-- A method of a match, with readings that may fail. -/
def methodOf? (p : Pattern) (m : Match) : Option (Option Method) := do
  let found ← p.nameOf? m
  let name := String.ofList found
  if name = "" ∨ JavaScript.controlWords.contains name then return none
  else
    return some
      { name
        isPublic := !found.head?.any (· == '#')
        isStatic := (← p.modifiersOf? m).contains "static".toList
        parameters := parameterList (← p.paramsOf? m) }

/-- The methods of a class body, with readings that may fail. -/
def methods? (body : List Char) : Option (List Method) :=
  (forMatches? (ofRole JavaScript.table .classMember) body methodOf?).map (firstOfEachName [])

/-- A class of a match, with readings that may fail. -/
def classOf? (source : List Char) (filePath : String) (p : Pattern) (m : Match) :
    Option (Option ClassEntity) := do
  let methods ←
    match Block.braceContents? source m.endPos with
    | some body => methods? body
    | none => some []
  return some
    { name := String.ofList (← p.nameOf? m)
      filePath
      baseClass := (← p.baseOf? m).map String.ofList
      methods }

/-- All entities of a source, with readings that may fail. -/
def entities? (source : List Char) (filePath : String) : Option (List Entity) := do
  let functions ← forMatches? (ofRole JavaScript.table .function) source (functionOf? filePath)
  let classes ← forMatches? (ofRole JavaScript.table .cls) source (classOf? source filePath)
  return functions.map Entity.function ++ classes.map Entity.cls

/-- A function is made of a name and parameters, both of which a sound pattern has. -/
theorem functionOf?_eq {p : Pattern} (hp : p.IsSound) (filePath : String) (m : Match) :
    functionOf? filePath p m = some (functionOf filePath p m) := by
  unfold functionOf? functionOf
  rw [hp.nameOf?_eq, hp.paramsOf?_eq]
  simp only [Option.bind_eq_bind, Option.bind_some]
  exact (apply_ite some _ _ _).symm

/-- A method also has modifiers, which a sound pattern has too. -/
theorem methodOf?_eq {p : Pattern} (hp : p.IsSound) (m : Match) :
    methodOf? p m = some (methodOf p m) := by
  unfold methodOf? methodOf
  rw [hp.nameOf?_eq, hp.paramsOf?_eq, hp.modifiersOf?_eq]
  simp only [Option.bind_eq_bind, Option.bind_some]
  exact (apply_ite some _ _ _).symm

/-- Methods are found by patterns of the table, which are sound. -/
theorem methods?_eq (body : List Char) : methods? body = some (methods body) := by
  have hread : ∀ p ∈ ofRole JavaScript.table .classMember, ∀ m,
      methodOf? p m = some (methodOf p m) := fun p hp m =>
    methodOf?_eq (isSound_javaScript p (mem_of_mem_ofRole hp)) m
  rw [methods?, forMatches?_eq hread]
  rfl

/-- A class takes its name and base from the match and its methods from the block behind it. -/
theorem classOf?_eq {p : Pattern} (hp : p.IsSound) (source : List Char) (filePath : String)
    (m : Match) : classOf? source filePath p m = some (some (classOf source filePath p m)) := by
  unfold classOf? classOf
  rw [hp.nameOf?_eq, hp.baseOf?_eq]
  cases Block.braceContents? source m.endPos with
  | none => rfl
  | some body =>
    simp only [methods?_eq]
    rfl

/-- Reading JavaScript never fails. -/
theorem entities?_eq (source : List Char) (filePath : String) :
    entities? source filePath = some (entities source filePath) := by
  have hfunctions : ∀ p ∈ ofRole JavaScript.table .function, ∀ m,
      functionOf? filePath p m = some (functionOf filePath p m) := fun p hp m =>
    functionOf?_eq (isSound_javaScript p (mem_of_mem_ofRole hp)) filePath m
  have hclasses : ∀ p ∈ ofRole JavaScript.table .cls, ∀ m,
      classOf? source filePath p m = some (some (classOf source filePath p m)) := fun p hp m =>
    classOf?_eq (isSound_javaScript p (mem_of_mem_ofRole hp)) source filePath m
  rw [entities?, forMatches?_eq hfunctions, forMatches?_eq hclasses, entities, classes]
  -- every match of a class pattern gives a class, so collecting them is mapping
  simp only [← List.filterMap_eq_map']
  rfl

end Extract.JavaScript

/-! ### React -/

namespace Component

/-- The hooks of a body, with readings that may fail. -/
def hooks? (body : List Char) : Option (List String) := do
  let names ← (React.hook.findAll body).mapM fun m => do
    return String.ofList (Text.trimEndWhile (· == '(') (← React.hook.nameOf? m))
  return sortedDistinct names

/-- The props that parameters and body name, with readings that may fail. -/
def namedProps? (params body : List Char) : Option (List String) :=
  match React.propsDestructure.search params with
  | some m => (React.propsDestructure.text? m 1).map destructuredNames
  | none =>
    if params = "props".toList then
      (React.propsAccess.findAll body).mapM fun m =>
        (React.propsAccess.text? m 1).map String.ofList
    else some []

/-- The type that the parameters give, with readings that may fail. -/
def typedProps? (p : Pattern) (text : List Char) : Option (List String) :=
  match p.search text with
  | some m => (p.text? m 1).map fun found => [typedMark ++ String.ofList found]
  | none => some []

/-- The props of a component, with readings that may fail. -/
def props? (params body : List Char) : Option (List String) := do
  let named ← namedProps? (Text.trim params) body
  let typed ← typedProps? React.propsTyped (Text.trim params)
  return distinct (named ++ typed)

/-- Props and hooks of a component, with readings that may fail. -/
def attributes? (content : List Char) (signatureEnd : Nat) (params : List Char) :
    Option Attributes :=
  match Block.blockEnd? content signatureEnd with
  | none => some {}
  | some bodyEnd =>
    if bodyEnd ≤ signatureEnd then some {}
    else do
      let body := (content.drop signatureEnd).take (bodyEnd - signatureEnd)
      return { props := ← props? params body, hooks := ← hooks? body }

/-- Each call of a hook has a name to be read. -/
theorem hooks?_eq (body : List Char) : hooks? body = some (hooks body) := by
  have hread : ∀ m ∈ React.hook.findAll body,
      (do return String.ofList (Text.trimEndWhile (· == '(') (← React.hook.nameOf? m))) =
        some (String.ofList (Text.trimEndWhile (· == '(') (React.hook.nameOf m))) := by
    intro m _
    rw [(isSound_react React.hook (by simp [React.table])).nameOf?_eq]
    rfl
  rw [hooks?, mapM_eq_some_map hread]
  rfl

/-- A type is read off every match of a pattern that sets its first group. -/
theorem typedProps?_eq {p : Pattern} (hsets : p.regex.sets 1 = true) (text : List Char) :
    typedProps? p text =
      some (match p.search text with
        | some m => [typedMark ++ String.ofList (firstGroup m [1])]
        | none => []) := by
  unfold typedProps?
  cases hm : p.search text with
  | none => rfl
  | some m => simp only [text?_eq (isMatch_of_search hm) hsets, Option.map_some]

/-- **Props never fail to be read:** the three patterns behind them each set their first group, so a
match has one. -/
theorem props?_eq (params body : List Char) : props? params body = some (props params body) := by
  have hnamed : namedProps? (Text.trim params) body =
      some (match React.propsDestructure.search (Text.trim params) with
        | some m => destructuredNames (firstGroup m [1])
        | none =>
          if Text.trim params = "props".toList then
            (React.propsAccess.findAll body).map fun m => String.ofList (firstGroup m [1])
          else []) := by
    have hsets : React.propsDestructure.regex.sets 1 = true := by decide +kernel
    unfold namedProps?
    cases hm : React.propsDestructure.search (Text.trim params) with
    | some m => simp only [text?_eq (isMatch_of_search hm) hsets, Option.map_some]
    | none =>
      -- a single parameter `props`: its uses in the body are read, each of which names a prop
      have hread : ∀ m ∈ React.propsAccess.findAll body,
          (React.propsAccess.text? m 1).map String.ofList =
            some (String.ofList (firstGroup m [1])) := by
        intro m hm
        rw [text?_eq (isMatch_of_mem_findAll hm) (by decide +kernel)]
        rfl
      dsimp only
      rw [mapM_eq_some_map hread]
      exact (apply_ite some _ _ _).symm
  rw [props?, hnamed, typedProps?_eq (by decide +kernel)]
  rfl

theorem attributes?_eq (content : List Char) (signatureEnd : Nat) (params : List Char) :
    attributes? content signatureEnd params = some (attributes content signatureEnd params) := by
  unfold attributes? attributes
  cases Block.blockEnd? content signatureEnd with
  | none => rfl
  | some bodyEnd =>
    simp only [props?_eq, hooks?_eq]
    exact (apply_ite some _ _ _).symm

end Component

namespace Extract.React

/-- A component of a match, with readings that may fail. -/
def componentOf? (source : List Char) (filePath : String) (p : Pattern) (m : Match) :
    Option ComponentEntity := do
  let attributes ←
    if p.resolvesBody then do Component.attributes? source m.endPos (← p.paramsOf? m)
    else some {}
  return { name := String.ofList (← p.nameOf? m)
           filePath
           props := attributes.props
           hooks := attributes.hooks }

/-- The first match of each component name, with readings that may fail. -/
def firstOfEachName? (seen : List (List Char)) :
    List (Pattern × Match) → Option (List (Pattern × Match))
  | [] => some []
  | (p, m) :: rest => do
    let name ← p.nameOf? m
    if !isComponentName name || seen.contains name then firstOfEachName? seen rest
    else return (p, m) :: (← firstOfEachName? (name :: seen) rest)

/-- All entities of a source, with readings that may fail. -/
def entities? (source : List Char) (filePath : String) : Option (List Entity) := do
  let kept ← firstOfEachName? [] (matched source)
  let components ← kept.mapM fun (p, m) => componentOf? source filePath p m
  return components.map Entity.component

/-- A component takes its name from the match, and its props and hooks from the body. -/
theorem componentOf?_eq {p : Pattern} (hp : p.IsSound) (source : List Char) (filePath : String)
    (m : Match) :
    componentOf? source filePath p m = some (componentOf source filePath p m) := by
  unfold componentOf? componentOf
  rw [hp.nameOf?_eq, hp.paramsOf?_eq]
  cases p.resolvesBody with
  | false => rfl
  | true =>
    simp only [if_true, Option.bind_eq_bind, Option.bind_some, Component.attributes?_eq]
    rfl

/-- Keeping the first match of each name reads nothing but names. -/
theorem firstOfEachName?_eq {seen : List (List Char)} {found : List (Pattern × Match)}
    (h : ∀ x ∈ found, x.1.IsSound) :
    firstOfEachName? seen found = some (firstOfEachName seen found) := by
  induction found generalizing seen with
  | nil => rfl
  | cons x rest ih =>
    obtain ⟨p, m⟩ := x
    have hp : p.IsSound := h (p, m) List.mem_cons_self
    have hrest : ∀ x ∈ rest, x.1.IsSound := fun x hx => h x (List.mem_cons_of_mem _ hx)
    rw [firstOfEachName?, firstOfEachName, hp.nameOf?_eq]
    simp only [Option.bind_eq_bind, Option.bind_some, ih hrest]
    exact (apply_ite some _ _ _).symm

/-- The matches that are kept are among those found. -/
theorem mem_of_mem_firstOfEachName {seen : List (List Char)} {found : List (Pattern × Match)}
    {x : Pattern × Match} (h : x ∈ firstOfEachName seen found) : x ∈ found := by
  fun_induction firstOfEachName seen found with
  | case1 => cases h
  | case2 seen p m rest name _ ih => exact List.mem_cons_of_mem _ (ih h)
  | case3 seen p m rest name _ ih =>
    rcases List.mem_cons.mp h with rfl | h
    · exact List.mem_cons_self
    · exact List.mem_cons_of_mem _ (ih h)

/-- The matches that the components are chosen from belong to sound patterns. -/
theorem isSound_of_mem_matched {source : List Char} {x : Pattern × Match}
    (h : x ∈ matched source) : x.1.IsSound := by
  obtain ⟨p, hp, hx⟩ := List.mem_flatMap.mp h
  obtain ⟨m, -, rfl⟩ := List.mem_map.mp hx
  exact isSound_react p (mem_of_mem_ofRole hp)

/-- Reading React sources never fails. -/
theorem entities?_eq (source : List Char) (filePath : String) :
    entities? source filePath = some (entities source filePath) := by
  have hread : ∀ x ∈ firstOfEachName [] (matched source),
      componentOf? source filePath x.1 x.2 = some (componentOf source filePath x.1 x.2) :=
    fun x hx => componentOf?_eq (isSound_of_mem_matched (mem_of_mem_firstOfEachName hx)) source
      filePath x.2
  rw [entities?, firstOfEachName?_eq fun x hx => isSound_of_mem_matched hx]
  simp only [Option.bind_eq_bind, Option.bind_some]
  rw [mapM_eq_some_map hread]
  rfl

end Extract.React

/-! ### Vue -/

namespace Component

/-- The members of a block, with readings that may fail. -/
def memberNames? (contents : List Char) (member : Pattern) : Option (List String) :=
  (member.findAll contents).mapM fun m => (member.nameOf? m).map String.ofList

/-- The members of a section, with readings that may fail. -/
def blockMembers? (script : List Char) (opener member : Pattern) : Option (List String) :=
  match opener.search script with
  | none => some []
  | some m =>
    match Block.blockContents? script m.endPos with
    | none => some []
    | some contents => memberNames? contents member

/-- The first group of the first match, with readings that may fail. -/
def firstText? (p : Pattern) (text : List Char) : Option (Option (List Char)) :=
  match p.search text with
  | some m => (p.text? m 1).map some
  | none => some none

/-- The sections of an options object, with readings that may fail. -/
def optionSections? (script : List Char) : Option OptionSections := do
  let name ← firstText? Vue.componentName script
  let block ← blockMembers? script Vue.propsBlock Vue.propertyMember
  let array ← firstText? Vue.propsArray script
  return { name := (name.map String.ofList).getD ""
           props := block ++ (array.map arrayItems).getD []
           data := ← blockMembers? script Vue.dataBlock Vue.propertyMember
           methods := ← blockMembers? script Vue.methodsBlock Vue.methodMember
           computed := ← blockMembers? script Vue.computedBlock Vue.computedMember }

/-- Props that a call declares, with readings that may fail: the character behind the match has to
be in the text. -/
def runtimeProps? (script : List Char) (m : Match) : Option (List String) := do
  let bracket ← script[m.endPos]?
  if bracket = '[' then
    return arrayItems ((script.drop (m.endPos + 1)).takeWhile (· ≠ ']'))
  else
    match Block.blockContents? script m.endPos with
    | none => return []
    | some contents => memberNames? contents Vue.propertyMember

/-- What the short form declares, with readings that may fail. -/
def setupBindings? (script : List Char) : Option SetupBindings := do
  let typed ← typedProps? Vue.definePropsType script
  let listed ←
    match Vue.definePropsRuntime.search script with
    | some m => runtimeProps? script m
    | none => some []
  let bindings ← memberNames? script Vue.setupBinding
  return { props := distinct (typed ++ listed), bindings := bindings.map (· ++ setupMark) }

/-- The members of a block are read by name, and the member pattern is sound. -/
theorem memberNames?_eq {member : Pattern} (h : member.IsSound) (contents : List Char) :
    memberNames? contents member = some (memberNames contents member) := by
  refine mapM_eq_some_map fun m _ => ?_
  rw [h.nameOf?_eq]
  rfl

/-- A section without an opener or without an end has no members; any other is read as a block. -/
theorem blockMembers?_eq {member : Pattern} (h : member.IsSound) (script : List Char)
    (opener : Pattern) :
    blockMembers? script opener member = some (blockMembers script opener member) := by
  unfold blockMembers? blockMembers
  cases opener.search script with
  | none => rfl
  | some m =>
    dsimp only
    cases Block.blockContents? script m.endPos with
    | none => rfl
    | some contents => exact memberNames?_eq h contents

/-- The first group is there in every match of a pattern that sets it. -/
theorem firstText?_eq {p : Pattern} (hsets : p.regex.sets 1 = true) (text : List Char) :
    firstText? p text = some ((p.search text).map fun m => firstGroup m [1]) := by
  unfold firstText?
  cases hm : p.search text with
  | none => rfl
  | some m =>
    dsimp only
    rw [text?_eq (isMatch_of_search hm) hsets]
    rfl

/-- The four sections and the name of an options object are all read. -/
theorem optionSections?_eq (script : List Char) :
    optionSections? script = some (optionSections script) := by
  have hproperty : Vue.propertyMember.IsSound := isSound_vue _ (by simp [Vue.table])
  have hmethod : Vue.methodMember.IsSound := isSound_vue _ (by simp [Vue.table])
  have hcomputed : Vue.computedMember.IsSound := isSound_vue _ (by simp [Vue.table])
  have hname : Vue.componentName.regex.sets 1 = true := by decide +kernel
  have harray : Vue.propsArray.regex.sets 1 = true := by decide +kernel
  unfold optionSections? optionSections
  rw [firstText?_eq hname, firstText?_eq harray, blockMembers?_eq hproperty,
    blockMembers?_eq hproperty, blockMembers?_eq hmethod, blockMembers?_eq hcomputed]
  -- the two texts are optional; both forms have the same defaults
  cases Vue.componentName.search script with
  | none =>
    cases Vue.propsArray.search script with
    | none => rfl
    | some m => rfl
  | some n =>
    cases Vue.propsArray.search script with
    | none => rfl
    | some m => rfl

/-- **The character behind a call that declares props is there to be read:** the pattern ends in
front of a bracket. -/
theorem runtimeProps?_eq {script : List Char} {m : Match}
    (hm : Vue.definePropsRuntime.search script = some m) :
    runtimeProps? script m = some (runtimeProps script m) := by
  have hproperty : Vue.propertyMember.IsSound := isSound_vue _ (by simp [Vue.table])
  have hmatch : IsMatch Vue.definePropsRuntime.regex script m := isMatch_of_search hm
  -- the pattern ends in a test for a bracket, so a character follows every match of it
  obtain ⟨ch, rest, hdrop, -⟩ := Regex.IsMatch.next_of_ahead
    [Regex.boundary, Regex.text "defineProps", Regex.blanks, Regex.lit '(', Regex.blanks] hmatch
  have hget : script[m.endPos]? = some ch := by
    rw [← List.head?_drop, hdrop]
    rfl
  have hrest : script.drop (m.endPos + 1) = rest := by
    rw [← List.drop_drop, hdrop]
    rfl
  unfold runtimeProps? runtimeProps
  rw [hget, hdrop, hrest]
  simp only [Option.bind_eq_bind, Option.bind_some]
  by_cases hch : ch = '['
  · -- a list of names, up to the closing bracket
    subst hch
    rfl
  · rw [if_neg hch]
    cases Block.blockContents? script m.endPos with
    | none =>
      dsimp only
      split
      · next heq => exact absurd (List.cons.inj heq).1 hch
      · rfl
    | some contents =>
      dsimp only
      split
      · next heq => exact absurd (List.cons.inj heq).1 hch
      · exact memberNames?_eq hproperty contents

/-- Typed props, listed props and bindings of the short form are all read. -/
theorem setupBindings?_eq (script : List Char) :
    setupBindings? script = some (setupBindings script) := by
  have hbinding : Vue.setupBinding.IsSound := isSound_vue _ (by simp [Vue.table])
  have htyped : Vue.definePropsType.regex.sets 1 = true := by decide +kernel
  unfold setupBindings? setupBindings
  rw [typedProps?_eq htyped, memberNames?_eq hbinding]
  cases hm : Vue.definePropsRuntime.search script with
  | none => rfl
  | some m =>
    simp only [runtimeProps?_eq hm]
    rfl

end Component

namespace Extract.Vue

open Component

/-- The script of the short form, with readings that may fail. -/
def setupText? (source : List Char) : Option (List Char) :=
  (firstText? Vue.setupScript source).map fun script => script.getD source

/-- The component of a source, with readings that may fail. -/
def component? (source : List Char) (filePath : String) : Option ComponentEntity := do
  let isSetup := (Vue.setupTag.search source).isSome
  -- the options form is preferred, whatever tags there are
  match ← firstText? Vue.optionsScript source with
  | some script =>
    let sections ← optionSections? script
    return { name := sections.name
             filePath
             props := sections.props
             data := sections.data
             methods := sections.methods
             computedProperties := sections.computed
             isAlternateSyntax := isSetup }
  | none =>
    if isSetup then
      let found ← setupBindings? (← setupText? source)
      return { name := (Path.ofString filePath).stem
               filePath
               props := found.props
               methods := found.bindings
               isAlternateSyntax := true }
    else return { name := "", filePath }

/-- All entities of a source, with readings that may fail. -/
def entities? (source : List Char) (filePath : String) : Option (List Entity) := do
  let c ← component? source filePath
  return if isWorthwhile c then [.component c] else []

theorem setupText?_eq (source : List Char) : setupText? source = some (setupText source) := by
  have hsetup : Vue.setupScript.regex.sets 1 = true := by decide +kernel
  unfold setupText? setupText
  rw [firstText?_eq hsetup]
  cases Vue.setupScript.search source with
  | none => rfl
  | some m => rfl

/-- Either form of a component is read. -/
theorem component?_eq (source : List Char) (filePath : String) :
    component? source filePath = some (component source filePath) := by
  have hoptions : Vue.optionsScript.regex.sets 1 = true := by decide +kernel
  unfold component? component
  rw [firstText?_eq hoptions]
  cases Vue.optionsScript.search source with
  | some m =>
    simp only [Option.map_some, Option.bind_eq_bind, Option.bind_some, optionSections?_eq]
    rfl
  | none =>
    simp only [Option.map_none, Option.bind_eq_bind, Option.bind_some, setupText?_eq,
      setupBindings?_eq]
    exact (apply_ite some _ _ _).symm

/-- Reading Vue files never fails. -/
theorem entities?_eq (source : List Char) (filePath : String) :
    entities? source filePath = some (entities source filePath) := by
  rw [entities?, component?_eq]
  rfl

end Extract.Vue

/-! ### All dialects -/

/-- **Extraction with readings that may fail.** C# is read off a tree, not off matches. -/
def Dialect.extract? (d : Dialect) (source : List Char) (filePath : String) :
    Option (List Entity) :=
  match d with
  | .csharp => some (Extract.CSharp.entities source filePath)
  | .javascript => Extract.JavaScript.entities? source filePath
  | .react => Extract.React.entities? source filePath
  | .vue => Extract.Vue.entities? source filePath

/-- **Extraction never fails:** every reading of every extractor finds what it reads. -/
theorem Dialect.extract?_eq_some (d : Dialect) (source : List Char) (filePath : String) :
    d.extract? source filePath = some (d.extract source filePath) := by
  cases d with
  | csharp => rfl
  | javascript => exact Extract.JavaScript.entities?_eq source filePath
  | react => exact Extract.React.entities?_eq source filePath
  | vue => exact Extract.Vue.entities?_eq source filePath

end SourceAtlas
