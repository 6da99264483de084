import SourceAtlas.Proofs.Search.BadPattern

/-!
# Settings are taken key by key

A document may say anything anywhere. Each of the six settings looks at one key of one section and
takes what stands there if it has the right shape; nothing else in the document matters to it. So a
document cannot make settings that an analysis refuses.

* `Value.Holds`, `Value.Says` — what a mapping and a document say at a key, by the entries alone;
* `Setting` — where a setting stands and which values it takes, with one member for each of the six;
* `Setting.isGoverned_of_reads` — a setting that is read at its key follows its key;
* `Value.truncate` — settings look four levels deep, so it does not matter how deep a document is
  unfolded;
* `settings_follow_their_keys` — the six settings, for every document and every file.
-/

namespace SourceAtlas

namespace Yaml

/-! ### What a document says at a key -/

/-- **What a mapping holds at a key:** the value of its last entry with this key. -/
def Value.Holds (v : Value) (key : String) (x : Value) : Prop :=
  ∃ before after, v = .map (before ++ (.str key, x) :: after) ∧
    ∀ entry ∈ after, entry.1 ≠ Value.str key

/-- **What a document says at a key of a section.** Both are mappings then. -/
def Value.Says (v : Value) (section_ key : String) (x : Value) : Prop :=
  ∃ inner, v.Holds section_ inner ∧ inner.Holds key x

/-- The last entry of a key is the one that counts. -/
theorem Value.get?_concat_of_eq (entries : List (Value × Value)) (key : String) (x : Value) :
    (Value.map (entries ++ [(.str key, x)])).get? key = some x := by
  rw [Value.get?, List.reverse_append, List.reverse_singleton, List.singleton_append,
    List.find?_cons_of_pos]
  · rfl
  · exact beq_self_eq_true key

/-- An entry of another key changes nothing. -/
theorem Value.get?_concat_of_ne {k : Value} {key : String} (h : k ≠ .str key)
    (entries : List (Value × Value)) (x : Value) :
    (Value.map (entries ++ [(k, x)])).get? key = (Value.map entries).get? key := by
  rw [Value.get?, List.reverse_append, List.reverse_singleton, List.singleton_append,
    List.find?_cons_of_neg]
  · rfl
  · cases k with
    | str s => exact fun hkey => h (congrArg Value.str (eq_of_beq hkey))
    | _ => exact Bool.false_ne_true

/-- **Looking up a key gives what the mapping holds there.** -/
theorem Value.get?_eq_some_iff {v : Value} {key : String} {x : Value} :
    v.get? key = some x ↔ v.Holds key x := by
  constructor
  · intro h
    cases v with
    | map entries =>
      -- from the last entry to the first, as the look-up goes
      induction entries using List.reverseRecOn with
      | nil => cases h
      | append_singleton entries entry ih =>
        obtain ⟨k, y⟩ := entry
        by_cases hk : k = .str key
        · subst hk
          rw [Value.get?_concat_of_eq] at h
          rw [Option.some.inj h]
          exact ⟨entries, [], rfl, fun entry hentry => absurd hentry List.not_mem_nil⟩
        · rw [Value.get?_concat_of_ne hk] at h
          obtain ⟨before, after, hentries, hafter⟩ := ih h
          refine ⟨before, after ++ [(k, y)], ?_, fun entry hentry => ?_⟩
          · rw [Value.map.inj hentries, List.append_assoc, List.cons_append]
          · rcases List.mem_append.mp hentry with hold | hnew
            · exact hafter entry hold
            · rw [List.mem_singleton.mp hnew]
              exact hk
    | _ => cases h
  · rintro ⟨before, after, rfl, hafter⟩
    induction after using List.reverseRecOn with
    | nil => exact Value.get?_concat_of_eq before key x
    | append_singleton after entry ih =>
      have hentry := hafter entry (List.mem_append_right after List.mem_cons_self)
      rw [← List.cons_append, ← List.append_assoc, Value.get?_concat_of_ne hentry]
      exact ih fun e he => hafter e (List.mem_append_left _ he)

/-! ### How deep documents are unfolded -/

/-- A value cut off so many levels deep. -/
def Value.truncate : Nat → Value → Value
  | 0, _ => .other
  | n + 1, .seq items => .seq (items.map (truncate n))
  | n + 1, .map entries => .map (entries.map fun entry => (truncate n entry.1, truncate n entry.2))
  | _ + 1, v => v

theorem Value.truncate_other (n : Nat) : Value.other.truncate n = .other := by
  cases n with
  | zero => rfl
  | succ n => rfl

/-- A scalar has no levels to cut off. -/
theorem Value.truncate_of_scalarValue {tag : Tag} {text : List Char} {v : Value}
    (h : scalarValue tag text = .ok v) (n : Nat) : v.truncate (n + 1) = v := by
  have hmap : ∀ {α : Type} {x : Except Fault α} {f : α → Value},
      (∀ a, (f a).truncate (n + 1) = f a) → f <$> x = .ok v → v.truncate (n + 1) = v := by
    intro α x f hf hx
    cases x with
    | error fault => cases hx
    | ok a =>
      cases hx
      exact hf a
  cases tag with
  | null | str =>
    cases h
    rfl
  | bool | int | float | binary | timestamp => exact hmap (fun _ => rfl) h
  | _ => cases h

/-- **Unfolding a document less deep** cuts its value off. -/
theorem truncate_unfold (g : Graph) {m n : Nat} (h : m ≤ n) (id : Nat) :
    (unfold g n id).truncate m = unfold g m id := by
  induction m generalizing n id with
  | zero => rw [Value.truncate, unfold]
  | succ m ih =>
    obtain ⟨n, rfl⟩ : ∃ k, n = k + 1 := ⟨n - 1, by omega⟩
    have hle : m ≤ n := Nat.le_of_succ_le_succ h
    rw [unfold, unfold]
    split
    · simp [Value.truncate, ih hle]
    · simp [Value.truncate, Value.truncate_other]
    · simp [Value.truncate, Value.truncate_other]
    · simp [Value.truncate, ih hle]
    · -- a scalar has no levels, so it is the same at every depth
      cases hscalar : (scalarText g g.size id).bind (scalarValue (g.node id).tag) with
      | error fault => rfl
      | ok v =>
        cases htext : scalarText g g.size id with
        | error fault =>
          rw [htext] at hscalar
          cases hscalar
        | ok text =>
          rw [htext] at hscalar
          exact Value.truncate_of_scalarValue hscalar m

/-- **A text has a document** with this root, and these are its nodes when all have been found to
have a value. -/
def IsDocument (text : List Char) (g : Graph) (root : Nat) : Prop :=
  ∃ g₀ found, Graph.ofText text = .ok (some (g₀, root)) ∧ checkNode g₀ root = .ok found ∧
    (checkAll [] found (2 * g₀.extent * g₀.extent)).run g₀ = .ok ((), g)

/-- The value of a text that is one document. -/
theorem IsDocument.ofText_eq {text : List Char} {g : Graph} {root : Nat}
    (h : IsDocument text g root) : Value.ofText text = .ok (unfold g depth root) := by
  obtain ⟨g₀, found, hgraph, hnode, hall⟩ := h
  simp only [Value.ofText, hgraph, hnode, hall, bind, Except.bind]
  rfl

/-- A string is kept at any depth, and nothing else becomes one. -/
theorem Value.truncate_eq_str_iff {n : Nat} {v : Value} {s : String} :
    v.truncate (n + 1) = .str s ↔ v = .str s := by
  cases v <;> simp [Value.truncate]

/-- What is found at a key is cut off one level less deep. -/
theorem Value.get?_truncate (v : Value) (n : Nat) (key : String) :
    (v.truncate (n + 2)).get? key = (v.get? key).map (truncate (n + 1)) := by
  cases v with
  | map entries =>
    rw [Value.truncate]
    induction entries using List.reverseRecOn with
    | nil => rfl
    | append_singleton entries entry ih =>
      obtain ⟨k, x⟩ := entry
      rw [List.map_append, List.map_singleton]
      by_cases hk : k = .str key
      · subst hk
        rw [Value.get?_concat_of_eq]
        exact Value.get?_concat_of_eq _ _ _
      · rw [Value.get?_concat_of_ne hk, ← ih]
        exact Value.get?_concat_of_ne (fun h => hk (truncate_eq_str_iff.mp h)) _ _
  | _ => rfl

end Yaml

/-! ### The six settings -/

namespace Settings

open Yaml (Value)

/-- **A lookup finds what the file says** for a key of a section. -/
theorem lookup_eq_some_iff {v : Value} {section_ key : String} {x : Value} :
    lookup v section_ key = some x ↔ v.Says section_ key x := by
  simp only [lookup, Option.bind_eq_some_iff, Value.get?_eq_some_iff, Value.Says]

/-- What is taken for a count: an integer from one on. -/
theorem positive?_eq_some_iff {x : Value} {n : Int} :
    positive? x = some n ↔ x = .int n ∧ 1 ≤ n := by
  cases x with
  | int m =>
    rw [positive?, Option.ite_none_right_eq_some, Option.some_inj, Value.int.injEq, and_comm]
    exact and_congr_right fun h => by rw [h]
  | _ => simp [positive?]

/-- What is taken for a switch: a truth value and nothing like one. -/
theorem flag?_eq_some_iff {x : Value} {b : Bool} : flag? x = some b ↔ x = .bool b := by
  cases x <;> simp [flag?]

theorem text?_eq_some_iff {x : Value} {s : String} : text? x = some s ↔ x = .str s := by
  cases x <;> simp [text?]

/-- What is taken for a list of names: a sequence of strings and nothing else. -/
theorem texts?_eq_some_iff {x : Value} {names : List String} :
    texts? x = some names ↔ x = .seq (names.map .str) := by
  cases x with
  | seq items =>
    rw [texts?, Value.seq.injEq]
    -- on the items, each of which has to be a string
    induction items generalizing names with
    | nil => cases names <;> simp
    | cons item items ih =>
      simp only [List.mapM_cons, Option.bind_eq_bind, Option.bind_eq_some_iff,
        text?_eq_some_iff, ih, Option.pure_def, Option.some.injEq]
      constructor
      · rintro ⟨name, rfl, names, rfl, rfl⟩
        rfl
      · intro h
        cases names with
        | nil => cases h
        | cons name names =>
          obtain ⟨rfl, rfl⟩ := List.cons.inj h
          exact ⟨name, rfl, names, rfl, rfl⟩
  | _ => simp [texts?]

/-- **A setting:** its value in the settings, the key of the section where it stands, and which
values it takes there. -/
structure Setting (α : Type) where
  /-- Its value. -/
  field : Settings → α
  /-- The section. -/
  section_ : String
  /-- The key. -/
  key : String
  /-- Whether what stands at the key has the right shape, and says this value. -/
  shape : Value → α → Prop

namespace Setting

/-- An integer of at least one. A truth value is none. -/
def maxWorkers : Setting Int where
  field := Settings.maxWorkers
  section_ := "analysis"
  key := "max_workers"
  shape x n := x = .int n ∧ 1 ≤ n

/-- A list of texts. -/
def skipDirectories : Setting (List String) where
  field := Settings.skipDirectories
  section_ := "analysis"
  key := "skip_directories"
  shape x names := x = .seq (names.map .str)

/-- A truth value in the section on searches. -/
def searchFlag (field : Settings → Bool) (key : String) : Setting Bool where
  field
  section_ := "search"
  key
  shape x b := x = .bool b

/-- A text. -/
def highlightMarker : Setting String where
  field := Settings.highlightMarker
  section_ := "search"
  key := "highlight_marker"
  shape x s := x = .str s

variable {α : Type}

/-- **A setting follows its key.** It is what stands at its key, if that has the right shape, and
its default otherwise; and documents that agree at its key agree on it. -/
structure IsGoverned (s : Setting α) : Prop where
  /-- What has the right shape is taken. -/
  taken : ∀ v x a, v.Says s.section_ s.key x → s.shape x a → s.field (ofValue v) = a
  /-- Without that there is the default. -/
  fallback : ∀ v, (∀ x a, v.Says s.section_ s.key x → ¬s.shape x a) →
    s.field (ofValue v) = s.field {}
  /-- Nothing else matters. -/
  independent : ∀ v w, (∀ x, v.Says s.section_ s.key x ↔ w.Says s.section_ s.key x) →
    s.field (ofValue v) = s.field (ofValue w)

/-- **A setting that is read at its key follows it.** -/
theorem isGoverned_of_reads {s : Setting α} {read : Value → Option α}
    (hread : ∀ {x a}, read x = some a ↔ s.shape x a)
    (hfield : ∀ v, s.field (ofValue v) =
      ((lookup v s.section_ s.key).bind read).getD (s.field {})) :
    s.IsGoverned where
  taken v x a hsays hshape := by
    rw [hfield, lookup_eq_some_iff.mpr hsays, Option.bind_some, hread.mpr hshape, Option.getD_some]
  fallback v hnone := by
    have hempty : (lookup v s.section_ s.key).bind read = none := by
      refine Option.eq_none_iff_forall_ne_some.mpr fun a ha => ?_
      obtain ⟨x, hx, hxa⟩ := Option.bind_eq_some_iff.mp ha
      exact hnone x a (lookup_eq_some_iff.mp hx) (hread.mp hxa)
    rw [hfield, hempty, Option.getD_none]
  independent v w hagree := by
    have hsame : lookup v s.section_ s.key = lookup w s.section_ s.key := by
      refine Option.ext fun x => ?_
      rw [lookup_eq_some_iff, lookup_eq_some_iff]
      exact hagree x
    rw [hfield, hfield, hsame]

end Setting

/-- Settings have workers, whatever the document says. -/
theorem one_le_maxWorkers (v : Value) : 1 ≤ (ofValue v).maxWorkers := by
  change 1 ≤ ((lookup v "analysis" "max_workers").bind positive?).getD 8
  cases h : (lookup v "analysis" "max_workers").bind positive? with
  | none => decide
  | some n =>
    obtain ⟨x, -, hx⟩ := Option.bind_eq_some_iff.mp h
    exact (positive?_eq_some_iff.mp hx).2

/-! ### Documents and files -/

section Truncate

variable {n : Nat}

/-- A lookup goes two levels down, so what it finds has two levels less. -/
theorem lookup_truncate (v : Value) (section_ key : String) :
    lookup (v.truncate (n + 3)) section_ key =
      (lookup v section_ key).map (Value.truncate (n + 1)) := by
  rw [lookup, lookup, Value.get?_truncate, Option.bind_map, Option.map_bind]
  congr 1
  funext inner
  exact Value.get?_truncate inner n key

theorem positive?_truncate (x : Value) : positive? (x.truncate (n + 1)) = positive? x := by
  cases x <;> rfl

theorem flag?_truncate (x : Value) : flag? (x.truncate (n + 1)) = flag? x := by
  cases x <;> rfl

theorem text?_truncate (x : Value) : text? (x.truncate (n + 1)) = text? x := by
  cases x <;> rfl

/-- A list of names has two levels. -/
theorem texts?_truncate (x : Value) : texts? (x.truncate (n + 2)) = texts? x := by
  cases x with
  | seq items =>
    rw [Value.truncate, texts?, texts?]
    induction items with
    | nil => rfl
    | cons item items ih => rw [List.map_cons, List.mapM_cons, List.mapM_cons, text?_truncate, ih]
  | _ => rfl

/-- **Settings look four levels deep:** at the document, a section, what stands at a key, and its
items. -/
theorem ofValue_truncate (v : Value) (h : 4 ≤ n) : ofValue (v.truncate n) = ofValue v := by
  obtain ⟨n, rfl⟩ : ∃ k, n = k + 4 := ⟨n - 4, by omega⟩
  simp only [ofValue, lookup_truncate, Option.bind_map, Function.comp_def, positive?_truncate,
    flag?_truncate, text?_truncate, texts?_truncate]

end Truncate

section Files

variable {d : Disk} {p : Path} {ε : Type} {read : List UInt8 → Except (Yaml.Refusal ε) Value}

/-- What is loaded comes from a document, or nothing is set. -/
theorem exists_of_loadBy {s : Settings} (h : loadBy read d p = .ok s) :
    s = {} ∨ ∃ v, s = ofValue v := by
  unfold loadBy at h
  split at h
  · exact .inl (Except.ok.inj h).symm
  · unfold ofReading at h
    split at h
    · exact .inr ⟨_, (Except.ok.inj h).symm⟩
    · exact .inl (Except.ok.inj h).symm
    · exact .inl (Except.ok.inj h).symm
    · exact .inl (Except.ok.inj h).symm
    · cases h

/-- Settings that are loaded have workers. -/
theorem one_le_maxWorkers_of_loadBy {s : Settings} (h : loadBy read d p = .ok s) :
    1 ≤ s.maxWorkers := by
  rcases exists_of_loadBy h with rfl | ⟨v, rfl⟩
  · decide
  · exact one_le_maxWorkers v

end Files

end Settings

/-! ### Analyses -/

section Workers

variable {entry : Entry} {root : Path} {request : Request} {settings : Settings}

/-- With workers, batches fail for their term only. -/
theorem compile_of_outcome_runBatches (hw : 1 ≤ settings.maxWorkers) {findings : Findings}
    {ds : List Dialect} {f : Failure}
    (h : (runBatches entry root request settings findings ds).outcome = .error f) :
    Filter.compile request.query settings.highlightMarker = .error f := by
  induction ds generalizing findings with
  | nil => cases h
  | cons d ds ih =>
    rw [outcome_runBatches_cons] at h
    cases hbatch : (runBatch entry root request settings findings d).outcome with
    | ok r =>
      rw [hbatch] at h
      -- this batch succeeded, so a later one has failed
      suffices hrun : (runBatches entry root request settings r.1 ds).outcome = .error f
        from ih hrun
      cases hrest : (runBatches entry root request settings r.1 ds).outcome with
      | ok rs =>
        rw [Except.bind, hrest] at h
        cases h
      | error f' =>
        rw [Except.bind, hrest] at h
        exact h
    | error f' =>
      rw [hbatch] at h
      obtain rfl := Except.error.inj h
      cases hf : Filter.compile request.query settings.highlightMarker with
      | ok filter =>
        -- with workers, a batch with a filter does not fail
        rw [outcome_runBatch_of_ok hf, outcome_extractFiles _ _ _ (.inr hw)] at hbatch
        cases hbatch
      | error f =>
        cases f with
        | invalidPattern term fault =>
          rw [outcome_runBatch_of_invalid hf] at hbatch
          cases hbatch
        | _ =>
          rw [outcome_runBatch_of_failure hf fun _ _ => Failure.noConfusion] at hbatch
          rw [Except.error.inj hbatch]

/-- A term is never to blame for missing workers. -/
theorem compile_ne_noWorkers (q : Query) (marker : String) :
    Filter.compile q marker ≠ .error .noWorkers := by
  intro h
  unfold Filter.compile at h
  cases hq : Filter.ofQuery q marker with
  | ok filter =>
    rw [hq] at h
    cases h
  | error fault =>
    rw [hq] at h
    cases fault <;> cases h

/-- **An analysis under the settings of its directory has workers.** -/
theorem outcome_analyze_ne_noWorkers (d : Disk) (p : Path) (request : Request) :
    (analyze d p request none).outcome ≠ .error .noWorkers := by
  intro h
  cases hdir : d.directory? p with
  | none =>
    rw [outcome_analyze_of_none hdir] at h
    cases h
  | some place =>
    obtain ⟨root, entry⟩ := place
    rw [outcome_analyze_of_directory hdir, settingsOr] at h
    cases hload : Settings.load d root with
    | error fault =>
      rw [hload] at h
      cases h
    | ok settings =>
      rw [hload] at h
      change (analyzeEntry d root entry request settings).outcome = _ at h
      rw [outcome_analyzeEntry] at h
      cases hbatches :
          (runBatches entry root request settings {} (presentIn entry request)).outcome with
      | ok r =>
        rw [hbatches] at h
        cases h
      | error f =>
        rw [hbatches] at h
        obtain rfl := Except.error.inj h
        -- settings that were loaded have a worker, so the failure is that of the pattern
        exact compile_ne_noWorkers _ _
          (compile_of_outcome_runBatches (Settings.one_le_maxWorkers_of_loadBy hload) hbatches)

end Workers

open Settings Yaml in
/-- **Settings follow their keys.** Each of the six settings is what stands at its own key, if the
section is a mapping and the value has the right shape, and its default otherwise; documents that
agree at the key of a setting agree on it, whatever they say elsewhere. The settings of a file are
those of its document, however deep that is unfolded. All settings that are loaded have at least one
worker, so no analysis under the settings of its directory is refused for want of workers. -/
theorem settings_follow_their_keys :
    (Setting.maxWorkers.IsGoverned ∧ Setting.skipDirectories.IsGoverned ∧
      (Setting.searchFlag Settings.caseSensitive "case_sensitive").IsGoverned ∧
      (Setting.searchFlag Settings.useRegex "use_regex").IsGoverned ∧
      (Setting.searchFlag Settings.highlightMatches "highlight_matches").IsGoverned ∧
      Setting.highlightMarker.IsGoverned) ∧
    (∀ (d : Disk) (p : Path) (bytes : List UInt8) (text : List Char),
      d.content? (p.child fileName) = some bytes → Text.decode bytes = .ok text →
      (∀ v, Value.ofText (Text.unixLines text) = .ok v → load d p = .ok (ofValue v)) ∧
      ∀ g root, IsDocument (Text.unixLines text) g root → ∀ n, depth ≤ n →
        load d p = .ok (ofValue (unfold g n root))) ∧
    (∀ v, 1 ≤ (ofValue v).maxWorkers) ∧
    (∀ d p settings, load d p = .ok settings → 1 ≤ settings.maxWorkers) ∧
    ∀ d p request, (analyze d p request none).outcome ≠ .error .noWorkers := by
  refine ⟨⟨?_, ?_, ?_, ?_, ?_, ?_⟩, ?_, one_le_maxWorkers, fun _ _ _ => one_le_maxWorkers_of_loadBy,
    outcome_analyze_ne_noWorkers⟩
  · exact Setting.isGoverned_of_reads positive?_eq_some_iff fun _ => rfl
  · exact Setting.isGoverned_of_reads texts?_eq_some_iff fun _ => rfl
  · exact Setting.isGoverned_of_reads flag?_eq_some_iff fun _ => rfl
  · exact Setting.isGoverned_of_reads flag?_eq_some_iff fun _ => rfl
  · exact Setting.isGoverned_of_reads flag?_eq_some_iff fun _ => rfl
  · exact Setting.isGoverned_of_reads text?_eq_some_iff fun _ => rfl
  · intro d p bytes text hcontent hdecode
    refine ⟨fun v hv => load_of_ofText hcontent hdecode hv, fun g root hdocument n hn => ?_⟩
    -- cut off at the depth to which documents are unfolded, the value is the same
    rw [load_of_ofText hcontent hdecode hdocument.ofText_eq, ← truncate_unfold g hn root,
      ofValue_truncate _ (by decide)]

end SourceAtlas
