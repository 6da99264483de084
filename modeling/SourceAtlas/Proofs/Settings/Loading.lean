import SourceAtlas.Proofs.Settings.KeyByKey

/-!
# When settings cannot be loaded

Settings are loaded by a reader of documents, and all that happens to a file happens in the reader.
Who loads settings knows three of the reasons for which a reader may refuse: the file is not given,
its bytes are no text, its text is no document. For these nothing is set. Any other fault is handed
on, and readers have such faults. The one that is used here has them for scalars without a value.

This is said for every reader that refuses bytes that are no text (`Refuses`). What else a reader
takes for a document, and which faults it has, makes no difference.

* `load_returns_unless_handed_on` — all outcomes, for every reader, every file and without a file;
* `refuses_ofBytes` — the reader that is used here refuses bytes that are no text;
* `load_fails_for_month` — a date in the thirteenth month is handed on, and ends an analysis.
-/

namespace SourceAtlas.Settings

open Yaml

/-- **What is relied on in a reader:** bytes that are no text have no value. -/
def Refuses {ε : Type} (read : List UInt8 → Except (Refusal ε) Value) : Prop :=
  ∀ bytes fault v, Text.decode bytes = .error fault → read bytes ≠ .ok v

section Readers

variable {ε : Type} {read : List UInt8 → Except (Refusal ε) Value} {d : Disk} {p : Path}
  {bytes : List UInt8}

theorem loadBy_of_content (h : d.content? (p.child fileName) = some bytes) :
    loadBy read d p = ofReading (read bytes) := by
  rw [loadBy, h]

theorem ofReading_of_known {refusal : Refusal ε} (h : ∀ fault, refusal ≠ .other fault) :
    ofReading (.error refusal) = .ok {} := by
  cases refusal with
  | inaccessible => rfl
  | undecodable => rfl
  | malformed => rfl
  | other fault => exact absurd rfl (h fault)

/-- **Reading gives settings, unless a fault is handed on.** -/
theorem exists_ofReading_iff (result : Except (Refusal ε) Value) :
    (∃ s, ofReading result = .ok s) ↔ ∀ fault, result ≠ .error (.other fault) := by
  constructor
  · rintro ⟨s, hs⟩ fault rfl
    cases hs
  · intro h
    cases result with
    | ok v => exact ⟨_, rfl⟩
    | error refusal =>
      exact ⟨{}, ofReading_of_known fun fault hfault => h fault (congrArg Except.error hfault)⟩

/-- **Loading settings gives settings, unless the reader has a fault that is handed on.** For every
reader that refuses bytes that are no text, every disk and every directory:

* Without a file, nothing is set.
* A document with a value sets what it says.
* If the reader refuses for one of the three known reasons, nothing is set; otherwise its fault is
  handed on. In particular, bytes that are no text set nothing, unless the reader has met another
  fault by then.
* So there are settings if, and only if, there is no such fault, and settings always have
workers. -/
theorem load_returns_unless_handed_on (hread : Refuses read) (d : Disk) (p : Path) :
    (d.content? (p.child fileName) = none → loadBy read d p = .ok {}) ∧
    (∀ bytes, d.content? (p.child fileName) = some bytes →
      (∀ v, read bytes = .ok v → loadBy read d p = .ok (ofValue v)) ∧
      (∀ refusal, read bytes = .error refusal → (∀ fault, refusal ≠ .other fault) →
        loadBy read d p = .ok {}) ∧
      (∀ fault, read bytes = .error (.other fault) → loadBy read d p = .error fault) ∧
      ∀ garbage, Text.decode bytes = .error garbage →
        loadBy read d p = .ok {} ∨ ∃ fault, read bytes = .error (.other fault)) ∧
    ((∃ s, loadBy read d p = .ok s) ↔
      ∀ bytes fault, d.content? (p.child fileName) = some bytes →
        read bytes ≠ .error (.other fault)) ∧
    ∀ s, loadBy read d p = .ok s → 1 ≤ s.maxWorkers := by
  refine ⟨fun hnone => ?_, fun bytes hcontent => ?_, ?_, fun s hs => ?_⟩
  · rw [loadBy, hnone]
  · rw [loadBy_of_content hcontent]
    refine ⟨fun v hv => ?_, fun refusal hrefusal hknown => ?_, fun fault hfault => ?_,
      fun garbage hgarbage => ?_⟩
    · rw [hv]
      rfl
    · rw [hrefusal]
      exact ofReading_of_known hknown
    · rw [hfault]
      rfl
    · -- there is no value, so there is a refusal, and it is known or not
      cases hresult : read bytes with
      | ok v => exact absurd hresult (hread bytes garbage v hgarbage)
      | error refusal =>
        cases refusal with
        | other fault => exact .inr ⟨fault, rfl⟩
        | inaccessible => exact .inl rfl
        | undecodable => exact .inl rfl
        | malformed => exact .inl rfl
  · cases hcontent : d.content? (p.child fileName) with
    | none =>
      refine iff_of_true ⟨{}, by rw [loadBy, hcontent]⟩ ?_
      intro bytes fault hbytes
      cases hbytes
    | some bytes =>
      rw [loadBy_of_content hcontent, exists_ofReading_iff]
      constructor
      · intro h bytes' fault hbytes'
        obtain rfl := Option.some.inj hbytes'
        exact h fault
      · exact fun h fault => h bytes fault rfl
  · exact one_le_maxWorkers_of_loadBy hs

end Readers

/-! ### The reader that is used -/

/-- **The reader that is used refuses bytes that are no text.** -/
theorem refuses_ofBytes : Refuses Value.ofBytes := by
  intro bytes fault v hdecode h
  unfold Value.ofBytes at h
  simp only [hdecode] at h
  split at h
  · cases h
  · cases h

/-- A directory with settings. -/
def projectWith (bytes : List UInt8) : Disk :=
  { entries := [.directory "proj" [.file fileName bytes]] }

/-- A document with a date that there is not. -/
def datedText : String := "built: 2001-13-01\n"

/-- A byte that is no text sets nothing; the date that there is not is handed on. -/
theorem load_returns_unless_handed_on_garbage :
    loadBy Value.ofBytes (projectWith [0xff]) (Path.ofString "proj") = .ok {} ∧
      loadBy Value.ofBytes (projectWith (Text.encode datedText)) (Path.ofString "proj") =
        .error .month := by
  have hgarbage : Value.ofBytes [0xff] = .error .undecodable :=
    eq_error_of_map_eq_error (f := fun _ => ()) (by decide +kernel)
  have hmonth : Value.ofBytes (Text.encode datedText) = .error (.other .month) :=
    eq_error_of_map_eq_error (f := fun _ => ()) (by decide +kernel)
  obtain ⟨-, hfile, -, -⟩ :=
    load_returns_unless_handed_on refuses_ofBytes (projectWith [0xff]) (Path.ofString "proj")
  obtain ⟨-, hfile', -, -⟩ := load_returns_unless_handed_on refuses_ofBytes
    (projectWith (Text.encode datedText)) (Path.ofString "proj")
  refine ⟨(hfile [0xff] (by decide +kernel)).2.1 _ hgarbage fun fault h => ?_,
    (hfile' (Text.encode datedText) (by decide +kernel)).2.2.1 _ hmonth⟩
  cases h

/-- **Settings cannot always be loaded:** there is a date in the thirteenth month, at a key that
sets nothing. No analysis of that directory has a result, whatever is asked for. -/
theorem load_fails_for_month :
    load (projectWith (Text.encode datedText)) (Path.ofString "proj") = .error .month ∧
      (∀ request, (analyze (projectWith (Text.encode datedText)) (Path.ofString "proj") request
        none).outcome = .error (.settings .month)) ∧
      ¬∀ d p, ∃ s, load d p = .ok s := by
  have hload : load (projectWith (Text.encode datedText)) (Path.ofString "proj") =
      .error .month := by
    decide +kernel
  refine ⟨hload, fun request => outcome_analyze_of_settings ?_ request, fun h => ?_⟩
  · rw [settingsOr, hload]
    rfl
  · obtain ⟨s, hs⟩ := h (projectWith (Text.encode datedText)) (Path.ofString "proj")
    rw [hload] at hs
    cases hs

end SourceAtlas.Settings
