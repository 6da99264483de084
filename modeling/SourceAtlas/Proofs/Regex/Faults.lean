import SourceAtlas.Proofs.Regex.Reading

/-!
# Which faults a pattern text can have

The readers of escapes, sets, repetition signs, flags, groups and whole patterns are gone through
one by one, in the logic of readers. Only three places matter:

* A count is refused as too large or too long when its closing brace has been read. By then the text
  from the opening brace on is a count in braces (`triple_repetitionBounds`).
* Flags contradict each other when all is read. Flags for the whole pattern come from a group of
  letters, and when they are added the text from the opening parenthesis on is such a group
  (`triple_flagsOn`, `triple_flagChange`).
* Nesting is refused where a group would be read two levels deeper, and the parenthesis that opens
  it has been read by then (`triple_requireLevel`).

Faults that wait until all is read are about repetitions and look-behinds (`Part.Mild`).

* `excused_of_parse` — a fault of a pattern text is a mistake of notation, or the text has what it
  is about.
-/

namespace SourceAtlas.Regex

namespace Reader

variable {pattern front : List Char} {level : Nat}

/-! ### Faults that wait -/

/-- The faults that wait until all is read are excused. -/
def Part.Mild (pattern : List Char) (p : Part) : Prop :=
  ∀ fault ∈ p.late, Excused pattern fault

theorem mild_of_nil {p : Part} (h : p.late = []) : p.Mild pattern := by
  intro fault hfault
  rw [h] at hfault
  cases hfault

/-- A sequence waits with the faults of its pieces. -/
theorem mild_ofPieces {pieces : List Piece} (h : ∀ p ∈ pieces, p.toPart.Mild pattern) :
    (Part.ofPieces pieces).Mild pattern := by
  intro fault hfault
  obtain ⟨p, hp, hlate⟩ := List.mem_flatMap.mp hfault
  exact h p (List.mem_reverse.mp hp) fault hlate

/-- An alternation waits with the faults of its branches. -/
theorem mild_ofBranches {parts : List Part} (h : ∀ p ∈ parts, p.Mild pattern) :
    (Part.ofBranches parts).Mild pattern := by
  unfold Part.ofBranches
  split
  · exact mild_of_nil rfl
  · exact h _ List.mem_cons_self
  · intro fault hfault
    obtain ⟨p, hp, hlate⟩ := List.mem_flatMap.mp hfault
    exact h p hp fault hlate

/-- A repetition waits with the faults of its piece, and perhaps with one that needs no excuse. -/
theorem mild_repeatPiece {forbidden : Bool} {mode : Greed} {least : Nat} {most : Option Nat}
    {p : Piece} (h : p.toPart.Mild pattern) :
    (repeatPiece forbidden mode least most p).toPart.Mild pattern := by
  intro fault hfault
  rcases List.mem_append.mp hfault with hforbidden | hlate
  · split at hforbidden
    · rw [List.mem_singleton.mp hforbidden]
      trivial
    · cases hforbidden
  · exact h fault hlate

/-- A look-behind without a fixed width is a mistake of notation. -/
theorem excused_of_mem_lookbehindFaults {w : Width} {fault : Fault}
    (h : fault ∈ lookbehindFaults w) : Excused pattern fault := by
  unfold lookbehindFaults at h
  split at h
  · rw [List.mem_singleton.mp h]
    trivial
  · split at h
    · rw [List.mem_singleton.mp h]
      trivial
    · cases h

/-- A look-behind waits with the faults of its body, and perhaps with one of its own. -/
theorem mild_lookbehind {node : Regex} {body : Part} (h : body.Mild pattern) :
    (lookPiece node (lookbehindFaults body.width ++ body.late)).toPart.Mild pattern :=
  List.forall_mem_append.mpr ⟨fun _ => excused_of_mem_lookbehindFaults, h⟩

/-- A condition waits with the faults of its branches, of which one may be left out. -/
theorem excused_of_mem_branches {yes : Part} {no : Option Part} (hyes : yes.Mild pattern)
    (hno : ∀ p ∈ no, p.Mild pattern) :
    ∀ fault ∈ yes.late ++ (no.map Part.late).getD [], Excused pattern fault := by
  refine List.forall_mem_append.mpr ⟨hyes, ?_⟩
  cases no with
  | none => exact List.forall_mem_nil _
  | some p => exact hno p rfl

/-! ### Escapes and sets -/

theorem keeps_hexEscape {c : Char} {digits : Nat} : Keeps pattern level (hexEscape c digits) := by
  unfold hexEscape
  refine keeps_bind keeps_takeWhile fun ds => ?_
  dsimp only
  split
  · exact gives_refuse
  · split
    · exact gives_refuse
    · exact keeps_pure

theorem keeps_namedEscape : Keeps pattern level namedEscape := by
  unfold namedEscape
  refine keeps_bind keeps_accept fun taken => ?_
  split
  · refine keeps_bind keeps_name fun n => ?_
    split
    · exact keeps_pure
    · exact gives_refuse
  · exact gives_refuse

/-- An escape by code takes its digits or its name and leaves a state that fits. -/
theorem keeps_codeEscape? {c : Char} {read : Reads Nat} (h : codeEscape? c = some read) :
    Keeps pattern level read := by
  -- two, four or eight digits, or the name of a character
  unfold codeEscape? at h
  split at h
  · cases h
    exact keeps_hexEscape
  · split at h
    · cases h
      exact keeps_hexEscape
    · split at h
      · cases h
        exact keeps_hexEscape
      · split at h
        · cases h
          exact keeps_namedEscape
        · cases h

theorem keeps_selfEscape {c : Char} : Keeps pattern level (selfEscape c) := by
  unfold selfEscape
  split
  · exact gives_refuse
  · exact keeps_pure

theorem keeps_byteEscape {ds : List Char} : Keeps pattern level (byteEscape ds) := by
  unfold byteEscape
  dsimp only
  split
  · exact gives_refuse
  · exact keeps_pure

/-- An escape in a set, whichever of its kinds. -/
theorem keeps_setEscape {c : Char} : Keeps pattern level (setEscape c) := by
  unfold setEscape
  -- inside a set there are neither anchors nor references, so digits are octal or refused
  split
  · exact keeps_pure
  · split
    · exact keeps_pure
    · split
      · exact keeps_pure
      · split
        · next read hread => exact keeps_bind (keeps_codeEscape? hread) fun _ => keeps_pure
        · split
          · exact keeps_bind keeps_takeWhile fun _ => keeps_bind keeps_byteEscape fun _ =>
              keeps_pure
          · split
            · exact gives_refuse
            · exact keeps_bind keeps_selfEscape fun _ => keeps_pure

/-- A reference waits with no fault: it is refused at once if there is no such group. -/
theorem gives_groupReference {scope : Scope} {index back : Nat} :
    Gives pattern level (groupReference scope index back) fun p => p.toPart.Mild pattern := by
  unfold groupReference
  refine gives_look fun r => ?_
  split
  · exact gives_refuse
  · exact keeps_bind keeps_requireBefore fun _ => gives_pure (mild_of_nil rfl)

/-- Digits behind a backslash are a character by its code or a reference. -/
theorem gives_digitEscape {scope : Scope} {c : Char} :
    Gives pattern level (digitEscape scope c) fun p => p.toPart.Mild pattern := by
  unfold digitEscape
  refine keeps_bind keeps_takeWhile fun second => gives_look fun r => ?_
  split
  · exact keeps_bind keeps_takeWhile fun third =>
      keeps_bind keeps_byteEscape fun n => gives_pure (mild_of_nil rfl)
  · refine gives_look fun r' => ?_
    split
    · exact gives_groupReference
    · exact gives_refuse

/-- An escape outside a set waits with no fault. -/
theorem gives_escape {scope : Scope} {c : Char} :
    Gives pattern level (escape scope c) fun p => p.toPart.Mild pattern := by
  unfold escape
  -- the four anchors, then classes, control characters, codes, and digits last
  split
  · exact gives_pure (mild_of_nil rfl)
  · exact gives_pure (mild_of_nil rfl)
  · exact gives_pure (mild_of_nil rfl)
  · exact gives_pure (mild_of_nil rfl)
  · split
    · exact gives_pure (mild_of_nil rfl)
    · split
      · exact gives_pure (mild_of_nil rfl)
      · split
        · next read hread =>
          exact keeps_bind (keeps_codeEscape? hread) fun n => gives_pure (mild_of_nil rfl)
        · split
          · exact keeps_bind keeps_takeWhile fun ds => gives_pure (mild_of_nil rfl)
          · split
            · exact gives_digitEscape
            · exact keeps_bind keeps_selfEscape fun n => gives_pure (mild_of_nil rfl)

/-- The items of a set, read to the closing bracket. A range may be refused, which is a mistake of
notation. -/
theorem keeps_setItems {here : Nat} {items : List SetItem} {n : Nat} :
    Keeps pattern level (setItems here items n) := by
  induction n generalizing items with
  | zero => exact gives_refuse
  | succ n ih =>
    rw [setItems]
    refine keeps_bind keeps_take fun t => ?_
    split
    · exact gives_look fun _ => gives_refuse
    · next this =>
      split
      · exact keeps_pure
      · -- an item, which is the lower end of a range if a dash and another item follow
        refine keeps_bind ?_ fun low => keeps_bind keeps_accept fun dash => ?_
        · cases this with
          | plain c => exact keeps_pure
          | escaped c => exact keeps_setEscape
        split
        · refine keeps_bind keeps_take fun t' => ?_
          split
          · exact gives_look fun _ => gives_refuse
          · next that =>
            split
            · exact keeps_pure
            · refine keeps_bind ?_ fun high => ?_
              · cases that with
                | plain c => exact keeps_pure
                | escaped c => exact keeps_setEscape
              split
              · split
                · exact gives_refuse
                · exact ih
              · exact gives_refuse
        · exact ih

/-- A set waits with no fault. -/
theorem gives_charSet {scope : Scope} :
    Gives pattern level (charSet scope) fun p => p.toPart.Mild pattern :=
  gives_look fun _ => keeps_bind keeps_accept fun _ => gives_look fun _ =>
    keeps_bind keeps_setItems fun _ => gives_pure (mild_of_nil rfl)

/-! ### Counts -/

/-- A count has been read up to its closing brace. -/
def CountRead (pattern : List Char) (level : Nat) (low high : List Char) (r : Reading) : Prop :=
  ∃ front, Fits pattern level front r ∧ BraceCount (front ++ ['}']) low high ∧
    (∀ c ∈ low, c.isDigit = true) ∧ ∀ c ∈ high, c.isDigit = true

/-- A bound that is refused is too long or too large. -/
theorem triple_countOf {digits : List Char}
    (hlong : digitLimit < digits.length → Excused pattern (.countTooLong digits.length))
    (hhuge : countLimit ≤ numberOf 10 digits → Excused pattern .countTooLarge) :
    Triple pattern (Fits pattern level front) (countOf digits) fun _ r =>
      Fits pattern level front r := by
  unfold countOf
  split
  · next h => exact triple_throw fun _ _ => hlong h
  · dsimp only
    split
    · next h => exact triple_throw fun _ _ => hhuge h
    · exact triple_pure fun _ hr => hr

/-- **A count that is refused stands in the text.** -/
theorem triple_repetitionBounds {sign : Char} (hsign : sign ∈ ['*', '+', '?', '{']) :
    Triple pattern (Fits pattern level [sign]) (repetitionBounds sign) fun _ r =>
      Fits pattern level [] r := by
  have hpure : ∀ {front : List Char} {bounds : Option (Nat × Option Nat)},
      Triple pattern (Fits pattern level front) (pure bounds) fun _ r => Fits pattern level [] r :=
    triple_pure fun _ hr => hr.forget
  simp only [List.mem_cons, List.not_mem_nil, or_false] at hsign
  rcases hsign with rfl | rfl | rfl | rfl
  · exact hpure
  · exact hpure
  · exact hpure
  · refine triple_get_bind fun start hstart => ?_
    have hfits : ∀ r, r = start → Fits pattern level ['{'] r := by
      rintro r rfl
      exact hstart
    dsimp only
    split
    · exact hpure.imp hfits fun _ _ hr => hr
    refine triple_bind (triple_takeWhile.imp hfits fun _ _ hr => hr) fun low => ?_
    refine triple_extract fun hlow => triple_bind triple_accept fun comma => ?_
    refine triple_ite_bind (Q := CountRead pattern level low) (fun hcomma => ?_) (fun hcomma => ?_)
      fun high => ?_
    · subst hcomma
      refine triple_takeWhile.imp (fun _ hr => hr) fun high r hr => ⟨_, hr.1, ?_, hlow, hr.2⟩
      have htwo := BraceCount.two low high
      simpa using htwo
    · -- without a comma the one bound is both
      subst hcomma
      exact triple_pure fun r hr => ⟨_, hr, .one low, hlow, hlow⟩
    · intro r hr
      obtain ⟨front, hfront, hcount, hlow', hhigh⟩ := hr
      -- behind the closing brace the count is in the text
      have hwrites : ∀ {r' : Reading} {kind : List Char → Prop},
          Fits pattern level (front ++ ['}']) r' → kind low ∨ kind high →
            WritesCount pattern kind :=
        fun hread hkind => ⟨_, low, high, hcount, hread.isInfix, hlow', hhigh, hkind⟩
      refine triple_bind triple_accept (fun close => ?_) r hfront
      cases close with
      | false =>
        -- the brace stands for itself, and reading goes on from behind it
        exact triple_bind (triple_set hstart.forget) fun _ => triple_pure fun _ hr => hr
      | true =>
        simp only [if_true]
        intro r' hread
        refine triple_bind (triple_countOf (fun hlong => ?_) fun hhuge => ?_)
          (fun least => ?_) r' hread
        · exact hwrites hread (.inl ⟨rfl, hlong⟩)
        · exact hwrites hread (.inl hhuge)
        split
        · exact hpure
        refine triple_bind (triple_countOf (fun hlong => ?_) fun hhuge => ?_) fun most => ?_
        · exact hwrites hread (.inr ⟨rfl, hlong⟩)
        · exact hwrites hread (.inr hhuge)
        split
        · exact triple_look fun _ => triple_refuse
        · exact hpure

theorem keeps_greed : Keeps pattern level greed := by
  unfold greed
  refine keeps_bind keeps_accept fun _ => ?_
  split
  · exact keeps_pure
  · refine keeps_bind keeps_accept fun _ => ?_
    split
    · exact keeps_pure
    · exact keeps_pure

/-- A repetition sign behind the pieces so far: the last one is repeated, the others stay. -/
theorem gives_repetition {here least : Nat} {most : Option Nat} {pieces : List Piece}
    (h : ∀ p ∈ pieces, p.toPart.Mild pattern) :
    Gives pattern level (repetition here least most pieces) fun ps =>
      ∀ p ∈ ps, p.toPart.Mild pattern := by
  unfold repetition
  refine gives_look fun r => ?_
  dsimp only
  split
  · exact gives_refuse
  · next p ps =>
    obtain ⟨hp, hps⟩ := List.forall_mem_cons.mp h
    split
    · exact gives_refuse
    · exact gives_refuse
    · exact keeps_bind keeps_greed fun mode => gives_look fun r' =>
        gives_pure (List.forall_mem_cons.mpr ⟨mild_repeatPiece hp, hps⟩)

/-! ### Flags -/

/-- A token that stands for a flag is its letter. -/
theorem exists_of_ofToken? {t : Token} {f : Flag} (h : Flag.ofToken? t = some f) :
    ∃ c, t.text = [c] ∧ Flag.ofChar? c = some f := by
  cases t with
  | plain c => exact ⟨c, rfl, h⟩
  | escaped c => cases h

/-- **Flags that are turned on are spelled in the text,** from the opening parenthesis to the sign
behind them. -/
theorem triple_flagsOn {f : Flag} {on : List Flag} {letters : List Char} {n : Nat}
    (h : letters.map Flag.ofChar? = (on ++ [f]).map some) :
    Triple pattern (Fits pattern level ('(' :: '?' :: letters)) (flagsOn f on n) fun result r =>
      ∃ letters', letters'.map Flag.ofChar? = result.1.map some ∧
        Fits pattern level ('(' :: '?' :: (letters' ++ [result.2])) r := by
  -- on the fuel; the letters read so far spell the flags so far and the one that was just taken
  induction n generalizing f on letters with
  | zero => exact triple_refuse
  | succ n ih =>
    rw [flagsOn]
    split
    · exact triple_refuse
    dsimp only
    split
    · exact triple_refuse
    refine triple_bind triple_take fun t => ?_
    split
    · exact triple_refuse
    · next t =>
      split
      · exact triple_pure fun r hr => ⟨letters, h, hr⟩
      · exact triple_pure fun r hr => ⟨letters, h, hr⟩
      · exact triple_pure fun r hr => ⟨letters, h, hr⟩
      · next g _ _ _ hg =>
        -- another letter, which is put behind the others
        obtain ⟨c, htext, hc⟩ := exists_of_ofToken? hg
        have hmore : (letters ++ [c]).map Flag.ofChar? = (on ++ [f] ++ [g]).map some := by
          simp only [List.map_append, List.map_singleton, h, hc]
        refine (ih hmore).imp (fun r hr => ?_) fun _ _ hr => hr
        rw [Option.map_some, Option.getD_some, htext] at hr
        exact hr
      · split
        · exact triple_refuse
        · exact triple_refuse

theorem keeps_flagsOff {f : Flag} {off : List Flag} {n : Nat} :
    Keeps pattern level (flagsOff f off n) := by
  induction n generalizing f off with
  | zero => exact gives_refuse
  | succ n ih =>
    rw [flagsOff]
    split
    · exact gives_refuse
    refine keeps_bind keeps_take fun t => ?_
    split
    · exact gives_refuse
    · split
      · exact keeps_pure
      · exact ih
      · split
        · exact gives_refuse
        · exact gives_refuse

/-- Flags that a group of letters spells are set by the text. -/
theorem exists_setsFlag {letters : List Char} {on : List Flag} {f : Flag}
    (h : letters.map Flag.ofChar? = on.map some)
    (hread : '(' :: '?' :: (letters ++ [')']) <:+: pattern) (hf : f ∈ on) :
    ∃ letter, Flag.ofChar? letter = some f ∧ SetsFlag pattern letter := by
  have hmem : some f ∈ letters.map Flag.ofChar? := h ▸ List.mem_map_of_mem hf
  obtain ⟨letter, hletter, hflag⟩ := List.mem_map.mp hmem
  refine ⟨letter, hflag, letters, hletter, fun c hc => ?_, hread⟩
  have hsome : Flag.ofChar? c ∈ on.map some := h ▸ List.mem_map_of_mem hc
  obtain ⟨g, -, hg⟩ := List.mem_map.mp hsome
  rw [← hg]
  rfl

/-- Flags have been read up to the sign behind them. If it closes the group, the text has set
them. -/
def FlagsRead (pattern : List Char) (level : Nat) (result : List Flag × Char) (r : Reading) :
    Prop :=
  Fits pattern level [] r ∧ (result.2 = ')' → ∀ f ∈ result.1,
    ∃ letter, Flag.ofChar? letter = some f ∧ SetsFlag pattern letter)

/-- Flags read from their first letter on. -/
theorem triple_flagsOn_first {c : Char} {f : Flag} {n : Nat} (h : Flag.ofChar? c = some f) :
    Triple pattern (Fits pattern level ['(', '?', c]) (flagsOn f [] n)
      (FlagsRead pattern level) := by
  have hletters : [c].map Flag.ofChar? = ([] ++ [f]).map some := congrArg (fun o => [o]) h
  refine (triple_flagsOn hletters).imp (fun _ hr => hr) fun result r hr => ?_
  obtain ⟨letters, hmap, hread⟩ := hr
  refine ⟨hread.forget, fun hsign f hf => ?_⟩
  rw [hsign] at hread
  exact exists_setsFlag hmap hread.isInfix hf

/-- **Flags for the whole pattern are set by the text.** -/
theorem triple_flagChange {t : Token} :
    Triple pattern (Fits pattern level ('(' :: '?' :: t.text)) (flagChange (Flag.ofToken? t))
      fun _ r => Fits pattern level [] r ∧ True := by
  have hscoped : ∀ on off : List Flag, Keeps pattern level
      (if off.contains .template then refuse .globalFlagOff 1
      else if on.any off.contains then refuse .flagOnAndOff 1
      else return FlagChange.scoped on off) := by
    intro on off
    split
    · exact gives_refuse
    · split
      · exact gives_refuse
      · exact keeps_pure
  unfold flagChange
  refine triple_get_bind fun s hs => ?_
  dsimp only
  -- letters are read or there are none; what follows is the same
  split
  case' h_1 f hf =>
    obtain ⟨c, htext, hc⟩ := exists_of_ofToken? hf
    rw [htext] at hs
    refine triple_bind (Q := FlagsRead pattern level)
      ((triple_flagsOn_first hc).imp (fun r hr => ?_) fun _ _ hr => hr) fun result => ?_
    · subst hr
      exact hs
  case' h_2 hf =>
    refine triple_bind (Q := FlagsRead pattern level) (triple_pure fun r hr => ?_) fun result => ?_
    · subst hr
      exact ⟨hs.forget, fun hsign => absurd hsign (by decide)⟩
  all_goals
    refine triple_extract fun hset => ?_
    split
    · next hsign =>
      -- the only place where flags are added for the whole pattern
      refine triple_bind (triple_modify (Q := fun _ => Fits pattern level []) fun r hr => ?_)
        fun _ => triple_pure fun _ hr => ⟨hr, trivial⟩
      refine ⟨hr.text, hr.paid, fun f hf => ?_⟩
      rcases List.mem_append.mp hf with hold | hnew
      · exact hr.flags f hold
      · exact .inr (hset hsign f hnew)
    · split
      · exact gives_refuse
      · split
        · refine keeps_bind keeps_take fun t' => ?_
          split
          · exact keeps_bind gives_refuse fun off => hscoped result.1 off
          · split
            · exact keeps_bind keeps_flagsOff fun off => hscoped result.1 off
            · split
              · exact keeps_bind gives_refuse fun off => hscoped result.1 off
              · exact keeps_bind gives_refuse fun off => hscoped result.1 off
        · exact keeps_bind keeps_pure fun off => hscoped result.1 off

/-! ### Openers of groups -/

theorem keeps_skipComment {start n : Nat} : Keeps pattern level (skipComment start n) := by
  induction n with
  | zero => exact gives_refuse
  | succ n ih =>
    rw [skipComment]
    refine gives_look fun r => ?_
    split
    · exact gives_look fun _ => gives_refuse
    · refine keeps_bind keeps_advance fun _ => ?_
      split
      · exact keeps_pure
      · exact ih

theorem keeps_skipLine {n : Nat} : Keeps pattern level (skipLine n) := by
  induction n with
  | zero => exact keeps_pure
  | succ n ih =>
    rw [skipLine]
    refine keeps_bind keeps_take fun t => ?_
    split
    · exact keeps_pure
    · split
      · exact keeps_pure
      · exact ih

/-- The group that a condition asks for. A number with too many digits is taken for a bad name here,
so it is a mistake of notation and not a count that is too long. -/
theorem keeps_conditionGroup : Keeps pattern level conditionGroup := by
  have hrest : ∀ index : Nat, Keeps pattern level (do requireBefore index; return index) :=
    fun _ => keeps_bind keeps_requireBefore fun _ => keeps_pure
  unfold conditionGroup
  refine keeps_bind keeps_name fun n => ?_
  split
  · refine gives_look fun r => ?_
    split
    · exact keeps_bind keeps_pure fun index => hrest index
    · exact keeps_bind gives_refuse fun index => hrest index
  · split
    · exact keeps_bind gives_refuse fun index => hrest index
    · exact keeps_bind gives_refuse fun index => hrest index
    · split
      · exact keeps_bind gives_refuse fun index => hrest index
      · -- a condition on a group by number is noted, to be checked when all is read
        refine keeps_bind ?_ fun _ => keeps_bind keeps_pure fun index => hrest index
        refine triple_modify fun r hr => ⟨?_, trivial⟩
        split
        · exact hr
        · exact hr.of_eq rfl rfl rfl

/-- A reference that an opener is has no faults that wait. -/
def GroupKind.Mild (pattern : List Char) (kind : GroupKind) : Prop :=
  ∀ piece, kind = .done (some piece) → piece.toPart.Mild pattern

/-- A group with a name, or a reference to one. -/
theorem gives_namedGroup {scope : Scope} :
    Gives pattern level (namedGroup scope) fun kind => kind.Mild pattern := by
  unfold namedGroup
  refine keeps_bind keeps_accept fun angle => ?_
  split
  · refine keeps_bind keeps_name fun n => keeps_bind keeps_requireIdentifier fun _ => gives_pure ?_
    intro piece h
    cases h
  · refine keeps_bind keeps_accept fun equals => ?_
    split
    · refine keeps_bind keeps_name fun n => keeps_bind keeps_requireIdentifier fun _ =>
        gives_look fun r => ?_
      split
      · exact gives_refuse
      · refine gives_bind gives_groupReference fun piece hpiece => gives_pure ?_
        intro piece' h
        cases h
        exact hpiece
    · refine keeps_bind keeps_take fun t => ?_
      split
      · exact gives_refuse
      · exact gives_refuse

/-- **An opener,** behind its parenthesis. -/
theorem triple_groupKind {scope : Scope} {atStart : Bool} :
    Triple pattern (Fits pattern level ['(']) (groupKind scope atStart) fun kind r =>
      Fits pattern level [] r ∧ kind.Mild pattern := by
  have hpure : ∀ {front : List Char} {kind : GroupKind}, (∀ piece, kind ≠ .done (some piece)) →
      Triple pattern (Fits pattern level front) (pure kind) fun kind r =>
        Fits pattern level [] r ∧ kind.Mild pattern :=
    fun h => triple_pure fun _ hr => ⟨hr.forget, fun piece hkind => absurd hkind (h piece)⟩
  refine triple_look fun s => triple_bind triple_accept fun question => ?_
  cases question with
  | false => exact hpure fun _ => GroupKind.noConfusion
  | true =>
    simp only [if_true]
    refine triple_bind triple_take fun t => ?_
    split
    · exact triple_refuse
    -- by the sign behind the question mark; the openers that read on are those of names, comments,
    -- look-behinds, conditions and flags
    split
    · exact gives_namedGroup.of_front
    · exact hpure fun _ => GroupKind.noConfusion
    · refine triple_look fun r => triple_bind keeps_skipComment.of_front fun _ => ?_
      exact triple_extract fun _ => hpure (by simp)
    · exact hpure fun _ => GroupKind.noConfusion
    · exact hpure fun _ => GroupKind.noConfusion
    · refine triple_bind triple_take fun u => ?_
      split
      · exact triple_refuse
      · exact hpure fun _ => GroupKind.noConfusion
      · exact hpure fun _ => GroupKind.noConfusion
      · exact triple_refuse
    · refine triple_bind keeps_conditionGroup.of_front fun index => ?_
      exact triple_extract fun _ => hpure fun _ => GroupKind.noConfusion
    · exact hpure fun _ => GroupKind.noConfusion
    · split
      · refine triple_bind triple_flagChange fun change => triple_extract fun _ => ?_
        split
        · split
          · exact hpure (by simp)
          · exact triple_look fun _ => triple_refuse
        · exact hpure fun _ => GroupKind.noConfusion
      · exact triple_refuse

theorem keeps_requireClose {start : Nat} : Keeps pattern level (requireClose start) := by
  unfold requireClose
  refine keeps_bind keeps_accept fun close => ?_
  split
  · exact keeps_pure
  · exact gives_look fun _ => gives_refuse

/-- **A level that is refused** is paid for by many parentheses. -/
theorem keeps_requireLevel {deeper : Nat} (h : deeper ≤ level) :
    Keeps pattern level (requireLevel deeper) := by
  unfold requireLevel
  split
  · next hlimit =>
    refine triple_throw fun r hr => ?_
    have hpaid := hr.paid
    simp only [levelLimit] at hlimit
    change 100 < pattern.count '('
    omega
  · exact keeps_pure

/-! ### Patterns -/

/-- The pieces of a sequence have no faults that wait and are not excused. -/
abbrev AllMild (pattern : List Char) (pieces : List Piece) : Prop :=
  ∀ p ∈ pieces, p.toPart.Mild pattern

/-- What reading the body of a group does: it uses up the two levels its parenthesis pays for. -/
abbrev ReadsBody (pattern : List Char) (level : Nat) (x : Reads (List Piece)) : Prop :=
  Triple pattern (Fits pattern (level + 2) []) x fun pieces r =>
    Fits pattern level [] r ∧ AllMild pattern pieces

/-- **What the three readers of patterns do with some fuel,** at every level. -/
structure ReadsParts (pattern : List Char) (n : Nat) : Prop where
  /-- An ordered choice. -/
  alternation : ∀ {level : Nat} {outer : Bool} {scope : Scope} {branches : List Part},
    (∀ p ∈ branches, p.Mild pattern) →
      Gives pattern level (Reader.alternation level outer scope branches n)
        fun p => p.Mild pattern
  /-- A sequence. -/
  sequence : ∀ {level : Nat} {leading : Bool} {scope : Scope} {pieces : List Piece},
    AllMild pattern pieces →
      Gives pattern level (Reader.sequence level leading scope pieces n) fun p => p.Mild pattern
  /-- The body of a group. -/
  groupBody : ∀ {level : Nat} {scope : Scope} {start : Nat} {kind : GroupKind}
    {pieces : List Piece}, kind.Mild pattern → AllMild pattern pieces →
      ReadsBody pattern level (Reader.groupBody level scope start kind pieces n)

/-- Noting where a look-behind starts touches nothing that `Fits` speaks about. -/
theorem keeps_noteBehind {bound : Reading → Option Nat} :
    Keeps pattern level (modify fun r => { r with behindFrom := bound r }) :=
  triple_modify fun _ hr => ⟨hr.of_eq rfl rfl rfl, trivial⟩

/-- The body of a group may be read one level down or two. -/
theorem readsBody_of_gives {deeper : Nat} {x : Reads (List Piece)} (hlow : level ≤ deeper)
    (hhigh : deeper ≤ level + 2) (h : Gives pattern deeper x (AllMild pattern)) :
    ReadsBody pattern level x :=
  h.imp (fun _ hr => hr.mono hhigh) fun _ _ hr => ⟨hr.1.mono hlow, hr.2⟩

section Step

variable {n : Nat} (ih : ReadsParts pattern n)

include ih

/-- **One step of an alternation:** a branch, and the others behind a bar. -/
theorem gives_alternation_succ {outer : Bool} {scope : Scope} {branches : List Part}
    (h : ∀ p ∈ branches, p.Mild pattern) :
    Gives pattern level (alternation level outer scope branches (n + 1))
      fun p => p.Mild pattern := by
  rw [alternation]
  refine gives_bind (ih.sequence (List.forall_mem_nil _)) fun branch hbranch => ?_
  have hbranches : ∀ p ∈ branch :: branches, p.Mild pattern :=
    List.forall_mem_cons.mpr ⟨hbranch, h⟩
  refine keeps_bind keeps_accept fun bar => ?_
  split
  · exact gives_look fun r => ih.alternation hbranches
  · exact gives_pure (mild_ofBranches fun p hp => hbranches p (List.mem_reverse.mp hp))

/-- **One step of a sequence:** a sign stands for itself, repeats the piece before it, or opens a
group. -/
theorem gives_sequence_succ {leading : Bool} {scope : Scope} {pieces : List Piece}
    (h : AllMild pattern pieces) :
    Gives pattern level (sequence level leading scope pieces (n + 1))
      fun p => p.Mild pattern := by
  have hcons : ∀ {piece : Piece}, piece.toPart.Mild pattern → AllMild pattern (piece :: pieces) :=
    fun hpiece => List.forall_mem_cons.mpr ⟨hpiece, h⟩
  rw [sequence]
  refine triple_get_bind fun s hs => ?_
  have hfits : ∀ r, r = s → Fits pattern level [] r := fun r hr => hr ▸ hs
  split
  · exact (gives_pure (mild_ofPieces h)).imp hfits fun _ _ hr => hr
  · next t hnext =>
    split
    · exact (gives_pure (mild_ofPieces h)).imp hfits fun _ _ hr => hr
    -- from here on the token is in front of what is read, and a parenthesis pays for two levels
    have hadvance := triple_advance_pay hs
    rw [hnext] at hadvance
    refine triple_bind hadvance fun _ => ?_
    have hread : ∀ {x : Reads Part}, Gives pattern level x (fun p => p.Mild pattern) →
        Triple pattern (Fits pattern (level + 2 * t.text.count '(') t.text) x
          fun p r => Fits pattern level [] r ∧ p.Mild pattern :=
      fun hx => hx.imp (fun _ hr => (hr.mono (Nat.le_add_right _ _)).forget) fun _ _ hr => hr
    -- blanks and comments of the verbose notation add no piece
    split
    · exact hread (ih.sequence h)
    split
    · exact hread (gives_look fun r => keeps_bind keeps_skipLine fun _ => ih.sequence h)
    split
    · exact hread (gives_bind gives_escape fun piece hpiece => ih.sequence (hcons hpiece))
    · exact hread (gives_bind gives_charSet fun piece hpiece => ih.sequence (hcons hpiece))
    · exact hread (ih.sequence (hcons (mild_of_nil rfl)))
    · exact hread (ih.sequence (hcons (mild_of_nil rfl)))
    · exact hread (ih.sequence (hcons (mild_of_nil rfl)))
    · -- a group, whose body uses up the levels that its parenthesis has paid for
      refine triple_look fun r => triple_bind triple_groupKind fun kind =>
        triple_extract fun hkind => triple_look fun r' => ?_
      exact triple_bind (ih.groupBody hkind h) fun pieces' =>
        triple_extract fun h' => ih.sequence h'
    · next c _ _ _ _ _ _ _ _ =>
      split
      · next hsign =>
        -- a brace that starts no count stands for itself
        have hmem : c ∈ ['*', '+', '?', '{'] := by simpa [or_assoc] using hsign
        refine triple_look fun r => triple_bind ((triple_repetitionBounds hmem).imp
          (fun _ hr => hr.mono (Nat.le_add_right _ _)) fun _ _ hr => hr) fun bounds => ?_
        split
        · exact ih.sequence (hcons (mild_of_nil rfl))
        · exact gives_bind (gives_repetition h) fun pieces' h' => ih.sequence h'
      · exact hread (ih.sequence (hcons (mild_of_nil rfl)))

/-- **One step of a group,** by its kind. Levels are taken only here, and the parenthesis pays for
them. -/
theorem readsBody_groupBody_succ {scope : Scope} {start : Nat} {kind : GroupKind}
    {pieces : List Piece} (hkind : kind.Mild pattern) (h : AllMild pattern pieces) :
    ReadsBody pattern level (groupBody level scope start kind pieces (n + 1)) := by
  have hcons : ∀ {piece : Piece}, piece.toPart.Mild pattern → AllMild pattern (piece :: pieces) :=
    fun hpiece => List.forall_mem_cons.mpr ⟨hpiece, h⟩
  -- a choice is read two levels down, the branches of a condition one
  have hchoice : ∀ {x : Reads (List Piece)}, Gives pattern (level + 2) x (AllMild pattern) →
      ReadsBody pattern level x :=
    readsBody_of_gives (Nat.le_add_right _ _) (Nat.le_refl _)
  have hbranches : ∀ {x : Reads (List Piece)}, Gives pattern (level + 1) x (AllMild pattern) →
      ReadsBody pattern level x :=
    readsBody_of_gives (Nat.le_succ _) (Nat.le_succ _)
  have hlevel : ∀ {deeper : Nat}, Keeps pattern deeper (requireLevel deeper) :=
    keeps_requireLevel (Nat.le_refl _)
  have hbody : ∀ {scope : Scope},
      Gives pattern (level + 2) (alternation (level + 2) false scope [] n)
        fun p => p.Mild pattern :=
    ih.alternation (List.forall_mem_nil _)
  -- most groups are a body and a parenthesis, made into a piece with the faults of the body
  have hgroup : ∀ {scope : Scope} {make : Part → Piece}, (∀ body, (make body).late = body.late) →
      Gives pattern (level + 2) (do
        requireLevel (level + 2)
        let body ← alternation (level + 2) false scope [] n
        requireClose start
        return make body :: pieces) (AllMild pattern) := by
    intro scope make hmake
    refine keeps_bind hlevel fun _ => gives_bind hbody fun body hlate =>
      keeps_bind keeps_requireClose fun _ => gives_pure (hcons fun fault hfault => ?_)
    exact hlate fault (hmake body ▸ hfault)
  rw [groupBody.eq_def]
  dsimp only
  split
  · exact hchoice (gives_pure h)
  · exact hchoice (gives_pure (hcons (hkind _ rfl)))
  · exact hchoice (keeps_bind keeps_openGroup fun index => keeps_bind hlevel fun _ =>
      gives_bind hbody fun body hlate => keeps_bind keeps_requireClose fun _ =>
        keeps_bind keeps_closeGroup fun _ => gives_pure (hcons hlate))
  · exact hchoice (hgroup fun _ => rfl)
  · exact hchoice (hgroup fun _ => rfl)
  · exact hchoice (hgroup fun _ => rfl)
  · -- a look-behind notes the groups before it, unless it is inside another one
    refine hchoice (gives_look fun r => ?_)
    by_cases houter : r.behindFrom.isNone = true
    · simp only [houter, if_true]
      exact keeps_bind keeps_noteBehind fun _ => keeps_bind hlevel fun _ =>
        gives_bind hbody fun body hlate => keeps_bind keeps_noteBehind fun _ =>
          keeps_bind keeps_requireClose fun _ => gives_pure (hcons (mild_lookbehind hlate))
    · simp only [houter]
      exact keeps_bind hlevel fun _ => gives_bind hbody fun body hlate =>
        keeps_bind keeps_requireClose fun _ => gives_pure (hcons (mild_lookbehind hlate))
  · -- a condition has one branch or two
    refine hbranches (keeps_bind hlevel fun _ => gives_bind
      (ih.sequence (List.forall_mem_nil _)) fun yes hyes => keeps_bind keeps_accept fun bar => ?_)
    split
    · refine gives_bind (R := fun no => ∀ p ∈ no, Part.Mild pattern p) ?_ fun no hno =>
        keeps_bind keeps_requireClose fun _ =>
          gives_pure (hcons (excused_of_mem_branches hyes hno))
      refine gives_bind (ih.sequence (List.forall_mem_nil _)) fun no hno => gives_look fun r => ?_
      split
      · exact gives_refuse
      · refine gives_pure fun p hp => ?_
        cases hp
        exact hno
    · refine gives_bind (R := fun no => ∀ p ∈ no, Part.Mild pattern p) (gives_pure fun p hp => ?_)
        fun no hno => keeps_bind keeps_requireClose fun _ =>
          gives_pure (hcons (excused_of_mem_branches hyes hno))
      cases hp

end Step

/-- The three readers call each other with less fuel, so they are taken together. -/
theorem readsParts (n : Nat) : ReadsParts pattern n := by
  induction n with
  | zero =>
    constructor
    · intro level outer scope branches _
      rw [alternation]
      exact gives_refuse
    · intro level leading scope pieces _
      rw [sequence]
      exact gives_refuse
    · intro level scope start kind pieces _ _
      rw [groupBody]
      exact triple_refuse
  | succ n ih =>
    exact ⟨gives_alternation_succ ih, gives_sequence_succ ih, readsBody_groupBody_succ ih⟩

/-- A letter of a flag that was set for the whole pattern. -/
theorem Fits.setsFlag {r : Reading} (h : Fits pattern level front r) {f : Flag} {letter : Char}
    (hf : r.flags.contains f = true) (hcase : f ≠ .ignoreCase)
    (hletter : ∀ c, Flag.ofChar? c = some f → c = letter) : SetsFlag pattern letter := by
  rcases h.flags f (List.contains_iff_mem.mp hf) with rfl | ⟨c, hc, hset⟩
  · exact absurd rfl hcase
  · exact hletter c hc ▸ hset

/-- What is checked when all is read: the faults that waited, and the flags. -/
theorem keeps_finish {p : Part} (h : p.Mild pattern) : Keeps pattern level (finish p) := by
  unfold finish
  refine triple_get_bind fun s hs => ?_
  split
  · -- flags for two alphabets were set, each by a letter of the text
    next hflags =>
    rw [Bool.and_eq_true] at hflags
    refine triple_throw fun _ _ => ⟨hs.setsFlag hflags.1 (by decide) fun c hc => ?_,
      hs.setsFlag hflags.2 (by decide) fun c hc => ?_⟩
    all_goals
      unfold Flag.ofChar? at hc
      split at hc <;> first | rfl | cases hc
  split
  · exact triple_refuse
  split
  · -- a condition on a group that is not there
    exact triple_throw fun _ _ => trivial
  split
  · next fault _ hlate => exact triple_throw fun _ _ => h fault (hlate ▸ List.mem_cons_self)
  · refine triple_pure fun r hr => ?_
    subst hr
    exact ⟨hs, trivial⟩

/-- A reader starts with the whole text ahead, and no flags but those of the caller. -/
theorem fits_start {flags : List Flag} {start : Reading} (hflags : ∀ f ∈ flags, f = .ignoreCase)
    (h : Reading.start flags pattern = .ok start) : Fits pattern 0 [] start := by
  cases htoken : tokenOf pattern 0 with
  | error fault =>
    rw [Reading.start, htoken] at h
    cases h
  | ok token =>
    obtain ⟨next, rest⟩ := token
    rw [Reading.start, htoken] at h
    cases h
    have hahead := text_of_tokenOf htoken
    refine ⟨?_, ?_, fun f hf => .inl (hflags f hf)⟩
    · rw [List.nil_append, Reading.ahead, hahead]
    · rw [Reading.ahead, hahead, Nat.zero_add]

/-- The first token of a text may be refused, and nothing else happens before reading starts. -/
theorem excused_of_start {flags : List Flag} {fault : Fault}
    (h : Reading.start flags pattern = .error fault) : Excused pattern fault := by
  cases htoken : tokenOf pattern 0 with
  | error fault' =>
    rw [Reading.start, htoken] at h
    cases h
    exact excused_of_tokenOf htoken
  | ok token =>
    rw [Reading.start, htoken] at h
    cases h

end Reader

open Reader in
/-- **A fault of a pattern text is a mistake of notation, or the text has what it is about:** a
count that is too large or too long, letters for two alphabets, or many groups. -/
theorem excused_of_parse {ignoreCase : Bool} {pattern : List Char} {fault : Fault}
    (h : parse ignoreCase pattern = .error fault) : Excused pattern fault := by
  have hflags : ∀ f ∈ (if ignoreCase then [Flag.ignoreCase] else []), f = .ignoreCase := by
    cases ignoreCase with
    | false => exact List.forall_mem_nil _
    | true => exact List.forall_mem_singleton.mpr rfl
  unfold parse at h
  dsimp only at h
  -- of the flags that the caller gives only this much matters
  generalize (if ignoreCase then [Flag.ignoreCase] else []) = flags at h hflags
  cases hstart : Reading.start flags pattern with
  | error fault' =>
    rw [hstart] at h
    cases h
    exact excused_of_start hstart
  | ok start =>
    have hread : Keeps pattern 0
        (alternation 0 true (Scope.ofFlags flags) [] (3 * pattern.length + 6) >>= finish) :=
      gives_bind ((readsParts _).alternation (List.forall_mem_nil _)) fun p hp => keeps_finish hp
    rw [hstart] at h
    exact hread.excused_of_map (fits_start hflags hstart) h

end SourceAtlas.Regex
