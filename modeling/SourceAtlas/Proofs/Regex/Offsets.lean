import Mathlib.Logic.Relation
import SourceAtlas.Proofs.Regex.Captures
import SourceAtlas.Proofs.Regex.Literal

/-!
# Where a pattern leads

The ways of a pattern are states, with a place and with captures. For what a pattern can match only
the places matter, and a place of a text is an offset. So a pattern is read here as a relation
between offsets: `Leads r text i j` says that some way of `r` goes from `i` to `j`.

The relation of a sequence is the composition of the relations of its parts. That the second part
may be looked at by itself, as if nothing had been captured before it, is the one point that needs
an argument: it holds for patterns that never ask what a group has matched (`recalls`), because
captures made earlier only lie under those made later (`ways_under`). Behind it, each kind of
pattern has its equivalence, and a repetition is the reflexive and transitive closure of its body.

* `leads_pos_iff` — a pattern that recalls no group leads to the same offsets whatever was captured;
* `leads_cat_cons`, `leads_oneOf`, `leads_star`, `leads_char`, … — one equivalence for each kind,
  where `leads_boundary` and `leads_lineStart` say what a word boundary and the start of a line are
  by the characters on their sides;
* `IsMatch.exists_capture` — what a group in the middle of a sequence has captured, and where the
  parts of the sequence in front of it and behind it lead;
* `Leads.exists_mem_findAll`, `endPos_le_startPos` — the search for all matches, by offsets;
* `exists_end_between` — between a place where a pattern matches and a later match there is a
  character that ends a match.
-/

namespace SourceAtlas.Regex

/-! ### Captures made before do not matter -/

/-- Whether a pattern asks for what a group has matched. -/
def recalls : Regex → Bool
  | .seq first second => recalls first || recalls second
  | .alt first second => recalls first || recalls second
  | .rep _ _ _ body => recalls body
  | .group _ body => recalls body
  | .atomic body => recalls body
  | .ahead _ body => recalls body
  | .behind _ _ body => recalls body
  | .backref .. => true
  | .ifGroup .. => true
  | _ => false

/-- A sequence reads a group back when its head or its tail does. -/
theorem recalls_cat_cons (r : Regex) (rs : List Regex) :
    (cat (r :: rs)).recalls = (r.recalls || (cat rs).recalls) := by
  cases rs with
  | nil => exact (Bool.or_false _).symm
  | cons r' rs => rfl

/-- An alternation of expressions that read no group back reads none back. -/
theorem recalls_oneOf {rs : List Regex} (h : ∀ r ∈ rs, r.recalls = false) :
    (oneOf rs).recalls = false := by
  induction rs with
  | nil => rfl
  | cons r rs ih =>
    obtain ⟨hr, hrs⟩ := List.forall_mem_cons.mp h
    cases rs with
    | nil => exact hr
    | cons r' rs =>
      show (r.recalls || (oneOf (r' :: rs)).recalls) = false
      rw [hr, ih hrs]
      rfl

theorem recalls_text (name : String) : (Regex.text name).recalls = false := by
  unfold Regex.text
  induction name.toList with
  | nil => rfl
  | cons c cs ih =>
    rw [List.map_cons, recalls_cat_cons, ih]
    rfl

/-- A state as it is where something had been captured before. -/
def State.under (base : List (Nat × Capture)) (s : State) : State :=
  { s with captures := s.captures ++ base }

@[simp] theorem State.cursor_under (base : List (Nat × Capture)) (s : State) :
    (s.under base).cursor = s.cursor := rfl

/-- Ways that carry along what was captured before them. -/
def Carries (w : State → List State) : Prop :=
  ∀ base s, w (s.under base) = (w s).map (State.under base)

section Repetitions

variable {w : State → List State} (h : Carries w)

include h

/-- The first way is carried along with the others. -/
theorem Carries.head? (base : List (Nat × Capture)) (s : State) :
    (w (s.under base)).head? = (w s).head?.map (State.under base) := by
  rw [h, List.head?_map]

/-- Greedy rounds of a carried step are carried. -/
theorem Carries.roundsWays (most : Option Nat) : Carries (roundsWays w most) := by
  intro base s
  fun_induction Regex.roundsWays w most s with
  | case1 s =>
    rw [Regex.roundsWays, if_pos rfl]
    rfl
  | case2 most s hmost ih =>
    rw [Regex.roundsWays, if_neg hmost, h, List.map_append, List.flatMap_map, List.map_flatMap]
    congr 2
    funext s'
    -- whether a round has moved on is seen from the places alone
    by_cases hless : s'.cursor.left < s.cursor.left
    · rw [if_pos hless]
      exact (if_pos hless).trans (ih s' hless)
    · rw [if_neg hless]
      exact if_neg hless

theorem Carries.roundsFewWays (most : Option Nat) : Carries (roundsFewWays w most) := by
  intro base s
  fun_induction Regex.roundsFewWays w most s with
  | case1 most s ih =>
    rw [Regex.roundsFewWays, List.map_cons]
    congr 1
    by_cases hmost : most = some 0
    · rw [if_pos hmost, if_pos hmost]
      rfl
    · rw [if_neg hmost, if_neg hmost, h, List.flatMap_map, List.map_flatMap]
      congr 1
      funext s'
      by_cases hless : s'.cursor.left < s.cursor.left
      · rw [if_pos hless]
        exact (if_pos hless).trans (ih s' hless)
      · rw [if_neg hless]
        exact if_neg hless

theorem Carries.roundsAllWay (most : Option Nat) (base : List (Nat × Capture)) (s : State) :
    roundsAllWay w most (s.under base) = (roundsAllWay w most s).under base := by
  fun_induction Regex.roundsAllWay w most s with
  | case1 s => rw [Regex.roundsAllWay, if_pos rfl]
  | case2 most s hmost hnone =>
    rw [Regex.roundsAllWay, if_neg hmost, h.head?, hnone]
    rfl
  | case3 most s hmost s' hsome hless ih =>
    rw [Regex.roundsAllWay, if_neg hmost, h.head?, hsome]
    exact (if_pos hless).trans ih
  | case4 most s hmost s' hsome hless =>
    rw [Regex.roundsAllWay, if_neg hmost, h.head?, hsome]
    exact if_neg hless

/-- The rounds a repetition must make are carried. -/
theorem Carries.requiredWays (least : Nat) : Carries (requiredWays w least) := by
  intro base s
  induction least generalizing s with
  | zero => rfl
  | succ n ih =>
    rw [Regex.requiredWays, Regex.requiredWays, h, List.flatMap_map, List.map_flatMap]
    congr 1
    funext s'
    exact ih s'

theorem Carries.requiredAllWay (least : Nat) (base : List (Nat × Capture)) (s : State) :
    requiredAllWay w least (s.under base) = (requiredAllWay w least s).map (State.under base) := by
  induction least generalizing s with
  | zero => rfl
  | succ n ih =>
    rw [Regex.requiredAllWay, Regex.requiredAllWay, h.head?]
    cases (w s).head? with
    | none => rfl
    | some s' => exact ih s'

/-- A repetition of a carried step is carried, whichever way it takes its rounds. -/
theorem Carries.repeatedWays (mode : Greed) (least : Nat) (most : Option Nat) :
    Carries (repeatedWays w mode least most) := by
  intro base s
  -- the required rounds first, then the optional ones of the mode
  cases mode with
  | greedy =>
    simp only [Regex.repeatedWays]
    rw [h.requiredWays, List.flatMap_map, List.map_flatMap]
    congr 1
    funext s'
    exact h.roundsWays _ base s'
  | reluctant =>
    simp only [Regex.repeatedWays]
    rw [h.requiredWays, List.flatMap_map, List.map_flatMap]
    congr 1
    funext s'
    exact h.roundsFewWays _ base s'
  | possessive =>
    simp only [Regex.repeatedWays]
    rw [h.requiredAllWay]
    cases Regex.requiredAllWay w least s with
    | none => rfl
    | some s' => exact congrArg (fun t => [t]) (h.roundsAllWay _ base s')

end Repetitions

/-- A look around keeps the captures that were there before, on success and on failure. -/
theorem lookWays_under (positive : Bool) (base : List (Nat × Capture)) (s : State)
    (found : Option State) :
    lookWays positive (s.under base) (found.map (State.under base)) =
      (lookWays positive s found).map (State.under base) := by
  cases found with
  | none => cases positive <;> rfl
  | some s' => cases positive <;> rfl

/-- **Captures made before a pattern lie under those it makes,** and change nothing else, if it asks
for none. -/
theorem ways_under {r : Regex} (hr : r.recalls = false) : Carries (ways r) := by
  -- each constructor passes the captures on; only the two that read them back are excluded
  induction r with
  | empty =>
    intro base s
    rfl
  | char test =>
    intro base s
    simp only [ways, State.cursor_under]
    cases s.cursor.next? with
    | none => rfl
    | some read =>
      obtain ⟨ch, c⟩ := read
      by_cases htest : test ch = true
      · simp only [if_pos htest]
        rfl
      · simp only [if_neg htest]
        rfl
  | seq first second ih₁ ih₂ =>
    intro base s
    obtain ⟨h₁, h₂⟩ := Bool.or_eq_false_iff.mp hr
    simp only [ways]
    rw [ih₁ h₁, List.flatMap_map, List.map_flatMap]
    congr 1
    funext s'
    exact ih₂ h₂ base s'
  | alt first second ih₁ ih₂ =>
    intro base s
    obtain ⟨h₁, h₂⟩ := Bool.or_eq_false_iff.mp hr
    simp only [ways]
    rw [ih₁ h₁, ih₂ h₂, List.map_append]
  | rep mode least most body ih =>
    exact Carries.repeatedWays (ih hr) mode least most
  | group index body ih =>
    intro base s
    simp only [ways]
    rw [ih hr, List.map_map, List.map_map]
    rfl
  | atomic body ih =>
    intro base s
    simp only [ways]
    rw [(ih hr : Carries _).head?]
    cases (ways body s).head? with
    | none => rfl
    | some s' => rfl
  | ahead positive body ih =>
    intro base s
    simp only [ways]
    rw [(ih hr : Carries _).head?, lookWays_under]
  | behind positive width body ih =>
    intro base s
    simp only [ways, State.cursor_under]
    rw [← lookWays_under]
    congr 1
    cases s.cursor.back? width with
    | none => rfl
    | some c => exact (ih hr : Carries _).head? base (s.moveTo c)
  | backref index same => cases hr
  | ifGroup index yes no => cases hr
  | anchor test =>
    intro base s
    simp only [ways]
    by_cases htest : s.cursor.satisfies test = true
    · rw [if_pos htest]
      exact if_pos htest
    · rw [if_neg htest]
      exact if_neg htest

/-! ### Offsets -/

/-- The place at an offset of a text. -/
def Cursor.ofOffset (text : List Char) (i : Nat) : Cursor :=
  ⟨(text.take i).reverse, text.drop i, i, (text.drop i).length⟩

variable {text : List Char} {i j k : Nat}

theorem Cursor.isIn_ofOffset (hi : i ≤ text.length) : (Cursor.ofOffset text i).IsIn text where
  split := by rw [ofOffset, List.reverse_reverse, List.take_append_drop]
  pos := by rw [ofOffset, List.length_reverse, List.length_take, Nat.min_eq_left hi]
  left := rfl

/-- A cursor in a text is determined by its offset. -/
theorem Cursor.IsIn.eq_ofOffset {c : Cursor} (h : c.IsIn text) : c = .ofOffset text c.pos :=
  h.eq_of_pos (isIn_ofOffset h.pos_le) rfl

/-- **A pattern leads from one offset of a text to another:** one of its ways from the first ends at
the second. -/
def Leads (r : Regex) (text : List Char) (i j : Nat) : Prop :=
  i ≤ text.length ∧ ∃ s ∈ ways r ⟨.ofOffset text i, []⟩, s.cursor.pos = j

section Leads

variable {r first second : Regex} {rs : List Regex}

/-- A way starts within the text. -/
theorem Leads.le_length (h : Leads r text i j) : i ≤ text.length :=
  h.1

/-- A way never goes back. -/
theorem Leads.le (h : Leads r text i j) : i ≤ j := by
  obtain ⟨-, s, hs, rfl⟩ := h
  exact pos_le_of_mem_ways hs

theorem Leads.end_le_length (h : Leads r text i j) : j ≤ text.length := by
  obtain ⟨hi, s, hs, rfl⟩ := h
  have hin : s.cursor.IsIn text := isIn_of_mem_ways (s := ⟨.ofOffset text i, []⟩)
    (Cursor.isIn_ofOffset hi) hs
  exact hin.pos_le

/-- **What was captured before has no say in where a pattern leads.** -/
theorem leads_pos_iff (hr : r.recalls = false) {s : State} (hs : s.cursor.IsIn text) :
    Leads r text s.cursor.pos j ↔ ∃ s' ∈ ways r s, s'.cursor.pos = j := by
  -- the state is one without captures, under its own
  have hstate : s = (⟨.ofOffset text s.cursor.pos, []⟩ : State).under s.captures := by
    rw [← hs.eq_ofOffset]
    rfl
  have hways : ways r s =
      (ways r ⟨.ofOffset text s.cursor.pos, []⟩).map (State.under s.captures) := by
    conv_lhs => rw [hstate]
    exact ways_under hr _ _
  rw [hways]
  constructor
  · rintro ⟨-, s', hs', hj⟩
    exact ⟨s'.under s.captures, List.mem_map_of_mem hs', hj⟩
  · rintro ⟨s', hs', hj⟩
    obtain ⟨s₀, hs₀, rfl⟩ := List.mem_map.mp hs'
    exact ⟨hs.pos_le, s₀, hs₀, hj⟩

/-! ### One equivalence for each kind of pattern -/

/-- The empty expression leads from an offset to itself. -/
theorem leads_empty : Leads .empty text i j ↔ i ≤ text.length ∧ j = i := by
  unfold Leads
  simp only [ways, List.mem_singleton, exists_eq_left]
  exact and_congr_right fun _ => eq_comm

/-- A character class leads over one character that passes its test. -/
theorem leads_char {test : Char → Bool} :
    Leads (.char test) text i j ↔ j = i + 1 ∧ text[i]?.any test = true := by
  unfold Leads
  -- a character is left to be read, or none is
  rcases Nat.lt_or_ge i text.length with hi | hi
  · have hdrop : text.drop i = text[i] :: text.drop (i + 1) := List.drop_eq_getElem_cons hi
    have hways : ways (.char test) ⟨.ofOffset text i, []⟩ =
        if test text[i] then
          [⟨⟨text[i] :: (text.take i).reverse, text.drop (i + 1), i + 1,
            (text.drop i).length - 1⟩, []⟩]
        else [] := by
      simp only [ways, Cursor.ofOffset, Cursor.next?, hdrop]
      rfl
    rw [hways, List.getElem?_eq_getElem hi, Option.any_some]
    by_cases htest : test text[i] = true
    · rw [if_pos htest]
      simp only [List.mem_singleton, exists_eq_left]
      exact ⟨fun h => ⟨h.2.symm, htest⟩, fun h => ⟨Nat.le_of_lt hi, h.1.symm⟩⟩
    · simp [htest]
  · have hdrop : text.drop i = [] := List.drop_eq_nil_of_le hi
    have hways : ways (.char test) ⟨.ofOffset text i, []⟩ = [] := by
      simp only [ways, Cursor.ofOffset, Cursor.next?, hdrop]
    rw [hways, List.getElem?_eq_none hi]
    simp

theorem leads_lit {c : Char} : Leads (lit c) text i j ↔ j = i + 1 ∧ text[i]? = some c := by
  rw [lit, leads_char, Option.any_eq_true]
  simp

/-- An anchor leads from an offset to itself, where it is satisfied. -/
theorem leads_anchor {test : Anchor} :
    Leads (.anchor test) text i j ↔
      i ≤ text.length ∧ j = i ∧ (Cursor.ofOffset text i).satisfies test = true := by
  unfold Leads
  refine and_congr_right fun _ => ?_
  constructor
  · rintro ⟨s, hs, rfl⟩
    obtain ⟨rfl, htest⟩ := mem_ways_anchor_iff.mp hs
    exact ⟨rfl, htest⟩
  · rintro ⟨rfl, htest⟩
    exact ⟨_, mem_ways_anchor_iff.mpr ⟨rfl, htest⟩, rfl⟩

/-- A word boundary of a text: a character of words stands on just one side. -/
def AtWordBoundary (text : List Char) (i : Nat) : Prop :=
  ¬((0 < i ∧ text[i - 1]?.any Text.isWord = true) ↔ text[i]?.any Text.isWord = true)

/-- A word boundary, in terms of the characters on its two sides. -/
theorem leads_boundary :
    Leads boundary text i j ↔ i ≤ text.length ∧ j = i ∧ AtWordBoundary text i := by
  unfold boundary AtWordBoundary
  rw [leads_anchor]
  refine and_congr_right fun hi => and_congr_right fun _ => ?_
  -- at the start of the text there is no character before, which counts as no word character
  have hbefore : (text.take i).reverse.head?.any Text.isWord = true ↔
      0 < i ∧ text[i - 1]?.any Text.isWord = true := by
    rw [List.head?_reverse, List.getLast?_eq_getElem?, List.length_take, Nat.min_eq_left hi,
      List.getElem?_take]
    rcases Nat.eq_zero_or_pos i with rfl | hpos
    · simp
    · rw [if_pos (by omega)]
      exact (and_iff_right hpos).symm
  have hafter : (text.drop i).head?.any Text.isWord = text[i]?.any Text.isWord := by
    rw [List.head?_drop]
  show ((text.take i).reverse.head?.any Text.isWord !=
    (text.drop i).head?.any Text.isWord) = true ↔ _
  rw [hafter, ← hbefore, bne_iff_ne, Ne, Bool.eq_iff_iff]

/-- The start of a line of a text. -/
def AtLineStart (text : List Char) (i : Nat) : Prop :=
  i = 0 ∨ text[i - 1]? = some '\n'

/-- The start of a line, in terms of the character before it. -/
theorem leads_lineStart :
    Leads (.anchor .lineStart) text i j ↔ i ≤ text.length ∧ j = i ∧ AtLineStart text i := by
  rw [leads_anchor]
  refine and_congr_right fun hi => and_congr_right fun _ => ?_
  show ((text.take i).reverse.isEmpty || (text.take i).reverse.head? == some '\n') = true ↔ _
  rcases Nat.eq_zero_or_pos i with rfl | hpos
  · exact iff_of_true rfl (.inl rfl)
  · have hlength : (text.take i).length = i := List.length_take_of_le hi
    have hnonempty : (text.take i).reverse.isEmpty = false := by
      rw [List.isEmpty_eq_false_iff, Ne, List.reverse_eq_nil_iff, ← List.length_eq_zero_iff,
        hlength]
      exact Nat.ne_of_gt hpos
    have hbefore : (text.take i).reverse.head? = text[i - 1]? := by
      rw [List.head?_reverse, List.getLast?_eq_getElem?, hlength, List.getElem?_take,
        if_pos (Nat.sub_one_lt_of_lt hpos)]
    rw [hnonempty, Bool.false_or, hbefore, beq_iff_eq, AtLineStart,
      or_iff_right (Nat.ne_of_gt hpos)]

theorem leads_group {index : Nat} : Leads (.group index r) text i j ↔ Leads r text i j := by
  unfold Leads
  refine and_congr_right fun _ => ?_
  simp only [ways, List.mem_map, exists_exists_and_eq_and]
  rfl

/-- An alternation leads where either side does. -/
theorem leads_alt :
    Leads (.alt first second) text i j ↔ Leads first text i j ∨ Leads second text i j := by
  unfold Leads
  simp only [ways, List.mem_append, or_and_right, exists_or, and_or_left]

/-- Of several patterns, one leads on. -/
theorem leads_oneOf : Leads (oneOf rs) text i j ↔ ∃ r ∈ rs, Leads r text i j := by
  induction rs with
  | nil =>
    rw [oneOf, leads_char]
    simp
  | cons r rs ih =>
    cases rs with
    | nil => simp [oneOf]
    | cons r' rs =>
      rw [oneOf, leads_alt, ih]
      · simp
      · exact List.cons_ne_nil _ _

/-- **A sequence leads where its first pattern leads and the second goes on.** -/
theorem leads_seq (hr : second.recalls = false) :
    Leads (.seq first second) text i j ↔
      ∃ k, Leads first text i k ∧ Leads second text k j := by
  constructor
  · rintro ⟨hi, s', hs', rfl⟩
    obtain ⟨s₁, hs₁, hs'⟩ := List.mem_flatMap.mp hs'
    have hin : s₁.cursor.IsIn text := isIn_of_mem_ways (s := ⟨.ofOffset text i, []⟩)
      (Cursor.isIn_ofOffset hi) hs₁
    exact ⟨s₁.cursor.pos, ⟨hi, s₁, hs₁, rfl⟩, (leads_pos_iff hr hin).mpr ⟨s', hs', rfl⟩⟩
  · rintro ⟨k, ⟨hi, s₁, hs₁, rfl⟩, hsecond⟩
    have hin : s₁.cursor.IsIn text := isIn_of_mem_ways (s := ⟨.ofOffset text i, []⟩)
      (Cursor.isIn_ofOffset hi) hs₁
    obtain ⟨s', hs', hj⟩ := (leads_pos_iff hr hin).mp hsecond
    exact ⟨hi, s', List.mem_flatMap.mpr ⟨s₁, hs₁, hs'⟩, hj⟩

/-- A sequence leads through an offset between its head and its tail, as long as the tail reads no
group back. -/
theorem leads_cat_cons (hr : (cat rs).recalls = false) :
    Leads (cat (r :: rs)) text i j ↔ ∃ k, Leads r text i k ∧ Leads (cat rs) text k j := by
  rw [← leads_seq hr]
  unfold Leads
  rw [ways_cat_cons]
  rfl

/-- **A look ahead stays where it is,** and passes just where its body leads on, or leads
nowhere. -/
theorem leads_ahead {positive : Bool} :
    Leads (.ahead positive r) text i j ↔
      i ≤ text.length ∧ j = i ∧ ((∃ k, Leads r text i k) ↔ positive = true) := by
  unfold Leads
  refine and_congr_right fun hi => ?_
  have hbody : (∃ k, i ≤ text.length ∧ ∃ s ∈ ways r ⟨.ofOffset text i, []⟩, s.cursor.pos = k) ↔
      ways r ⟨.ofOffset text i, []⟩ ≠ [] := by
    constructor
    · rintro ⟨-, -, s, hs, -⟩
      exact List.ne_nil_of_mem hs
    · intro hne
      obtain ⟨s, hs⟩ := List.exists_mem_of_ne_nil _ hne
      exact ⟨_, hi, s, hs, rfl⟩
  rw [hbody, ways]
  cases ways r ⟨.ofOffset text i, []⟩ with
  | nil => cases positive <;> simp [lookWays, Cursor.ofOffset, eq_comm]
  | cons s rest => cases positive <;> simp [lookWays, State.moveTo, Cursor.ofOffset, eq_comm]

/-- A term leads from where it stands to its end. -/
theorem leads_literal {same : Char → Char → Bool} {term : List Char} :
    Leads (literal same term) text i j ↔
      i ≤ text.length ∧ j = i + term.length ∧ OccursAt same term text i := by
  unfold Leads
  refine and_congr_right fun hi => ?_
  have hin : (Cursor.ofOffset text i).IsIn text := Cursor.isIn_ofOffset hi
  have hoccurs : OccursAt same term text i ↔
      ((Cursor.ofOffset text i).read? same term).isSome = true := by
    rw [Cursor.isSome_read?_iff]
    rfl
  rw [ways_literal, hoccurs]
  cases hread : (Cursor.ofOffset text i).read? same term with
  | none => simp
  | some c =>
    have hpos : c.pos = i + term.length := Cursor.pos_read? hread
    simp [State.moveTo, hpos, eq_comm]

/-- A text leads from where it stands to its end. -/
theorem leads_text {name : String} : Leads (Regex.text name) text i j ↔
    i ≤ text.length ∧ j = i + name.length ∧ name.toList <+: text.drop i := by
  have hliteral : Regex.text name = literal asIs name.toList := rfl
  rw [hliteral, leads_literal, occursAt_asIs_iff, String.length_toList]

/-! ### Repetitions -/

theorem ways_star (r : Regex) (s : State) : ways (star r) s = roundsWays (ways r) none s :=
  List.flatMap_singleton ..

/-- Making no further round is always one of the ways. -/
theorem mem_roundsWays_self (w : State → List State) (most : Option Nat) (s : State) :
    s ∈ roundsWays w most s := by
  rw [roundsWays]
  split
  · exact List.mem_singleton_self s
  · exact List.mem_append_right _ (List.mem_singleton_self s)

/-- **A repetition leads wherever rounds of its body lead,** one after the other. -/
theorem leads_star (hr : r.recalls = false) :
    Leads (star r) text i j ↔
      i ≤ text.length ∧ Relation.ReflTransGen (Leads r text) i j := by
  constructor
  · rintro ⟨hi, s', hs', rfl⟩
    rw [ways_star] at hs'
    -- every round keeps to the text and leads on from where the last one ended
    have hrounds := roundsWays_induction (w := ways r)
      (R := fun s s' => s.cursor.IsIn text →
        s'.cursor.IsIn text ∧ Relation.ReflTransGen (Leads r text) s.cursor.pos s'.cursor.pos)
      (fun s hs => ⟨hs, .refl⟩)
      (fun hab hbc ha => ⟨(hbc (hab ha).1).1, (hab ha).2.trans (hbc (hab ha).1).2⟩)
      (fun s s' hs' hs => ⟨isIn_of_mem_ways hs hs',
        .single ((leads_pos_iff hr hs).mpr ⟨s', hs', rfl⟩)⟩)
      none _ s' hs'
    exact ⟨hi, (hrounds (Cursor.isIn_ofOffset hi)).2⟩
  · rintro ⟨hi, hrounds⟩
    induction hrounds using Relation.ReflTransGen.head_induction_on with
    | refl =>
      refine ⟨hi, ⟨.ofOffset text j, []⟩, ?_, rfl⟩
      rw [ways_star]
      exact mem_roundsWays_self _ _ _
    | @head i k hround _ ih =>
      have hrest : Leads (star r) text k j := ih hround.end_le_length
      obtain ⟨-, s₁, hs₁, rfl⟩ := hround
      have hin : s₁.cursor.IsIn text := isIn_of_mem_ways (s := ⟨.ofOffset text i, []⟩)
        (Cursor.isIn_ofOffset hi) hs₁
      have hstar : (star r).recalls = false := hr
      rcases Nat.eq_or_lt_of_le (pos_le_of_mem_ways hs₁) with heq | hlt
      · -- a round that read nothing can be left out
        have hsame : s₁.cursor.pos = i := heq.symm
        rwa [hsame] at hrest
      · obtain ⟨s', hs', hj⟩ := (leads_pos_iff hstar hin).mp hrest
        rw [ways_star] at hs'
        have hless : s₁.cursor.left < (Cursor.ofOffset text i).left := by
          have hend := hin.pos_le
          have hfrom : i < s₁.cursor.pos := hlt
          have hleft : s₁.cursor.left = text.length - s₁.cursor.pos := by
            rw [hin.left, ← hin.drop_pos, List.length_drop]
          have hstart : (Cursor.ofOffset text i).left = text.length - i := List.length_drop
          omega
        refine ⟨hi, s', ?_, hj⟩
        rw [ways_star, roundsWays, if_neg (Option.some_ne_none 0).symm]
        refine List.mem_append_left _ (List.mem_flatMap.mpr ⟨s₁, hs₁, ?_⟩)
        rw [if_pos hless]
        exact hs'

/-- Every character from one offset to another passes a test. -/
def Covered (test : Char → Bool) (text : List Char) (i j : Nat) : Prop :=
  ∀ k, i ≤ k → k < j → text[k]?.any test = true

instance (test : Char → Bool) (text : List Char) (i j : Nat) : Decidable (Covered test text i j) :=
  decidable_of_iff (∀ k < j, i ≤ k → text[k]?.any test = true)
    ⟨fun h k hk hlt => h k hlt hk, fun h k hlt hk => h k hk hlt⟩

/-- **Behind an offset, the first character that fails a test** stands at one place. -/
theorem eq_of_covered_of_not {test : Char → Bool} (hij : i ≤ j) (hik : i ≤ k)
    (hj : Covered test text i j) (hk : Covered test text i k) (hnotj : text[j]?.any test = false)
    (hnotk : text[k]?.any test = false) : j = k := by
  rcases Nat.lt_trichotomy j k with hlt | heq | hgt
  · have hinside := hk j hij hlt
    rw [hnotj] at hinside
    cases hinside
  · exact heq
  · have hinside := hj k hik hgt
    rw [hnotk] at hinside
    cases hinside

theorem lt_length_of_any {test : Char → Bool} (h : text[k]?.any test = true) : k < text.length := by
  obtain ⟨ch, hch, -⟩ := (Option.any_eq_true _ _).mp h
  exact (List.getElem?_eq_some_iff.mp hch).1

/-- **A repetition of a test** leads as far as the characters pass it. -/
theorem leads_star_char {test : Char → Bool} :
    Leads (star (.char test)) text i j ↔
      i ≤ j ∧ j ≤ text.length ∧ Covered test text i j := by
  rw [leads_star rfl]
  constructor
  · rintro ⟨hi, hrounds⟩
    induction hrounds with
    | refl => exact ⟨Nat.le_refl i, hi, fun k hk hk' => absurd hk' (Nat.not_lt_of_le hk)⟩
    | @tail k j _ hround ih =>
      obtain ⟨hle, -, hcovered⟩ := ih
      obtain ⟨rfl, hnext⟩ := leads_char.mp hround
      refine ⟨Nat.le_succ_of_le hle, lt_length_of_any hnext, fun k' hk' hlt => ?_⟩
      rcases Nat.lt_or_eq_of_le (Nat.le_of_lt_succ hlt) with hlt | rfl
      · exact hcovered k' hk' hlt
      · exact hnext
  · rintro ⟨hle, hj, hcovered⟩
    refine ⟨Nat.le_trans hle hj, ?_⟩
    obtain ⟨n, rfl⟩ := Nat.exists_eq_add_of_le hle
    -- one round for each of the characters
    clear hle hj
    induction n with
    | zero => exact .refl
    | succ n ih =>
      have hfront : Covered test text i (i + n) := fun k hk hlt => hcovered k hk (by omega)
      exact (ih hfront).tail (leads_char.mpr ⟨rfl, hcovered (i + n) (by omega) (by omega)⟩)

/-- An optional expression is tried first and left out last. -/
theorem ways_opt (r : Regex) (s : State) : ways (opt r) s = ways r s ++ [s] := by
  have hrounds : ways (opt r) s = roundsWays (ways r) (some 1) s := List.flatMap_singleton ..
  have hone : ∀ s' : State, roundsWays (ways r) (some 0) s' = [s'] := by
    intro s'
    rw [roundsWays, if_pos rfl]
  rw [hrounds, roundsWays, if_neg (by decide)]
  congr 1
  -- after one round there is no other
  have hlast : ∀ s' : State, (if s'.cursor.left < s.cursor.left
      then roundsWays (ways r) (oneLess (some 1)) s' else [s']) = [s'] := by
    intro s'
    split
    · exact hone s'
    · rfl
  simp only [hlast]
  exact List.flatMap_singleton' _

/-- An optional expression leads where its contents do, or nowhere. -/
theorem leads_opt :
    Leads (opt r) text i j ↔ Leads r text i j ∨ i ≤ text.length ∧ j = i := by
  unfold Leads
  simp only [ways_opt, List.mem_append, List.mem_singleton, or_and_right, exists_or, exists_eq_left,
    and_or_left]
  exact or_congr_right (and_congr_right fun _ => eq_comm)

/-- One round or more is one round and then a star. -/
theorem ways_plus (r : Regex) (s : State) : ways (plus r) s = ways (.seq r (star r)) s := by
  have hfirst : requiredWays (ways r) 1 s = ways r s := List.flatMap_singleton' _
  have hrounds : ways (plus r) s =
      (requiredWays (ways r) 1 s).flatMap (roundsWays (ways r) none) := rfl
  rw [hrounds, hfirst, ways]
  congr 1
  funext s'
  exact (ways_star r s').symm

/-- One round or more leads through the end of the first round. -/
theorem leads_plus (hr : r.recalls = false) :
    Leads (plus r) text i j ↔ ∃ k, Leads r text i k ∧ Leads (star r) text k j := by
  have hstar : (star r).recalls = false := hr
  rw [← leads_seq hstar]
  unfold Leads
  rw [ways_plus]

/-- A sequence can be cut anywhere, as long as its second part reads no group back. -/
theorem leads_cat_append {rs' : List Regex} (hr : (cat rs').recalls = false) :
    Leads (cat (rs ++ rs')) text i j ↔ ∃ k, Leads (cat rs) text i k ∧ Leads (cat rs') text k j := by
  rw [← leads_seq hr]
  unfold Leads
  rw [ways_cat_append]
  rfl

end Leads

/-! ### Matches -/

section Matches

variable {r : Regex} {m m' : Match}

/-- A match runs from its start to its end by a way of the expression. -/
theorem IsMatch.leads (h : IsMatch r text m) : Leads r text m.startPos m.endPos := by
  refine ⟨h.start.pos_le, m.final, ?_, rfl⟩
  rw [Match.startPos, ← h.start.eq_ofOffset]
  exact h.final

/-- The text of a match is the stretch between its two offsets. -/
theorem IsMatch.text_eq (h : IsMatch r text m) : m.text = text.extract m.startPos m.endPos := by
  rw [Match.text, Cursor.textTo, ← h.start.drop_pos]
  rfl

/-- Matching a whole text is leading from its start to its end. -/
theorem matchesWhole_iff : r.matchesWhole text = true ↔ Leads r text 0 text.length := by
  rw [matchesWhole, isSome_matchAt_iff]
  have hstart : Cursor.start text = .ofOffset text 0 := rfl
  rw [hstart, Leads, and_iff_right (Nat.zero_le _)]
  refine exists_congr fun s => and_congr_right fun hs => ?_
  have hin : s.cursor.IsIn text := isIn_of_mem_ways (s := ⟨.ofOffset text 0, []⟩)
    (Cursor.isIn_ofOffset (Nat.zero_le _)) hs
  rw [List.isEmpty_iff, ← hin.drop_pos, List.drop_eq_nil_iff]
  exact ⟨fun h => Nat.le_antisymm hin.pos_le h, Nat.le_of_eq ∘ Eq.symm⟩

theorem group?_of_capture {g : Nat} {c : Capture} (hg : g ≠ 0) (h : m.final.capture? g = some c) :
    m.group? g = some c.text := by
  rw [Match.group?, h]
  · rfl
  · exact hg

/-- **A group in the middle of a sequence** has captured what its body led over, if no later group
has its number. -/
theorem IsMatch.exists_capture {front rest : List Regex} {g : Nat} {body : Regex}
    (h : IsMatch (cat (front ++ .group g body :: rest)) text m) (hbody : body.recalls = false)
    (hrest : (cat rest).recalls = false) (hlater : bodies g (cat rest) = []) :
    ∃ i j, Leads (cat front) text m.startPos i ∧ Leads body text i j ∧
      Leads (cat rest) text j m.endPos ∧
      m.final.capture? g = some ⟨.ofOffset text i, .ofOffset text j⟩ := by
  have hfinal := h.final
  rw [ways_cat_append] at hfinal
  obtain ⟨s₁, hs₁, hfinal⟩ := List.mem_flatMap.mp hfinal
  rw [ways_cat_cons] at hfinal
  obtain ⟨s₂, hs₂, hfinal⟩ := List.mem_flatMap.mp hfinal
  obtain ⟨s₀, hs₀, rfl⟩ := List.mem_map.mp hs₂
  have hin₁ : s₁.cursor.IsIn text := isIn_of_mem_ways (s := ⟨m.start, []⟩) h.start hs₁
  have hin₀ : s₀.cursor.IsIn text := isIn_of_mem_ways hin₁ hs₀
  refine ⟨s₁.cursor.pos, s₀.cursor.pos, ?_, ?_, ?_, ?_⟩
  · refine ⟨h.start.pos_le, s₁, ?_, rfl⟩
    rw [Match.startPos, ← h.start.eq_ofOffset]
    exact hs₁
  · exact (leads_pos_iff hbody hin₁).mpr ⟨s₀, hs₀, rfl⟩
  · exact (leads_pos_iff hrest (s := s₀.remember g ⟨s₁.cursor, s₀.cursor⟩) hin₀).mpr
      ⟨m.final, hfinal, rfl⟩
  · -- what the rest captures lies over the capture of the group, and has other numbers
    have hstate : s₀.remember g ⟨s₁.cursor, s₀.cursor⟩ =
        (⟨s₀.cursor, []⟩ : State).under ((g, ⟨s₁.cursor, s₀.cursor⟩) :: s₀.captures) := rfl
    rw [hstate, ways_under hrest] at hfinal
    obtain ⟨s₃, hs₃, hm⟩ := List.mem_map.mp hfinal
    have hnone : s₃.captures.lookup g = none := by
      refine List.lookup_eq_none_iff.mpr fun x hx => ?_
      obtain ⟨n, c⟩ := x
      by_contra hne
      obtain rfl : g = n := by simpa using hne
      rcases captured_of_mem_ways hs₃ c hx with hbefore | ⟨body', hmem, -⟩
      · cases hbefore
      · rw [hlater] at hmem
        cases hmem
    rw [← hin₁.eq_ofOffset, ← hin₀.eq_ofOffset, ← hm, State.capture?, State.under,
      List.lookup_append, hnone, Option.none_or, List.lookup_cons_self]

/-! ### All matches in a text -/

/-- Each match of a scan runs by a way of the expression. -/
theorem leads_of_mem_findAll (hm : m ∈ r.findAll text) : Leads r text m.startPos m.endPos :=
  (isMatch_of_mem_findAll hm).leads

/-- No offset where the pattern matches is left out: a match starts there, or one is being
passed. -/
theorem Leads.exists_mem_findAll (h : Leads r text i j) :
    ∃ m ∈ r.findAll text, m.startPos ≤ i ∧ (i < m.endPos ∨ m.startPos = i) := by
  obtain ⟨hi, s, hs, -⟩ := h
  exact Regex.exists_mem_findAll (Cursor.isIn_ofOffset hi) (List.ne_nil_of_mem hs)

/-- Of two matches, the left one ends before the right one starts. -/
theorem endPos_le_startPos (hm : m ∈ r.findAll text) (hm' : m' ∈ r.findAll text)
    (hlt : m.startPos < m'.startPos) : m.endPos ≤ m'.startPos := by
  obtain ⟨a, ha, rfl⟩ := List.getElem_of_mem hm
  obtain ⟨b, hb, rfl⟩ := List.getElem_of_mem hm'
  have hpairs := List.pairwise_iff_getElem.mp (pairwise_findAll r text)
  rcases Nat.lt_trichotomy a b with hab | rfl | hba
  · exact hpairs a b ha hb hab
  · exact absurd hlt (Nat.lt_irrefl _)
  · -- in the list they would stand the other way round, but then so they would in the text
    have hle := hpairs b a hb ha hba
    have hforward := (isMatch_of_mem_findAll hm').startPos_le_endPos
    omega

/-- **In front of a match, the pattern matches only before the end of an earlier match.** So if all
of its matches end with one character, that character stands between. -/
theorem exists_end_between {c : Char}
    (hends : ∀ {i j}, Leads r text i j → i < j ∧ text[j - 1]? = some c)
    (hm : m ∈ r.findAll text) (h : Leads r text i j) (hi : i < m.startPos) :
    ∃ k, i ≤ k ∧ k < m.startPos ∧ text[k]? = some c := by
  obtain ⟨m', hm', hle, hspan⟩ := h.exists_mem_findAll
  obtain ⟨hnonempty, hend⟩ := hends (leads_of_mem_findAll hm')
  have hbefore : m'.endPos ≤ m.startPos := endPos_le_startPos hm' hm (by omega)
  exact ⟨m'.endPos - 1, by omega, by omega, hend⟩

end Matches

end SourceAtlas.Regex
