import SourceAtlas.Regex.Match

/-!
# The ways in which a pattern matches

Backtracking search hands its ways of matching to a continuation, one after the other, until one is
accepted. So a pattern at a state is nothing but the list of the states it can lead to, in order of
preference, and running it is looking for the first of them that the continuation accepts. The list
is defined here by recursion on the pattern, and everything that is shown about matches later is
shown about its members.

* `ways` — the states that a pattern leads to, best first;
* `run_eq_findSome?` — running a pattern is searching its ways;
* `ways_induction` — what the single steps of a match pass on, every way passes on;
* `isIn_of_mem_ways` — matching never leaves the text;
* `isMatch_of_search`, `isMatch_of_mem_findAll` — what a search finds starts in the text and ends as
  one of the ways from there.
-/

namespace SourceAtlas.Regex

/-! ### Lists of ways -/

/-- The first of the results that come from one list after the other. -/
theorem findSome?_flatMap {α β γ : Type} (as : List α) (f : α → List β) (k : β → Option γ) :
    (as.flatMap f).findSome? k = as.findSome? fun a => (f a).findSome? k := by
  induction as with
  | nil => rfl
  | cons a as ih =>
    rw [List.flatMap_cons, List.findSome?_append, ih, List.findSome?_cons]
    cases (f a).findSome? k with
    | none => rfl
    | some b => rfl

theorem findSome?_some {α : Type} (as : List α) : as.findSome? some = as.head? := by
  cases as with
  | nil => rfl
  | cons a as => rfl

/-- The ways of going on for further rounds, as many as possible first. -/
def roundsWays (body : State → List State) (most : Option Nat) (s : State) : List State :=
  if most = some 0 then [s]
  else
    ((body s).flatMap fun s' =>
      if s'.cursor.left < s.cursor.left then roundsWays body (oneLess most) s' else [s']) ++ [s]
termination_by s.cursor.left

/-- The ways of going on for further rounds, as few as possible first. -/
def roundsFewWays (body : State → List State) (most : Option Nat) (s : State) : List State :=
  s ::
    if most = some 0 then []
    else
      (body s).flatMap fun s' =>
        if s'.cursor.left < s.cursor.left then roundsFewWays body (oneLess most) s' else [s']
termination_by s.cursor.left

/-- The one way of going on for good. -/
def roundsAllWay (body : State → List State) (most : Option Nat) (s : State) : State :=
  if most = some 0 then s
  else
    match (body s).head? with
    | none => s
    | some s' => if s'.cursor.left < s.cursor.left then roundsAllWay body (oneLess most) s' else s'
termination_by s.cursor.left

/-- The ways of the required rounds. -/
def requiredWays (body : State → List State) : Nat → State → List State
  | 0, s => [s]
  | n + 1, s => (body s).flatMap (requiredWays body n)

/-- The one way of the required rounds, each in its first way. -/
def requiredAllWay (body : State → List State) : Nat → State → Option State
  | 0, s => some s
  | n + 1, s => (body s).head?.bind (requiredAllWay body n)

/-- The ways of a repetition. -/
def repeatedWays (body : State → List State) (mode : Greed) (least : Nat) (most : Option Nat)
    (s : State) : List State :=
  match mode with
  | .greedy => (requiredWays body least s).flatMap (roundsWays body (beyond least most))
  | .reluctant => (requiredWays body least s).flatMap (roundsFewWays body (beyond least most))
  | .possessive =>
    ((requiredAllWay body least s).map (roundsAllWay body (beyond least most))).toList

/-- What a test of the surroundings lets pass, given the first way of its body. -/
def lookWays (positive : Bool) (s : State) : Option State → List State
  | some s' => if positive then [s'.moveTo s.cursor] else []
  | none => if positive then [] else [s]

/-- **The ways in which a pattern matches** at a state, in order of preference. -/
def ways : Regex → State → List State
  | .empty, s => [s]
  | .char test, s =>
    match s.cursor.next? with
    | some (ch, c) => if test ch then [s.moveTo c] else []
    | none => []
  | .seq first second, s => (ways first s).flatMap (ways second)
  | .alt first second, s => ways first s ++ ways second s
  | .rep mode least most body, s => repeatedWays (ways body) mode least most s
  | .group index body, s => (ways body s).map fun s' => s'.remember index ⟨s.cursor, s'.cursor⟩
  | .atomic body, s => (ways body s).head?.toList
  | .ahead positive body, s => lookWays positive s (ways body s).head?
  | .behind positive width body, s =>
    lookWays positive s ((s.cursor.back? width).bind fun c => (ways body (s.moveTo c)).head?)
  | .backref index same, s =>
    match s.capture? index with
    | some c =>
      match s.cursor.read? same c.text with
      | some c' => [s.moveTo c']
      | none => []
    | none => []
  | .ifGroup index yes no, s =>
    match s.capture? index with
    | some _ => ways yes s
    | none => ways no s
  | .anchor test, s => if s.cursor.satisfies test then [s] else []

/-! ### Running is searching -/

/-- A matcher that searches the ways of a function. -/
def Searches (m : Matcher) (w : State → List State) : Prop :=
  ∀ s k, m s k = (w s).findSome? k

section Repetitions

variable {m : Matcher} {w : State → List State} (h : Searches m w)

include h

/-- The first way is what a search finds that is content with anything. -/
theorem Searches.first (s : State) : m s some = (w s).head? := by
  rw [h, findSome?_some]

/-- Greedy rounds try their ways in order: another round first, and stopping last. -/
theorem Searches.rounds (most : Option Nat) (s : State) (k : Continuation) :
    rounds m most s k = (roundsWays w most s).findSome? k := by
  fun_induction Regex.rounds m most s k with
  | case1 s => rw [roundsWays, if_pos rfl, List.findSome?_singleton]
  | case2 most s hmost ih =>
    rw [roundsWays, if_neg hmost, List.findSome?_append, findSome?_flatMap, h,
      List.findSome?_singleton, Option.orElse_eq_orElse, Option.orElse_eq_or]
    congr 2
    funext s'
    -- a round that read nothing is the last one
    split
    · exact ih s' ‹_›
    · exact List.findSome?_singleton.symm

/-- Lazy rounds try their ways in order: stopping first. -/
theorem Searches.roundsFew (most : Option Nat) (s : State) (k : Continuation) :
    roundsFew m most s k = (roundsFewWays w most s).findSome? k := by
  fun_induction Regex.roundsFew m most s k with
  | case1 most s ih =>
    rw [roundsFewWays, List.findSome?_cons, Option.orElse_eq_orElse, Option.orElse_eq_or]
    -- further rounds are only tried after going on without them has failed
    cases k s with
    | some t => rfl
    | none =>
      rw [Option.none_or]
      by_cases hmost : most = some 0
      · rw [if_pos hmost, if_pos hmost]
        rfl
      · rw [if_neg hmost, if_neg hmost, findSome?_flatMap, h]
        congr 1
        funext s'
        split
        · exact ih s' ‹_›
        · exact List.findSome?_singleton.symm

/-- Possessive rounds take the first way each time and never come back. -/
theorem Searches.roundsAll (most : Option Nat) (s : State) :
    roundsAll m most s = roundsAllWay w most s := by
  fun_induction Regex.roundsAll m most s with
  | case1 s => rw [roundsAllWay, if_pos rfl]
  | case2 most s hmost hnone =>
    rw [h.first] at hnone
    rw [roundsAllWay, if_neg hmost, hnone]
  | case3 most s hmost s' hsome hless ih =>
    rw [h.first] at hsome
    rw [roundsAllWay, if_neg hmost, hsome]
    simp only [if_pos hless]
    exact ih
  | case4 most s hmost s' hsome hless =>
    rw [h.first] at hsome
    rw [roundsAllWay, if_neg hmost, hsome]
    simp only [if_neg hless]

/-- The rounds that have to be made, one after another. -/
theorem Searches.required (least : Nat) (s : State) (k : Continuation) :
    required m least s k = (requiredWays w least s).findSome? k := by
  induction least generalizing s with
  | zero => exact List.findSome?_singleton.symm
  | succ n ih =>
    rw [requiredWays, findSome?_flatMap, Regex.required, h]
    congr 1
    funext s'
    exact ih s'

theorem Searches.requiredAll (least : Nat) (s : State) :
    requiredAll m least s = requiredAllWay w least s := by
  induction least generalizing s with
  | zero => rfl
  | succ n ih =>
    rw [requiredAllWay, Regex.requiredAll, h.first]
    congr 1
    funext s'
    exact ih s'

/-- A repetition of a matcher searches the ways of a repetition. -/
theorem Searches.repeated (mode : Greed) (least : Nat) (most : Option Nat) :
    Searches (repeated m mode least most) (repeatedWays w mode least most) := by
  intro s k
  cases mode with
  | greedy =>
    change Regex.required m least s _ = _
    rw [h.required, repeatedWays, findSome?_flatMap]
    congr 1
    funext s'
    exact h.rounds _ s' k
  | reluctant =>
    change Regex.required m least s _ = _
    rw [h.required, repeatedWays, findSome?_flatMap]
    congr 1
    funext s'
    exact h.roundsFew _ s' k
  | possessive =>
    -- all rounds together have one way, which is taken or not
    change (Regex.requiredAll m least s).bind _ = _
    rw [h.requiredAll, repeatedWays]
    cases requiredAllWay w least s with
    | none => rfl
    | some s' =>
      change k (Regex.roundsAll m (beyond least most) s') = _
      rw [h.roundsAll]
      exact List.findSome?_singleton.symm

end Repetitions

/-- A look-around that found something goes on from where it started. -/
theorem findSome?_lookWays_some (positive : Bool) (s s' : State) (k : Continuation) :
    (lookWays positive s (some s')).findSome? k =
      if positive then k (s'.moveTo s.cursor) else none := by
  cases positive with
  | true => exact List.findSome?_singleton
  | false => rfl

/-- A look-around that found nothing goes on if it was a negative one. -/
theorem findSome?_lookWays_none (positive : Bool) (s : State) (k : Continuation) :
    (lookWays positive s none).findSome? k = if positive then none else k s := by
  cases positive with
  | true => rfl
  | false => exact List.findSome?_singleton

/-- **Running a pattern is searching its ways.** -/
theorem run_eq_findSome? (r : Regex) : Searches (run r) (ways r) := by
  -- each constructor of the matcher tries the ways that it lists, in their order
  induction r with
  | empty =>
    intro s k
    exact List.findSome?_singleton.symm
  | char test =>
    intro s k
    simp only [run, ways]
    cases s.cursor.next? with
    | none => rfl
    | some read =>
      obtain ⟨ch, c⟩ := read
      by_cases htest : test ch = true
      · simp only [if_pos htest]
        exact List.findSome?_singleton.symm
      · simp only [if_neg htest]
        rfl
  | seq first second ih₁ ih₂ =>
    intro s k
    simp only [run, ways, findSome?_flatMap]
    rw [ih₁]
    congr 1
    funext s'
    exact ih₂ s' k
  | alt first second ih₁ ih₂ =>
    intro s k
    simp only [run, ways, List.findSome?_append, Option.orElse_eq_orElse, Option.orElse_eq_or]
    rw [ih₁, ih₂]
  | rep mode least most body ih => exact ih.repeated mode least most
  | group index body ih =>
    intro s k
    simp only [run, ways, List.findSome?_map]
    exact ih s _
  | atomic body ih =>
    intro s k
    simp only [run, ways, ih.first]
    cases (ways body s).head? with
    | none => rfl
    | some s' => exact List.findSome?_singleton.symm
  | ahead positive body ih =>
    intro s k
    simp only [run, ways, ih.first]
    cases (ways body s).head? with
    | none => exact (findSome?_lookWays_none positive s k).symm
    | some s' => exact (findSome?_lookWays_some positive s s' k).symm
  | behind positive width body ih =>
    intro s k
    simp only [run, ways, ih.first]
    cases (s.cursor.back? width).bind fun c => (ways body (s.moveTo c)).head? with
    | none => exact (findSome?_lookWays_none positive s k).symm
    | some s' => exact (findSome?_lookWays_some positive s s' k).symm
  | backref index same =>
    intro s k
    simp only [run, ways]
    cases s.capture? index with
    | none => rfl
    | some c =>
      dsimp only
      cases s.cursor.read? same c.text with
      | none => rfl
      | some c' => exact List.findSome?_singleton.symm
  | ifGroup index yes no ih₁ ih₂ =>
    intro s k
    simp only [run, ways]
    cases s.capture? index with
    | some c => exact ih₁ s k
    | none => exact ih₂ s k
  | anchor test =>
    intro s k
    simp only [run, ways]
    split
    · exact List.findSome?_singleton.symm
    · rfl

/-! ### What one step passes on -/

section Repetitions

variable {w : State → List State} {R : State → State → Prop} (refl : ∀ s, R s s)
  (trans : ∀ {a b c}, R a b → R b c → R a c) (body : ∀ s s', s' ∈ w s → R s s')

include refl trans body

/-- Greedy rounds stay in a reflexive and transitive relation that each round is in, and so do the
rounds of the other kinds below. -/
theorem roundsWays_induction (most : Option Nat) (s : State) :
    ∀ s' ∈ roundsWays w most s, R s s' := by
  fun_induction roundsWays w most s with
  | case1 s =>
    intro s' hs'
    obtain rfl := List.mem_singleton.mp hs'
    exact refl s'
  | case2 most s _ ih =>
    intro s' hs'
    rcases List.mem_append.mp hs' with hs' | hs'
    · obtain ⟨s₁, hs₁, hs'⟩ := List.mem_flatMap.mp hs'
      split at hs'
      · exact trans (body s s₁ hs₁) (ih s₁ ‹_› s' hs')
      · obtain rfl := List.mem_singleton.mp hs'
        exact body s s' hs₁
    · obtain rfl := List.mem_singleton.mp hs'
      exact refl s'

theorem roundsFewWays_induction (most : Option Nat) (s : State) :
    ∀ s' ∈ roundsFewWays w most s, R s s' := by
  fun_induction roundsFewWays w most s with
  | case1 most s ih =>
    intro s' hs'
    rcases List.mem_cons.mp hs' with rfl | hs'
    · exact refl s'
    · split at hs'
      · cases hs'
      · obtain ⟨s₁, hs₁, hs'⟩ := List.mem_flatMap.mp hs'
        split at hs'
        · exact trans (body s s₁ hs₁) (ih s₁ ‹_› s' hs')
        · obtain rfl := List.mem_singleton.mp hs'
          exact body s s' hs₁

theorem roundsAllWay_induction (most : Option Nat) (s : State) :
    R s (roundsAllWay w most s) := by
  fun_induction roundsAllWay w most s with
  | case1 s => exact refl s
  | case2 most s _ _ => exact refl s
  | case3 most s _ s' hs' _ ih => exact trans (body s s' (List.mem_of_head? hs')) ih
  | case4 most s _ s' hs' _ => exact body s s' (List.mem_of_head? hs')

theorem requiredWays_induction (least : Nat) (s : State) :
    ∀ s' ∈ requiredWays w least s, R s s' := by
  induction least generalizing s with
  | zero =>
    intro s' hs'
    obtain rfl := List.mem_singleton.mp hs'
    exact refl s'
  | succ n ih =>
    intro s' hs'
    obtain ⟨s₁, hs₁, hs'⟩ := List.mem_flatMap.mp hs'
    exact trans (body s s₁ hs₁) (ih s₁ s' hs')

theorem requiredAllWay_induction (least : Nat) (s : State) :
    ∀ s', requiredAllWay w least s = some s' → R s s' := by
  induction least generalizing s with
  | zero =>
    intro s' hs'
    obtain rfl := Option.some.inj hs'
    exact refl s
  | succ n ih =>
    intro s' hs'
    obtain ⟨s₁, hs₁, hs'⟩ := Option.bind_eq_some_iff.mp hs'
    exact trans (body s s₁ (List.mem_of_head? hs₁)) (ih s₁ s' hs')

/-- **What one round passes on, a repetition passes on.** -/
theorem repeatedWays_induction (mode : Greed) (least : Nat) (most : Option Nat) (s : State) :
    ∀ s' ∈ repeatedWays w mode least most s, R s s' := by
  intro s' hs'
  cases mode with
  | greedy =>
    obtain ⟨s₁, hs₁, hs'⟩ := List.mem_flatMap.mp hs'
    exact trans (requiredWays_induction refl trans body least s s₁ hs₁)
      (roundsWays_induction refl trans body _ s₁ s' hs')
  | reluctant =>
    obtain ⟨s₁, hs₁, hs'⟩ := List.mem_flatMap.mp hs'
    exact trans (requiredWays_induction refl trans body least s s₁ hs₁)
      (roundsFewWays_induction refl trans body _ s₁ s' hs')
  | possessive =>
    obtain ⟨s₁, hs₁, rfl⟩ := Option.map_eq_some_iff.mp (Option.mem_toList.mp hs')
    exact trans (requiredAllWay_induction refl trans body least s s₁ hs₁)
      (roundsAllWay_induction refl trans body _ s₁)

/-- A repetition that has to happen at least once starts with a round. -/
theorem exists_round_of_mem_repeatedWays {mode : Greed} {least : Nat} {most : Option Nat}
    {s s' : State} (hs' : s' ∈ repeatedWays w mode (least + 1) most s) :
    ∃ s₁ ∈ w s, R s₁ s' := by
  -- at least one round is required, and it is the first
  cases mode with
  | greedy =>
    obtain ⟨s₂, hs₂, hs'⟩ := List.mem_flatMap.mp hs'
    obtain ⟨s₁, hs₁, hs₂⟩ := List.mem_flatMap.mp hs₂
    exact ⟨s₁, hs₁, trans (requiredWays_induction refl trans body least s₁ s₂ hs₂)
      (roundsWays_induction refl trans body _ s₂ s' hs')⟩
  | reluctant =>
    obtain ⟨s₂, hs₂, hs'⟩ := List.mem_flatMap.mp hs'
    obtain ⟨s₁, hs₁, hs₂⟩ := List.mem_flatMap.mp hs₂
    exact ⟨s₁, hs₁, trans (requiredWays_induction refl trans body least s₁ s₂ hs₂)
      (roundsFewWays_induction refl trans body _ s₂ s' hs')⟩
  | possessive =>
    obtain ⟨s₂, hs₂, rfl⟩ := Option.map_eq_some_iff.mp (Option.mem_toList.mp hs')
    obtain ⟨s₁, hs₁, hs₂⟩ := Option.bind_eq_some_iff.mp hs₂
    exact ⟨s₁, List.mem_of_head? hs₁,
      trans (requiredAllWay_induction refl trans body least s₁ s₂ hs₂)
        (roundsAllWay_induction refl trans body _ s₂)⟩

end Repetitions

/-- A test of the surroundings that lets a state pass has found a way, or looked for none. -/
theorem mem_lookWays {positive : Bool} {s s' : State} {found : Option State}
    (h : s' ∈ lookWays positive s found) :
    (positive = true ∧ ∃ s₁, found = some s₁ ∧ s' = s₁.moveTo s.cursor) ∨
      (positive = false ∧ found = none ∧ s' = s) := by
  cases found with
  | some s₁ =>
    cases positive with
    | true => exact .inl ⟨rfl, s₁, rfl, List.mem_singleton.mp h⟩
    | false => cases h
  | none =>
    cases positive with
    | true => cases h
    | false => exact .inr ⟨rfl, rfl, List.mem_singleton.mp h⟩

/-- **What the single steps of a match pass on, every way of matching passes on.** The steps are:
reading a character or the text of a group, noting a group, and returning after a look around. -/
theorem ways_induction {R : State → State → Prop} (refl : ∀ s, R s s)
    (trans : ∀ {a b c}, R a b → R b c → R a c)
    (next : ∀ {s ch c}, s.cursor.next? = some (ch, c) → R s (s.moveTo c))
    (read : ∀ {s same text c}, s.cursor.read? same text = some c → R s (s.moveTo c))
    (remember : ∀ {s s'} index capture, R s s' → R s (s'.remember index capture))
    (restore : ∀ {s s' c}, R (s.moveTo c) s' → R s (s'.moveTo s.cursor))
    (r : Regex) (s : State) : ∀ s' ∈ ways r s, R s s' := by
  induction r generalizing s with
  | empty =>
    intro s' hs'
    obtain rfl := List.mem_singleton.mp hs'
    exact refl s'
  | char test =>
    intro s' hs'
    simp only [ways] at hs'
    split at hs'
    · split at hs'
      · obtain rfl := List.mem_singleton.mp hs'
        exact next ‹_›
      · cases hs'
    · cases hs'
  | seq first second ih₁ ih₂ =>
    intro s' hs'
    obtain ⟨s₁, hs₁, hs'⟩ := List.mem_flatMap.mp hs'
    exact trans (ih₁ s s₁ hs₁) (ih₂ s₁ s' hs')
  | alt first second ih₁ ih₂ =>
    intro s' hs'
    rcases List.mem_append.mp hs' with hs' | hs'
    · exact ih₁ s s' hs'
    · exact ih₂ s s' hs'
  | rep mode least most body ih => exact repeatedWays_induction refl trans ih mode least most s
  | group index body ih =>
    intro s' hs'
    obtain ⟨s₁, hs₁, rfl⟩ := List.mem_map.mp hs'
    exact remember index _ (ih s s₁ hs₁)
  | atomic body ih =>
    intro s' hs'
    exact ih s s' (List.mem_of_head? (Option.mem_toList.mp hs'))
  | ahead positive body ih =>
    intro s' hs'
    obtain ⟨-, s₁, hs₁, rfl⟩ | ⟨-, -, rfl⟩ := mem_lookWays hs'
    · exact restore (c := s.cursor) (ih s s₁ (List.mem_of_head? hs₁))
    · exact refl s'
  | behind positive width body ih =>
    -- the body starts further back, and where it ends does not matter
    intro s' hs'
    obtain ⟨-, s₁, hs₁, rfl⟩ | ⟨-, -, rfl⟩ := mem_lookWays hs'
    · obtain ⟨c, -, hs₁⟩ := Option.bind_eq_some_iff.mp hs₁
      exact restore (ih (s.moveTo c) s₁ (List.mem_of_head? hs₁))
    · exact refl s'
  | backref index same =>
    intro s' hs'
    simp only [ways] at hs'
    split at hs'
    · split at hs'
      · obtain rfl := List.mem_singleton.mp hs'
        exact read ‹_›
      · cases hs'
    · cases hs'
  | ifGroup index yes no ih₁ ih₂ =>
    intro s' hs'
    simp only [ways] at hs'
    split at hs'
    · exact ih₁ s s' hs'
    · exact ih₂ s s' hs'
  | anchor test =>
    intro s' hs'
    simp only [ways] at hs'
    split at hs'
    · obtain rfl := List.mem_singleton.mp hs'
      exact refl s'
    · cases hs'

/-! ### Places -/

namespace Cursor

/-- **A place in a given text:** its two sides make up the text, and are counted rightly. -/
structure IsIn (c : Cursor) (text : List Char) : Prop where
  /-- The two sides make up the text. -/
  split : c.before.reverse ++ c.after = text
  /-- The characters before are counted. -/
  pos : c.pos = c.before.length
  /-- The characters that follow are counted. -/
  left : c.left = c.after.length

variable {c c' : Cursor} {text : List Char}

theorem isIn_start (text : List Char) : (start text).IsIn text :=
  ⟨rfl, rfl, rfl⟩

/-- What follows a place of a text. -/
theorem IsIn.drop_pos (h : c.IsIn text) : text.drop c.pos = c.after := by
  rw [← h.split, h.pos, ← List.length_reverse, List.drop_left]

/-- The place behind the next character. -/
theorem IsIn.next {before after : List Char} {pos left : Nat} {ch : Char}
    (h : (⟨before, ch :: after, pos, left⟩ : Cursor).IsIn text) :
    (⟨ch :: before, after, pos + 1, left - 1⟩ : Cursor).IsIn text where
  split := by
    rw [← h.split]
    simp
  pos := congrArg (· + 1) h.pos
  left := by
    have hleft : left = (ch :: after).length := h.left
    simp [hleft]

/-- Moving over a character stays in the text. -/
theorem IsIn.next? {ch : Char} (h : c.IsIn text) (hnext : c.next? = some (ch, c')) :
    c'.IsIn text := by
  obtain ⟨before, after, pos, left⟩ := c
  cases after with
  | nil => cases hnext
  | cons ch' after =>
    obtain ⟨-, rfl⟩ := Prod.mk.inj (Option.some.inj hnext)
    exact h.next

/-- Reading a word stays in the text. -/
theorem IsIn.read? {same : Char → Char → Bool} {word : List Char} (h : c.IsIn text)
    (hread : c.read? same word = some c') : c'.IsIn text := by
  induction word generalizing c with
  | nil =>
    obtain rfl := Option.some.inj hread
    exact h
  | cons w ws ih =>
    simp only [Cursor.read?] at hread
    split at hread
    · next hnext =>
      split at hread
      · exact ih (h.next? hnext) hread
      · cases hread
    · cases hread

end Cursor

/-- **Every way of matching ends at a place of the text.** -/
theorem isIn_of_mem_ways {r : Regex} {s s' : State} {text : List Char}
    (h : s.cursor.IsIn text) (hs' : s' ∈ ways r s) : s'.cursor.IsIn text := by
  refine ways_induction (R := fun s s' => s.cursor.IsIn text → s'.cursor.IsIn text)
    (fun _ h => h) (fun hab hbc h => hbc (hab h)) ?_ ?_ ?_ ?_ r s s' hs' h
  · intro s ch c hnext h
    exact h.next? hnext
  · intro s same word c hread h
    exact h.read? hread
  · intro s s' index capture hss h
    exact hss h
  · -- after a look around the cursor is where it was
    intro s s' c _ h
    exact h

/-! ### Matches -/

/-- **A match of a pattern in a text:** it starts at a place of the text, and its end is one of the
ways of the pattern from there. -/
structure IsMatch (r : Regex) (text : List Char) (m : Match) : Prop where
  /-- It starts in the text. -/
  start : m.start.IsIn text
  /-- Its end is one of the ways from there. -/
  final : m.final ∈ ways r ⟨m.start, []⟩

/-- A match ends in the text. -/
theorem IsMatch.isIn_final {r : Regex} {text : List Char} {m : Match} (h : IsMatch r text m) :
    m.final.cursor.IsIn text :=
  isIn_of_mem_ways h.start h.final

/-- The match at a place starts there and ends acceptably, as one of the ways of the pattern. -/
theorem matchAt_eq_some {r : Regex} {accept : Cursor → Bool} {c : Cursor} {m : Match}
    (h : matchAt r accept c = some m) :
    m.start = c ∧ m.final ∈ ways r ⟨c, []⟩ ∧ accept m.final.cursor = true := by
  obtain ⟨s, hs, rfl⟩ := Option.map_eq_some_iff.mp h
  rw [run_eq_findSome?] at hs
  obtain ⟨s', hs', haccept⟩ := List.exists_of_findSome?_eq_some hs
  split at haccept
  · obtain rfl := Option.some.inj haccept
    exact ⟨rfl, hs', ‹_›⟩
  · cases haccept

/-- **What the matcher finds is a match,** if it starts in the text. -/
theorem isMatch_of_matchAt {r : Regex} {text : List Char} {accept : Cursor → Bool} {c : Cursor}
    {m : Match} (hc : c.IsIn text) (h : matchAt r accept c = some m) : IsMatch r text m := by
  obtain ⟨rfl, hfinal, -⟩ := matchAt_eq_some h
  exact ⟨hc, hfinal⟩

/-- **The first match in a text is a match.** -/
theorem isMatch_of_search {r : Regex} {text : List Char} {m : Match}
    (h : r.search text = some m) : IsMatch r text m := by
  -- the search moves through the text one character at a time and stays at places of it
  have hfrom : ∀ (after before : List Char) (pos left : Nat),
      (⟨before, after, pos, left⟩ : Cursor).IsIn text →
      searchFrom r before pos left after = some m → IsMatch r text m := by
    intro after
    induction after with
    | nil =>
      intro before pos left hc h
      exact isMatch_of_matchAt hc h
    | cons ch rest ih =>
      intro before pos left hc h
      rw [searchFrom, Option.orElse_eq_orElse, Option.orElse_eq_or, Option.or_eq_some_iff] at h
      rcases h with h | ⟨-, h⟩
      · exact isMatch_of_matchAt hc h
      · exact ih _ _ _ hc.next h
  exact hfrom text [] 0 text.length (Cursor.isIn_start text) h

/-- All that the scan for matches at a place lists are matches. -/
theorem isMatch_of_mem_matchesAt {r : Regex} {text : List Char} {c : Cursor} {m : Match}
    (hc : c.IsIn text) (h : m ∈ matchesAt r c) : IsMatch r text m := by
  unfold matchesAt at h
  split at h
  · cases h
  · next m₁ hm₁ =>
    have hfirst : IsMatch r text m₁ := isMatch_of_matchAt hc hm₁
    split at h
    · obtain rfl := List.mem_singleton.mp h
      exact hfirst
    · split at h
      · obtain rfl := List.mem_singleton.mp h
        exact hfirst
      · -- an empty match may be followed by a longer one at the same place
        next longer hlonger =>
        rcases List.mem_cons.mp h with rfl | h
        · exact hfirst
        · obtain rfl := List.mem_singleton.mp h
          exact isMatch_of_matchAt hc hlonger

/-- **All matches in a text are matches.** -/
theorem isMatch_of_mem_findAll {r : Regex} {text : List Char} {m : Match}
    (h : m ∈ r.findAll text) : IsMatch r text m := by
  -- on what is left of the text; the cursor stays in the text as the scan moves on
  have hfrom : ∀ (after before : List Char) (pos left resume : Nat),
      (⟨before, after, pos, left⟩ : Cursor).IsIn text →
      m ∈ findAllFrom r before pos left resume after → IsMatch r text m := by
    intro after
    induction after with
    | nil =>
      intro before pos left resume hc h
      rw [findAllFrom] at h
      split at h
      · cases h
      · exact isMatch_of_mem_matchesAt hc h
    | cons ch rest ih =>
      intro before pos left resume hc h
      rw [findAllFrom] at h
      split at h
      · exact ih _ _ _ _ hc.next h
      · rcases List.mem_append.mp h with h | h
        · exact isMatch_of_mem_matchesAt hc h
        · exact ih _ _ _ _ hc.next h
  exact hfrom text [] 0 text.length 0 (Cursor.isIn_start text) h

end SourceAtlas.Regex
