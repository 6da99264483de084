import SourceAtlas.Proofs.Regex.Offsets

/-!
# The preferred match at an offset

Where a pattern leads says where it matches, but not which of several matches is taken. The one that
is taken is the first of the ways. Two things are needed to tell it:

* A pattern without groups that leads to one offset only may have several ways to it, and all of
  them are the same state (`eq_of_mem_ways`). So it makes no difference which of them is taken, and
  what follows it decides alone (`head?_flatMap_of_forall_eq`).
* A reluctant repetition of any character tries the offsets one after the other, so a term behind it
  is found where it first stands (`head?_ways_upTo`).

* `isSome_matchFrom_iff`, `isSome_search_iff` — there is a match just where the pattern leads
  somewhere;
* `exists_matchFrom_upTo` — what a group that goes up to a term has captured.
-/

namespace SourceAtlas.Regex

variable {r : Regex} {text : List Char} {i j k p e : Nat}

/-! ### Matches at an offset -/

/-- **The preferred match at an offset of a text.** -/
def matchFrom (r : Regex) (text : List Char) (i : Nat) : Option Match :=
  r.matchAt (fun _ => true) (.ofOffset text i)

/-- The match at an offset is the first way from there. -/
theorem matchFrom_eq : r.matchFrom text i =
    (ways r ⟨.ofOffset text i, []⟩).head?.map fun s => ⟨.ofOffset text i, s⟩ := by
  have haccept : (fun s : State =>
      if (fun _ : Cursor => true) s.cursor then some s else none) = some := by
    funext s
    exact if_pos rfl
  rw [matchFrom, matchAt, haccept, run_eq_findSome?, findSome?_some]

/-- There is no match at an offset just when no way leads on from it. -/
theorem matchFrom_eq_none_iff (hi : i ≤ text.length) :
    r.matchFrom text i = none ↔ ∀ j, ¬Leads r text i j := by
  rw [matchFrom, matchAt_eq_none_iff, List.eq_nil_iff_forall_not_mem]
  constructor
  · rintro h j ⟨-, s, hs, -⟩
    exact h s hs
  · intro h s hs
    exact h _ ⟨hi, s, hs, rfl⟩

theorem isSome_matchFrom_iff (hi : i ≤ text.length) :
    (r.matchFrom text i).isSome = true ↔ ∃ j, Leads r text i j := by
  rw [Option.isSome_iff_ne_none, Ne, matchFrom_eq_none_iff hi, not_forall_not]

/-- **A search finds something** just where the pattern leads from somewhere to somewhere. -/
theorem isSome_search_iff : (r.search text).isSome = true ↔ ∃ i j, Leads r text i j := by
  constructor
  · intro h
    obtain ⟨m, hm⟩ := Option.isSome_iff_exists.mp h
    exact ⟨m.startPos, m.endPos, (isMatch_of_search hm).leads⟩
  · rintro ⟨i, j, h⟩
    rw [Option.isSome_iff_ne_none, Ne, ← findAll_eq_nil_iff]
    obtain ⟨m, hm, -⟩ := h.exists_mem_findAll
    exact List.ne_nil_of_mem hm

/-! ### Patterns that lead to one offset -/

/-- The first of the results of some items that are all the same is the first that one of them
has. -/
theorem head?_flatMap_of_forall_eq {α β : Type} {l : List α} {a : α} (hl : l ≠ [])
    (h : ∀ x ∈ l, x = a) (f : α → List β) : (l.flatMap f).head? = (f a).head? := by
  obtain ⟨x, rest, rfl⟩ := List.exists_cons_of_ne_nil hl
  obtain ⟨rfl, hrest⟩ := List.forall_mem_cons.mp h
  rw [List.flatMap_cons, List.head?_append]
  cases hx : (f x).head? with
  | some b => rfl
  | none =>
    -- where the first has none, none of the others has
    have hnil : f x = [] := List.head?_eq_none_iff.mp hx
    have hothers : rest.flatMap f = [] := List.flatMap_eq_nil_iff.mpr fun y hy => by
      rw [hrest y hy, hnil]
    rw [hothers]
    rfl

/-- A pattern without groups captures nothing. -/
theorem captures_eq_nil_of_mem_ways {s s' : State} (hgroups : ∀ index, bodies index r = [])
    (hs : s.captures = []) (hs' : s' ∈ ways r s) : s'.captures = [] := by
  rw [List.eq_nil_iff_forall_not_mem]
  rintro ⟨index, c⟩ hc
  rcases captured_of_mem_ways hs' c hc with hbefore | ⟨body, hbody, -⟩
  · rw [hs] at hbefore
    cases hbefore
  · rw [hgroups] at hbody
    cases hbody

/-- **A pattern without groups that leads to one offset only** has one state to lead to. -/
theorem eq_of_mem_ways (hi : i ≤ text.length) (hgroups : ∀ index, bodies index r = [])
    (hunique : ∀ q, Leads r text i q → q = p) {s : State} (hs : s ∈ ways r ⟨.ofOffset text i, []⟩) :
    s = ⟨.ofOffset text p, []⟩ := by
  have hin : s.cursor.IsIn text := isIn_of_mem_ways (s := ⟨.ofOffset text i, []⟩)
    (Cursor.isIn_ofOffset hi) hs
  have hpos : s.cursor.pos = p := hunique _ ⟨hi, s, hs, rfl⟩
  have hcaptures := captures_eq_nil_of_mem_ways hgroups rfl hs
  have hcursor := hin.eq_ofOffset
  rw [hpos] at hcursor
  obtain ⟨cursor, captures⟩ := s
  cases hcursor
  cases hcaptures
  rfl

/-! ### Up to a term -/

/-- Everything up to a term, which is remembered, and the term. -/
def upTo (index : Nat) (same : Char → Char → Bool) (term : List Char) : Regex :=
  cat [.group index (starFew (.char fun _ => true)), literal same term]

theorem ways_starFew (r : Regex) (s : State) :
    ways (starFew r) s = roundsFewWays (ways r) none s :=
  List.flatMap_singleton ..

/-- A reluctant repetition of any character stays, or goes on from the next offset. -/
theorem ways_starFew_any (hi : i < text.length) (captures : List (Nat × Capture)) :
    ways (starFew (.char fun _ => true)) ⟨.ofOffset text i, captures⟩ =
      ⟨.ofOffset text i, captures⟩ ::
        ways (starFew (.char fun _ => true)) ⟨.ofOffset text (i + 1), captures⟩ := by
  have hdrop : text.drop i = text[i] :: text.drop (i + 1) := List.drop_eq_getElem_cons hi
  have htake : (text.take (i + 1)).reverse = text[i] :: (text.take i).reverse := by
    rw [List.take_add_one, List.getElem?_eq_getElem hi, List.reverse_append]
    rfl
  have hnext : (Cursor.ofOffset text i).next? = some (text[i], .ofOffset text (i + 1)) := by
    simp only [Cursor.ofOffset, Cursor.next?, hdrop, htake, List.length_cons, Nat.add_sub_cancel]
  have hone : ways (.char fun _ => true) ⟨.ofOffset text i, captures⟩ =
      [⟨.ofOffset text (i + 1), captures⟩] := by
    simp only [ways, hnext]
    rfl
  -- each round uses up a character, so the guard against empty rounds lets it pass
  have hless : (Cursor.ofOffset text (i + 1)).left < (Cursor.ofOffset text i).left := by
    simp only [Cursor.ofOffset, List.length_drop]
    omega
  rw [ways_starFew, ways_starFew, roundsFewWays, if_neg (Option.some_ne_none 0).symm, hone,
    List.flatMap_singleton, if_pos hless]
  rfl

/-- **Behind a reluctant repetition of any character** the first offset counts from which something
leads on. -/
theorem head?_flatMap_starFew (hpe : p ≤ e) (he : e ≤ text.length) (captures : List (Nat × Capture))
    (f : State → List State) (hbefore : ∀ k, p ≤ k → k < e → f ⟨.ofOffset text k, captures⟩ = [])
    (hfound : f ⟨.ofOffset text e, captures⟩ ≠ []) :
    ((ways (starFew (.char fun _ => true)) ⟨.ofOffset text p, captures⟩).flatMap f).head? =
      (f ⟨.ofOffset text e, captures⟩).head? := by
  induction hn : e - p generalizing p with
  | zero =>
    obtain rfl : p = e := by omega
    rw [ways_starFew, roundsFewWays, List.flatMap_cons, List.head?_append_of_ne_nil _ hfound]
  | succ n ih =>
    rw [ways_starFew_any (by omega), List.flatMap_cons, hbefore p (Nat.le_refl p) (by omega),
      List.nil_append]
    exact ih (by omega) (fun k hk => hbefore k (by omega)) (by omega)

/-- A term where it stands leads to its end, whatever was captured. -/
theorem ways_literal_of_occursAt {same : Char → Char → Bool} {term : List Char}
    (hi : i ≤ text.length) (h : OccursAt same term text i) (captures : List (Nat × Capture)) :
    ways (literal same term) ⟨.ofOffset text i, captures⟩ =
      [⟨.ofOffset text (i + term.length), captures⟩] := by
  have hin : (Cursor.ofOffset text i).IsIn text := Cursor.isIn_ofOffset hi
  have hread : ((Cursor.ofOffset text i).read? same term).isSome = true :=
    Cursor.isSome_read?_iff.mpr h
  obtain ⟨c, hc⟩ := Option.isSome_iff_exists.mp hread
  have hend : c = .ofOffset text (i + term.length) := by
    rw [(hin.read? hc).eq_ofOffset, Cursor.pos_read? hc]
    rfl
  rw [ways_literal, hc, hend]
  rfl

theorem ways_literal_of_not_occursAt {same : Char → Char → Bool} {term : List Char}
    (h : ¬OccursAt same term text i) (captures : List (Nat × Capture)) :
    ways (literal same term) ⟨.ofOffset text i, captures⟩ = [] := by
  have hread : ((Cursor.ofOffset text i).read? same term).isSome ≠ true :=
    fun hread => h (Cursor.isSome_read?_iff.mp hread)
  rw [ways_literal, Option.not_isSome_iff_eq_none.mp hread]
  rfl

/-- **The first way up to a term** ends behind the term where it first stands, and remembers what is
in front of it. -/
theorem head?_ways_upTo {index : Nat} {same : Char → Char → Bool} {term : List Char} (hpe : p ≤ e)
    (he : e ≤ text.length) (hfound : OccursAt same term text e)
    (hfirst : ∀ k, p ≤ k → k < e → ¬OccursAt same term text k) :
    (ways (upTo index same term) ⟨.ofOffset text p, []⟩).head? =
      some ⟨.ofOffset text (e + term.length), [(index, ⟨.ofOffset text p, .ofOffset text e⟩)]⟩ := by
  have hways : ways (upTo index same term) ⟨.ofOffset text p, []⟩ =
      (ways (starFew (.char fun _ => true)) ⟨.ofOffset text p, []⟩).flatMap fun s =>
        ways (literal same term) (s.remember index ⟨.ofOffset text p, s.cursor⟩) := by
    rw [upTo, ways_cat_cons, ways, List.flatMap_map]
    rfl
  have hend := ways_literal_of_occursAt he hfound [(index, ⟨.ofOffset text p, .ofOffset text e⟩)]
  rw [hways, head?_flatMap_starFew hpe he []]
  · exact congrArg List.head? hend
  · intro k hk hke
    exact ways_literal_of_not_occursAt (hfirst k hk hke) _
  · exact hend ▸ List.cons_ne_nil _ _

/-- **What a group that goes up to a term has captured,** behind a pattern without groups that leads
to one offset only: everything from there to where the term first stands. -/
theorem exists_matchFrom_upTo {front : List Regex} {index : Nat} {same : Char → Char → Bool}
    {term : List Char} (hgroups : ∀ n, bodies n (cat front) = [])
    (hlead : Leads (cat front) text i p)
    (hunique : ∀ q, Leads (cat front) text i q → q = p) (hpe : p ≤ e) (he : e ≤ text.length)
    (hfound : OccursAt same term text e)
    (hfirst : ∀ k, p ≤ k → k < e → ¬OccursAt same term text k) (hindex : index ≠ 0) :
    ∃ m, (cat (front ++ [upTo index same term])).matchFrom text i = some m ∧
      m.group? index = some (text.extract p e) := by
  have hfront : ways (cat front) ⟨.ofOffset text i, []⟩ ≠ [] := by
    obtain ⟨-, s, hs, -⟩ := hlead
    exact List.ne_nil_of_mem hs
  -- all ways over the front end in one state, and from there the first way is to the first
  -- occurrence
  have hhead : (ways (cat (front ++ [upTo index same term])) ⟨.ofOffset text i, []⟩).head? =
      some ⟨.ofOffset text (e + term.length), [(index, ⟨.ofOffset text p, .ofOffset text e⟩)]⟩ := by
    rw [ways_cat_append, head?_flatMap_of_forall_eq hfront
      fun s hs => eq_of_mem_ways hlead.le_length hgroups hunique hs]
    exact head?_ways_upTo hpe he hfound hfirst
  refine ⟨_, by rw [matchFrom_eq, hhead, Option.map_some], ?_⟩
  rw [Match.group?, State.capture?, List.lookup_cons_self]
  · rfl
  · exact hindex

end SourceAtlas.Regex
