import Mathlib.Data.List.Forall2
import SourceAtlas.Extract.CSharp
import SourceAtlas.Proofs.CSharp.Places

/-!
# Declarations and the namespaces they belong to

The walk over a syntax tree carries the namespace in scope along, and binds it anew while it passes
over siblings. Stated without a walk, a namespace is in scope in some part of the tree: a block
namespace in its body, a file namespace below itself and at the siblings that follow it. The parts
of two namespaces lie inside each other wherever they meet, so at every place there is an innermost
one, and that is the namespace of a class there.

* `Covers` — where a namespace is in scope;
* `ScopeName` — the name of the innermost namespace in scope at a place;
* `covers_cons_iff` — what is in scope one step further down;
* `Lists` — some entities are those declared at certain places, in source order;
* `walk_lists_reached_declarations` — the walk reports every declaration that is reached, once and
  in source order, and every class under the innermost namespace in scope.

The walk stands at the child number `k` of a region `u`. What carries the induction is that the
namespace it holds then is the one in scope at the place `k :: u`, whether or not there is a node.
-/

namespace SourceAtlas.CSharp

open SourceAtlas.Extract.CSharp

/-! ### Where a namespace is in scope -/

/-- **Where a namespace is in scope.** `d` is declared at the place `q`. If it is a block namespace,
it is in scope at what its body holds; if it is a file namespace, at its own children, at the
siblings that follow it, and at everything below these. -/
inductive Covers (d : Node) : (q p : Place) → Prop
  | body {q p : Place} {i j : Nat} {b : Node} (hk : d.kind = .blockNamespace) (hb : d.BodyAt i b)
      (hp : (j :: i :: q) <:+ p) : Covers d q p
  | below {q p : Place} {j : Nat} (hk : d.kind = .fileNamespace) (hp : (j :: q) <:+ p) :
      Covers d q p
  | after {u p : Place} {i j : Nat} (hk : d.kind = .fileNamespace) (hij : i < j)
      (hp : (j :: u) <:+ p) : Covers d (i :: u) p

/-- The namespace `d`, reached at the place `q`, is in scope at the place `p`. -/
def InScope (root : Node) (p q : Place) (d : Node) : Prop :=
  Reached root q d ∧ Covers d q p

/-- **The innermost namespace in scope:** it lies in the scope of all the others. -/
def Innermost (root : Node) (p q : Place) (d : Node) : Prop :=
  InScope root p q d ∧ ∀ q' d', InScope root p q' d' → q' = q ∨ Covers d' q' q

/-- **The name of the namespace at a place:** that of the innermost namespace in scope, or the
global one where none is in scope. -/
inductive ScopeName (root : Node) (p : Place) : String → Prop
  | named {q : Place} {d : Node} (h : Innermost root p q d) : ScopeName root p (d.textOf .name)
  | global (h : ∀ q d, ¬InScope root p q d) : ScopeName root p globalNamespace

variable {root r n d : Node} {u p q : Place} {k : Nat}

/-- A namespace is declared before whatever it is in scope at. -/
theorem Covers.before (h : Covers d q p) : q.Before p := by
  cases h with
  | body hk hb hp => exact Place.before_of_cons_suffix ((List.suffix_cons _ _).trans hp)
  | below hk hp => exact Place.before_of_cons_suffix hp
  | after hk hij hp => exact Place.before_of_lt hij (List.suffix_refl _) hp

/-- **There is one name for a place.** Two innermost namespaces would each be declared before the
other. -/
theorem ScopeName.unique {s t : String} (hs : ScopeName root p s) (ht : ScopeName root p t) :
    s = t := by
  cases hs with
  | global hnone =>
    cases ht with
    | global _ => rfl
    | named h => exact absurd h.1 (hnone _ _)
  | named h =>
    cases ht with
    | global hnone => exact absurd h.1 (hnone _ _)
    | named h' =>
      rcases h.2 _ _ h'.1 with rfl | hcovers
      · rw [h.1.1.unique h'.1.1]
      · rcases h'.2 _ _ h.1 with rfl | hcovers'
        · rw [h.1.1.unique h'.1.1]
        · exact absurd hcovers.before hcovers'.before.asymm

/-! ### One step further -/

/-- **What is in scope at a child:** what is in scope at the node, and besides it the block
namespace whose body the node is, the node itself if it is a file namespace, and the file namespaces
among the children before. -/
theorem covers_cons_iff :
    Covers d q (k :: u) ↔ Covers d q u ∨
      (d.kind = .blockNamespace ∧ ∃ i b, d.BodyAt i b ∧ u = i :: q) ∨
      (d.kind = .fileNamespace ∧ (u = q ∨ ∃ i < k, q = i :: u)) := by
  constructor
  · intro h
    cases h with
    | body hk hb hp =>
      rcases List.suffix_cons_iff.mp hp with heq | hp
      · exact .inr (.inl ⟨hk, _, _, hb, (List.cons.inj heq).2.symm⟩)
      · exact .inl (.body hk hb hp)
    | below hk hp =>
      rcases List.suffix_cons_iff.mp hp with heq | hp
      · exact .inr (.inr ⟨hk, .inl (List.cons.inj heq).2.symm⟩)
      · exact .inl (.below hk hp)
    | after hk hij hp =>
      rcases List.suffix_cons_iff.mp hp with heq | hp
      · obtain ⟨rfl, rfl⟩ := List.cons.inj heq
        exact .inr (.inr ⟨hk, .inr ⟨_, hij, rfl⟩⟩)
      · exact .inl (.after hk hij hp)
  · rintro (h | ⟨hk, i, b, hb, rfl⟩ | ⟨hk, rfl | ⟨i, hi, rfl⟩⟩)
    · -- whatever is in scope at a node is in scope below it
      have hup : u <:+ k :: u := List.suffix_cons k u
      cases h with
      | body hk hb hp => exact .body hk hb (hp.trans hup)
      | below hk hp => exact .below hk (hp.trans hup)
      | after hk hij hp => exact .after hk hij (hp.trans hup)
    · exact .body hk hb (List.suffix_refl _)
    · exact .below hk (List.suffix_refl _)
    · exact .after hk hi (List.suffix_refl _)

/-- **What is in scope at the next sibling:** what is in scope here, and this node itself if it is a
file namespace. -/
theorem inScope_next (hr : Region root u r) (hn : r.children[k]? = some n) :
    InScope root ((k + 1) :: u) q d ↔
      InScope root (k :: u) q d ∨ n.kind = .fileNamespace ∧ q = k :: u ∧ d = n := by
  have hreached : Reached root (k :: u) n := .child hr hn
  unfold InScope
  rw [covers_cons_iff, covers_cons_iff]
  constructor
  · rintro ⟨hq, h | h | ⟨hk, h | ⟨i, hi, rfl⟩⟩⟩
    · exact .inl ⟨hq, .inl h⟩
    · exact .inl ⟨hq, .inr (.inl h)⟩
    · exact .inl ⟨hq, .inr (.inr ⟨hk, .inl h⟩)⟩
    · -- a sibling in front: an earlier one, or the node itself
      rcases Nat.lt_succ_iff_lt_or_eq.mp hi with hi | rfl
      · exact .inl ⟨hq, .inr (.inr ⟨hk, .inr ⟨i, hi, rfl⟩⟩)⟩
      · obtain rfl := hq.unique hreached
        exact .inr ⟨hk, rfl, rfl⟩
  · rintro (⟨hq, h | h | ⟨hk, h | ⟨i, hi, h⟩⟩⟩ | ⟨hk, rfl, rfl⟩)
    · exact ⟨hq, .inl h⟩
    · exact ⟨hq, .inr (.inl h)⟩
    · exact ⟨hq, .inr (.inr ⟨hk, .inl h⟩)⟩
    · exact ⟨hq, .inr (.inr ⟨hk, .inr ⟨i, Nat.lt_succ_of_lt hi, h⟩⟩)⟩
    · exact ⟨hreached, .inr (.inr ⟨hk, .inr ⟨k, Nat.lt_succ_self k, rfl⟩⟩)⟩

/-- **What is in scope at the start of a file namespace or a list of declarations.** -/
theorem inScope_list (hr : Region root u r) (hn : r.children[k]? = some n) (hk : n.kind.IsList) :
    InScope root (0 :: k :: u) q d ↔
      InScope root (k :: u) q d ∨ n.kind = .fileNamespace ∧ q = k :: u ∧ d = n := by
  have hreached : Reached root (k :: u) n := .child hr hn
  unfold InScope
  rw [covers_cons_iff]
  constructor
  · rintro ⟨hq, h | ⟨hblock, i, b, -, heq⟩ | ⟨hfile, rfl | ⟨i, hi, -⟩⟩⟩
    · exact .inl ⟨hq, h⟩
    · -- the region would be a block namespace
      obtain ⟨rfl, rfl⟩ := List.cons.inj heq
      exact absurd (.inl hblock) (hr.isList_of_reached hq).not_hasBody
    · obtain rfl := hq.unique hreached
      exact .inr ⟨hfile, rfl, rfl⟩
    · exact absurd hi (Nat.not_lt_zero i)
  · rintro (⟨hq, h⟩ | ⟨hfile, rfl, rfl⟩)
    · exact ⟨hq, .inl h⟩
    · exact ⟨hreached, .inr (.inr ⟨hfile, .inl rfl⟩)⟩

/-- **What is in scope at the start of a body.** -/
theorem inScope_body {i : Nat} {b : Node} (hr : Region root u r) (hn : r.children[k]? = some n)
    (hk : n.kind.HasBody) (hb : n.BodyAt i b) :
    InScope root (0 :: i :: k :: u) q d ↔
      InScope root (k :: u) q d ∨ n.kind = .blockNamespace ∧ q = k :: u ∧ d = n := by
  have hreached : Reached root (k :: u) n := .child hr hn
  -- the declaration is not searched itself, so none of its children is reached
  have hclosed : ∀ j m, ¬Reached root (j :: k :: u) m := by
    rintro j m ⟨hsearched, -⟩
    exact (hsearched.isList_of_reached hreached).not_hasBody hk
  unfold InScope
  rw [covers_cons_iff, covers_cons_iff (k := i)]
  constructor
  · rintro ⟨hq, (h | ⟨hblock, j, -, -, heq⟩ | ⟨hfile, rfl | ⟨j, -, rfl⟩⟩) |
      ⟨hblock, j, -, -, heq⟩ | ⟨hfile, rfl | ⟨j, hj, -⟩⟩⟩
    · exact .inl ⟨hq, h⟩
    · obtain ⟨rfl, rfl⟩ := List.cons.inj heq
      exact absurd (.inl hblock) (hr.isList_of_reached hq).not_hasBody
    · obtain rfl := hq.unique hreached
      exact absurd hk (NodeKind.IsList.not_hasBody (.inl hfile))
    · exact absurd hq (hclosed j d)
    · obtain ⟨rfl, rfl⟩ := List.cons.inj heq
      obtain rfl := hq.unique hreached
      exact .inr ⟨hblock, rfl, rfl⟩
    · exact absurd hq (hclosed i d)
    · exact absurd hj (Nat.not_lt_zero j)
  · rintro (⟨hq, h⟩ | ⟨hblock, rfl, rfl⟩)
    · exact ⟨hq, .inl (.inl h)⟩
    · exact ⟨hreached, .inr (.inl ⟨hblock, i, b, hb, rfl⟩)⟩

/-! ### The name along the walk -/

/-- Where nothing new comes into scope the name stays. -/
theorem ScopeName.same {p' : Place} {s : String} (hs : ScopeName root p s)
    (h : ∀ q d, InScope root p' q d ↔ InScope root p q d) : ScopeName root p' s := by
  cases hs with
  | named hq =>
    refine .named ⟨(h _ _).mpr hq.1, ?_⟩
    intro q' d' hq'
    exact hq.2 q' d' ((h _ _).mp hq')
  | global hnone =>
    refine .global ?_
    intro q d hq
    exact hnone q d ((h _ _).mp hq)

/-- A namespace that comes into scope takes over: it lies in the scope of all that were. -/
theorem ScopeName.new {p' : Place}
    (h : ∀ q d, InScope root p' q d ↔ InScope root p q d ∨ q = p ∧ d = n) :
    ScopeName root p' (n.textOf .name) := by
  refine .named ⟨(h p n).mpr (.inr ⟨rfl, rfl⟩), ?_⟩
  intro q' d' hq'
  rcases (h q' d').mp hq' with hold | ⟨rfl, -⟩
  · exact .inr hold.2
  · exact .inl rfl

/-- The name at a place that adds to the scope of another only the node there, and only if the node
is of some kind. -/
theorem ScopeName.step {p' : Place} {s : String} {kind : NodeKind} (hs : ScopeName root p s)
    (h : ∀ q d, InScope root p' q d ↔ InScope root p q d ∨ n.kind = kind ∧ q = p ∧ d = n) :
    ScopeName root p' (if n.kind = kind then n.textOf .name else s) := by
  by_cases hk : n.kind = kind
  · rw [if_pos hk]
    simp only [hk, true_and] at h
    exact .new h
  · rw [if_neg hk]
    simp only [hk, false_and, or_false] at h
    exact hs.same h

/-- Nothing is in scope at the start of a file. -/
theorem scopeName_start : ScopeName root [0] globalNamespace := by
  refine .global ?_
  rintro q d ⟨hq, h⟩
  rcases covers_cons_iff.mp h with h | ⟨-, i, b, -, heq⟩ | ⟨-, rfl | ⟨i, hi, -⟩⟩
  · exact absurd h.before (by simp [Place.Before])
  · cases heq
  · cases hq
  · exact Nat.not_lt_zero i hi

/-! ### Listing declarations in source order -/

/-- Kinds of node that are reported. -/
def NodeKind.IsReported (k : NodeKind) : Prop :=
  k = .blockNamespace ∨ k = .fileNamespace ∨ k = .cls

/-- **A declaration that is reached.** -/
def Declared (root : Node) (p : Place) : Prop :=
  ∃ n, Reached root p n ∧ n.kind.IsReported

/-- **The entity of a declaration:** a namespace by its name, a class with the namespace that is
innermost at its place. -/
inductive Reports (root : Node) (filePath : String) (p : Place) : Entity → Prop
  | space {n : Node} (h : Reached root p n)
      (hk : n.kind = .blockNamespace ∨ n.kind = .fileNamespace) :
      Reports root filePath p (.space { name := n.textOf .name, filePath })
  | cls {n : Node} {s : String} (h : Reached root p n) (hk : n.kind = .cls)
      (hs : ScopeName root p s) : Reports root filePath p (.cls (classOf n filePath s))

/-- **Some entities are those of the declarations at certain places,** each of them once, in source
order. -/
def Lists (root : Node) (filePath : String) (at_ : Place → Prop) (es : List Entity) : Prop :=
  ∃ ps : List Place, ps.Pairwise Place.Before ∧ (∀ p, p ∈ ps ↔ Declared root p ∧ at_ p) ∧
    List.Forall₂ (Reports root filePath) ps es

section Lists

variable {filePath : String} {P Q : Place → Prop} {es fs : List Entity}

theorem Lists.nil (h : ∀ p, Declared root p → ¬P p) : Lists root filePath P [] := by
  refine ⟨[], List.Pairwise.nil, ?_, .nil⟩
  intro p
  constructor
  · intro hp
    cases hp
  · rintro ⟨hp, hP⟩
    exact absurd hP (h p hp)

theorem Lists.single {e : Entity} (hp : Declared root p) (he : Reports root filePath p e) :
    Lists root filePath (· = p) [e] := by
  refine ⟨[p], List.pairwise_singleton _ _, ?_, .cons he .nil⟩
  intro p'
  rw [List.mem_singleton]
  constructor
  · rintro rfl
    exact ⟨hp, rfl⟩
  · exact And.right

/-- Listings are joined where the places of the first come before those of the second. -/
theorem Lists.append (hes : Lists root filePath P es) (hfs : Lists root filePath Q fs)
    (hbefore : ∀ p q, P p → Q q → p.Before q) :
    Lists root filePath (fun p => P p ∨ Q p) (es ++ fs) := by
  obtain ⟨ps, hps, hmemp, hreps⟩ := hes
  obtain ⟨qs, hqs, hmemq, hreqs⟩ := hfs
  refine ⟨ps ++ qs, ?_, ?_, List.rel_append hreps hreqs⟩
  · rw [List.pairwise_append]
    refine ⟨hps, hqs, ?_⟩
    intro p hp q hq
    exact hbefore p q ((hmemp p).mp hp).2 ((hmemq q).mp hq).2
  · intro p
    rw [List.mem_append, hmemp, hmemq, and_or_left]

/-- Which places are asked for matters only where a class is declared. -/
theorem Lists.congr (h : Lists root filePath P es) (hPQ : ∀ p, Declared root p → (P p ↔ Q p)) :
    Lists root filePath Q es := by
  obtain ⟨ps, hps, hmem, hre⟩ := h
  refine ⟨ps, hps, ?_, hre⟩
  intro p
  rw [hmem]
  exact and_congr_right (hPQ p)

end Lists

/-! ### The walk -/

/-- At or below a child of `u` with a number from `k` on. -/
def FromChild (u : Place) (k : Nat) (p : Place) : Prop :=
  ∃ j, k ≤ j ∧ (j :: u) <:+ p

/-- Below `v`. -/
def Below (v p : Place) : Prop :=
  ∃ j, (j :: v) <:+ p

/-- What is at or below the children from `k` on is that child, or below it, or at or below those
that follow. -/
theorem fromChild_iff :
    FromChild u k p ↔ p = k :: u ∨ Below (k :: u) p ∨ FromChild u (k + 1) p := by
  constructor
  · rintro ⟨j, hj, hp⟩
    rcases Nat.eq_or_lt_of_le hj with rfl | hj
    · obtain ⟨rest, rfl⟩ := hp
      rcases List.eq_nil_or_concat rest with rfl | ⟨init, i, rfl⟩
      · exact .inl rfl
      · exact .inr (.inl ⟨i, init, by simp⟩)
    · exact .inr (.inr ⟨j, hj, hp⟩)
  · rintro (rfl | ⟨j, hj⟩ | ⟨j, hj, hp⟩)
    · exact ⟨k, Nat.le_refl k, List.suffix_refl _⟩
    · exact ⟨k, Nat.le_refl k, (List.suffix_cons _ _).trans hj⟩
    · exact ⟨j, Nat.le_of_succ_le hj, hp⟩

/-- What is below one child comes before what is below the next. -/
theorem Below.before_fromChild (hp : Below (k :: u) p) (hq : FromChild u (k + 1) q) :
    p.Before q := by
  obtain ⟨i, hi⟩ := hp
  obtain ⟨j, hj, hq⟩ := hq
  exact Place.before_of_lt hj ((List.suffix_cons _ _).trans hi) hq

section Walk

variable {filePath : String} {es fs : List Entity}

/-- **A node that is not reported** adds what is below it to what follows. -/
theorem lists_of_unreported (hr : Region root u r) (hn : r.children[k]? = some n)
    (hk : ¬n.kind.IsReported) (hes : Lists root filePath (Below (k :: u)) es)
    (hfs : Lists root filePath (FromChild u (k + 1)) fs) :
    Lists root filePath (FromChild u k) (es ++ fs) := by
  refine (hes.append hfs fun p q hp hq => hp.before_fromChild hq).congr ?_
  rintro p ⟨m, hm, hkm⟩
  constructor
  · intro h
    exact fromChild_iff.mpr (.inr h)
  · intro h
    rcases fromChild_iff.mp h with rfl | h
    · obtain rfl := hm.unique (.child hr hn)
      exact absurd hkm hk
    · exact h

/-- **A declaration that is reported** comes first, then what is below it, then what follows. -/
theorem lists_of_reported {e : Entity} (hr : Region root u r) (hn : r.children[k]? = some n)
    (hk : n.kind.IsReported) (he : Reports root filePath (k :: u) e)
    (hes : Lists root filePath (Below (k :: u)) es)
    (hfs : Lists root filePath (FromChild u (k + 1)) fs) :
    Lists root filePath (FromChild u k) (e :: (es ++ fs)) := by
  have hfirst : Lists root filePath (· = k :: u) [e] := .single ⟨n, .child hr hn, hk⟩ he
  have hrest := hes.append hfs fun p q hp hq => hp.before_fromChild hq
  refine (hfirst.append hrest ?_).congr fun p _ => fromChild_iff.symm
  rintro p q rfl (⟨j, hj⟩ | ⟨j, hj, hq⟩)
  · exact Place.before_of_cons_suffix hj
  · exact Place.before_of_lt hj (List.suffix_refl _) hq

/-- Nothing is declared below a node that is neither one of the lists nor has a body. -/
theorem lists_below_nil (hr : Region root u r) (hn : r.children[k]? = some n)
    (hlist : ¬n.kind.IsList) (hbody : n.kind.HasBody → n.child? .body = none) :
    Lists root filePath (Below (k :: u)) [] := by
  refine .nil ?_
  rintro p ⟨m, hm, -⟩ ⟨j, hj⟩
  rcases hm.within (.child hr hn) hj with h | ⟨hk, i, b, -, hb, -⟩
  · exact hlist h
  · have hsome := Node.child?_eq_some_iff.mpr ⟨i, hb⟩
    rw [hbody hk] at hsome
    cases hsome

/-- What is below one of the lists is at or below its children. -/
theorem below_iff_fromChild {v : Place} : Below v p ↔ FromChild v 0 p := by
  constructor
  · rintro ⟨j, hj⟩
    exact ⟨j, Nat.zero_le j, hj⟩
  · rintro ⟨j, -, hj⟩
    exact ⟨j, hj⟩

/-- What is declared below a declaration with a body is declared in the body. -/
theorem lists_below_of_body {i : Nat} {b : Node} (hr : Region root u r)
    (hn : r.children[k]? = some n) (hk : n.kind.HasBody) (hb : n.BodyAt i b)
    (hes : Lists root filePath (FromChild (i :: k :: u) 0) es) :
    Lists root filePath (Below (k :: u)) es := by
  refine hes.congr ?_
  rintro p ⟨m, hm, -⟩
  rw [← below_iff_fromChild]
  constructor
  · rintro ⟨j, hj⟩
    exact ⟨i, (List.suffix_cons _ _).trans hj⟩
  · rintro ⟨j, hj⟩
    rcases hm.within (.child hr hn) hj with h | ⟨-, i', b', j', hb', hp⟩
    · exact absurd hk h.not_hasBody
    · obtain ⟨rfl, -⟩ := hb.unique hb'
      exact ⟨j', hp⟩

/-- What the walk is asked to do: it stands before the child `k` of the region `u`, and the
namespace it holds is the one in scope there. -/
structure Stands (root : Node) (space : String) (ns : List Node) (u : Place) (k : Nat) : Prop where
  /-- The nodes still to be visited are the children from `k` on. -/
  region : ∃ r, Region root u r ∧ r.children.drop k = ns
  /-- The namespace is the one in scope. -/
  scope : ScopeName root (k :: u) space

theorem drop_eq_cons {ns : List Node} {cs : List Node} (h : cs.drop k = n :: ns) :
    cs[k]? = some n ∧ cs.drop (k + 1) = ns := by
  constructor
  · rw [← List.head?_drop, h, List.head?_cons]
  · rw [← List.tail_drop, h, List.tail_cons]

/-- After a node, the walk stands before the next one. -/
theorem Stands.next {space : String} {ns : List Node} (h : Stands root space (n :: ns) u k) :
    Stands root (if n.kind = .fileNamespace then n.textOf .name else space) ns u (k + 1) := by
  obtain ⟨⟨r, hr, hdrop⟩, hs⟩ := h
  obtain ⟨hn, hrest⟩ := drop_eq_cons hdrop
  exact ⟨⟨r, hr, hrest⟩, hs.step fun q d => inScope_next hr hn⟩

/-- Below one of the lists, the walk stands before its first child. -/
theorem Stands.list {space : String} {ns : List Node} (h : Stands root space (n :: ns) u k)
    (hk : n.kind.IsList) :
    Stands root (if n.kind = .fileNamespace then n.textOf .name else space) n.children
      (k :: u) 0 := by
  obtain ⟨⟨r, hr, hdrop⟩, hs⟩ := h
  obtain ⟨hn, -⟩ := drop_eq_cons hdrop
  exact ⟨⟨n, .list hr hn hk, rfl⟩, hs.step fun q d => inScope_list hr hn hk⟩

/-- In a body, the walk stands before its first child. -/
theorem Stands.body {space : String} {ns : List Node} {i : Nat} {b : Node}
    (h : Stands root space (n :: ns) u k) (hk : n.kind.HasBody) (hb : n.BodyAt i b) :
    Stands root (if n.kind = .blockNamespace then n.textOf .name else space) b.children
      (i :: k :: u) 0 := by
  obtain ⟨⟨r, hr, hdrop⟩, hs⟩ := h
  obtain ⟨hn, -⟩ := drop_eq_cons hdrop
  exact ⟨⟨b, .body hr hn hk hb, rfl⟩, hs.step fun q d => inScope_body hr hn hk hb⟩

/-- **The walk from anywhere** lists the declarations at and below the nodes still to be visited.
The induction is that of the walk, which has a function of its own for the body of a declaration. -/
theorem Stands.lists {space : String} {ns : List Node} (h : Stands root space ns u k) :
    Lists root filePath (FromChild u k) (walk filePath space ns) := by
  refine walk.induct
    (fun space n => ∀ u r k, Region root u r → r.children[k]? = some n → n.kind.HasBody →
      (∀ i b, n.BodyAt i b → Stands root space b.children (i :: k :: u) 0) →
      Lists root filePath (Below (k :: u)) (walk.body filePath space n))
    (fun space ns => ∀ u k, Stands root space ns u k →
      Lists root filePath (FromChild u k) (walk filePath space ns))
    ?_ ?_ ?_ ?_ ?_ ?_ ?_ ?_ ?_ space ns u k h
  · -- a declaration without a body
    intro space n hnone u r k hr hn hk _
    rw [walk.body]
    split
    · exact lists_below_nil hr hn (fun hlist => hlist.not_hasBody hk) fun _ => hnone
    · next b hb => cases hnone.symm.trans hb
  · -- a declaration with a body
    intro space n b hsome ih u r k hr hn hk hstands
    obtain ⟨i, hb⟩ := Node.child?_eq_some_iff.mp hsome
    rw [walk.body]
    split
    · next hnone => cases hsome.symm.trans hnone
    · next b' hb' =>
      obtain rfl := Option.some.inj (hsome.symm.trans hb')
      exact lists_below_of_body hr hn hk hb (ih _ _ (hstands i b hb))
  · -- no node is left, so no child from `k` on is there to be reached
    intro space u k h
    obtain ⟨⟨r, hr, hdrop⟩, -⟩ := h
    rw [walk]
    refine .nil ?_
    rintro p ⟨m, hm, -⟩ ⟨j, hj, hp⟩
    obtain ⟨c, hc⟩ := Node.exists_nodeAt_of_suffix hp hm.nodeAt
    rw [Node.nodeAt, hr.nodeAt, Option.bind_some] at hc
    have hlt := (List.getElem?_eq_some_iff.mp hc).1
    have hle := List.drop_eq_nil_iff.mp hdrop
    omega
  · -- a block namespace
    intro space n rest hkind name ihbody ihrest u k h
    obtain ⟨⟨r, hr, hdrop⟩, hs⟩ := id h
    obtain ⟨hn, -⟩ := drop_eq_cons hdrop
    rw [walk, hkind]
    have hnext := h.next
    rw [hkind, if_neg (by decide)] at hnext
    refine lists_of_reported hr hn (.inl hkind) (.space (.child hr hn) (.inl hkind))
      (ihbody u r k hr hn (.inl hkind) ?_) (ihrest u (k + 1) hnext)
    intro i b hb
    have hinner := h.body (.inl hkind) hb
    rw [if_pos hkind] at hinner
    exact hinner
  · -- a file namespace, whose name holds below it and from here on
    intro space n rest hkind name ihinner ihrest u k h
    obtain ⟨⟨r, hr, hdrop⟩, hs⟩ := id h
    obtain ⟨hn, -⟩ := drop_eq_cons hdrop
    rw [walk, hkind]
    have hnext := h.next
    have hinner := h.list (.inl hkind)
    rw [if_pos hkind] at hnext hinner
    refine lists_of_reported hr hn (.inr (.inl hkind)) (.space (.child hr hn) (.inr hkind))
      ((ihinner (k :: u) 0 hinner).congr ?_) (ihrest u (k + 1) hnext)
    intro p _
    exact below_iff_fromChild.symm
  · -- a class
    intro space n rest hkind ihbody ihrest u k h
    obtain ⟨⟨r, hr, hdrop⟩, hs⟩ := id h
    obtain ⟨hn, -⟩ := drop_eq_cons hdrop
    rw [walk, hkind]
    have hnext := h.next
    rw [hkind, if_neg (by decide)] at hnext
    refine lists_of_reported hr hn (.inr (.inr hkind)) (.cls (.child hr hn) hkind hs)
      (ihbody u r k hr hn (.inr (.inl hkind)) ?_) (ihrest u (k + 1) hnext)
    intro i b hb
    have hinner := h.body (.inr (.inl hkind)) hb
    rw [hkind, if_neg (by decide)] at hinner
    exact hinner
  · -- a type that is entered for the classes in it
    intro space n rest hkind ihbody ihrest u k h
    obtain ⟨⟨r, hr, hdrop⟩, -⟩ := id h
    obtain ⟨hn, -⟩ := drop_eq_cons hdrop
    rw [walk, hkind]
    have hnext := h.next
    rw [hkind, if_neg (by decide)] at hnext
    refine lists_of_unreported hr hn (by simp [NodeKind.IsReported, hkind])
      (ihbody u r k hr hn (.inr (.inr hkind)) ?_) (ihrest u (k + 1) hnext)
    intro i b hb
    have hinner := h.body (.inr (.inr hkind)) hb
    rw [hkind, if_neg (by decide)] at hinner
    exact hinner
  · -- a list of declarations
    intro space n rest hkind ihinner ihrest u k h
    obtain ⟨⟨r, hr, hdrop⟩, -⟩ := id h
    obtain ⟨hn, -⟩ := drop_eq_cons hdrop
    rw [walk, hkind]
    have hnext := h.next
    have hinner := h.list (.inr hkind)
    rw [hkind, if_neg (by decide)] at hnext hinner
    refine lists_of_unreported hr hn (by simp [NodeKind.IsReported, hkind])
      ((ihinner (k :: u) 0 hinner).congr ?_) (ihrest u (k + 1) hnext)
    intro p _
    exact below_iff_fromChild.symm
  · -- anything else is passed over with all that is below it
    intro space n rest h₁ h₂ h₃ h₄ h₅ ihrest u k h
    obtain ⟨⟨r, hr, hdrop⟩, -⟩ := id h
    obtain ⟨hn, -⟩ := drop_eq_cons hdrop
    have hnext := h.next
    rw [if_neg h₂] at hnext
    have hbody : ¬n.kind.HasBody := not_or.mpr ⟨h₁, not_or.mpr ⟨h₃, h₄⟩⟩
    have hreported : ¬n.kind.IsReported := not_or.mpr ⟨h₁, not_or.mpr ⟨h₂, h₃⟩⟩
    have hempty : Lists root filePath (Below (k :: u)) [] :=
      lists_below_nil hr hn (not_or.mpr ⟨h₂, h₅⟩) fun hk => absurd hk hbody
    have hwalk : walk filePath space (n :: rest) = walk filePath space rest := by
      rw [walk]
      split
      · exact absurd ‹_› h₁
      · exact absurd ‹_› h₂
      · exact absurd ‹_› h₃
      · exact absurd ‹_› h₄
      · exact absurd ‹_› h₅
      · rfl
    rw [hwalk]
    exact lists_of_unreported hr hn hreported hempty (ihrest u (k + 1) hnext)

end Walk

/-- **The walk from the root** lists all declarations that are reached. -/
theorem lists_walk (root : Node) (filePath : String) :
    Lists root filePath (fun _ => True) (walk filePath globalNamespace root.children) := by
  have hstands : Stands root globalNamespace root.children [] 0 :=
    ⟨⟨root, .root, rfl⟩, scopeName_start⟩
  refine hstands.lists.congr ?_
  -- whatever is reached is at or below a child of the root
  rintro p ⟨m, hm, -⟩
  refine iff_of_true ?_ trivial
  cases hm with
  | @child u k r _ hr hn =>
    exact below_iff_fromChild.mp (Place.exists_cons_suffix List.nil_suffix k)

/-- **Every declaration is reported under the right namespace.** Whatever the tree, the walk
reports, in source order and once each, the namespaces and classes that are reached from the root
through bodies of block namespaces, file namespaces, bodies of classes, structs, records and
interfaces, and lists of declarations only. The namespace of a class is the innermost one in scope
at its place, which is unique, or the global one where none is in scope. The entities of a source
are what the walk reports of its tree. -/
theorem walk_lists_reached_declarations (root : Node) (filePath : String) :
    (∃ ps : List Place, ps.Pairwise Place.Before ∧ (∀ p, p ∈ ps ↔ Declared root p) ∧
      List.Forall₂ (Reports root filePath) ps (walk filePath globalNamespace root.children)) ∧
    ∀ p s t, ScopeName root p s → ScopeName root p t → s = t := by
  obtain ⟨ps, hps, hmem, hreports⟩ := lists_walk root filePath
  refine ⟨⟨ps, hps, ?_, hreports⟩, fun p s t => ScopeName.unique⟩
  intro p
  rw [hmem, and_iff_left trivial]

end SourceAtlas.CSharp
