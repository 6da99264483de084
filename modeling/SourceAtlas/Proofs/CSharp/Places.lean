import Mathlib.Data.List.Infix
import Mathlib.Data.List.Lex
import SourceAtlas.CSharp.Node

/-!
# Places in a syntax tree

A place says how to come from the root of a tree to one of its nodes. Two nodes may look alike, but
they never stand at the same place, so what is said about the single declarations of a file is said
about places. A place lists the child numbers on the way, the last step first: what stands above a
place is then a suffix of it.

* `Place.Before` — source order: a node comes before its descendants, and these before the siblings
  that follow it;
* `Region` — the nodes whose children are searched for declarations: the root, the bodies of
  namespaces and types, file namespaces and lists of declarations;
* `Reached` — the children of such nodes;
* `Region.isList_of_reached` — a declaration with a body is never searched itself, only its body is;
* `Reached.within` — so whatever is reached below a declaration is reached through its body.
-/

namespace SourceAtlas.CSharp

/-- **A place in a tree:** the numbers of the children on the way to it, the last step first. -/
abbrev Place := List Nat

namespace Place

/-- **Source order,** in which a node comes before its descendants. -/
def Before (p q : Place) : Prop :=
  p.reverse < q.reverse

theorem Before.asymm {p q : Place} (h : Before p q) : ¬Before q p :=
  List.lt_asymm h

/-- A node comes before what is below it. -/
theorem before_of_cons_suffix {p q : Place} {j : Nat} (h : (j :: p) <:+ q) : Before p q := by
  obtain ⟨rest, rfl⟩ := h
  have hrev : (rest ++ j :: p).reverse = p.reverse ++ j :: rest.reverse := by simp
  rw [Before, hrev]
  nth_rewrite 1 [← List.append_nil p.reverse]
  exact List.append_left_lt List.Lex.nil

/-- What is at or below a child comes before what is at or below a later one. -/
theorem before_of_lt {u p q : Place} {i j : Nat} (hij : i < j) (hp : (i :: u) <:+ p)
    (hq : (j :: u) <:+ q) : Before p q := by
  obtain ⟨below, rfl⟩ := hp
  obtain ⟨below', rfl⟩ := hq
  have hrev : ∀ (k : Nat) (rest : Place),
      (rest ++ k :: u).reverse = u.reverse ++ k :: rest.reverse := by simp
  rw [Before, hrev, hrev]
  exact List.append_left_lt (List.Lex.rel hij)

/-- What is strictly below a place is at or below one of its children. -/
theorem exists_cons_suffix {v w : Place} (h : v <:+ w) (j : Nat) : ∃ i, (i :: v) <:+ j :: w := by
  obtain ⟨rest, rfl⟩ := h
  induction rest generalizing j with
  | nil => exact ⟨j, List.suffix_refl _⟩
  | cons k rest ih =>
    obtain ⟨i, hi⟩ := ih k
    exact ⟨i, hi.trans (List.suffix_cons _ _)⟩

end Place

/-! ### Nodes at places -/

/-- The node at a place. -/
def Node.nodeAt (root : Node) : Place → Option Node
  | [] => some root
  | k :: u => (root.nodeAt u).bind fun r => r.children[k]?

/-- `b` is the body of `n`, its child with the number `i`. -/
def Node.BodyAt (n : Node) (i : Nat) (b : Node) : Prop :=
  n.children.findIdx? (·.role == some .body) = some i ∧ n.children[i]? = some b

/-- Kinds of declaration that are searched through their body. -/
def NodeKind.HasBody (k : NodeKind) : Prop :=
  k = .blockNamespace ∨ k = .cls ∨ k = .container

/-- Kinds of node that are searched themselves. -/
def NodeKind.IsList (k : NodeKind) : Prop :=
  k = .fileNamespace ∨ k = .declarations

theorem NodeKind.IsList.not_hasBody {k : NodeKind} (h : k.IsList) : ¬k.HasBody := by
  rcases h with rfl | rfl <;> simp [NodeKind.HasBody]

/-- Above a node there are nodes. -/
theorem Node.exists_nodeAt_of_suffix {root n : Node} {v p : Place} (hv : v <:+ p)
    (h : root.nodeAt p = some n) : ∃ m, root.nodeAt v = some m := by
  obtain ⟨rest, rfl⟩ := hv
  induction rest generalizing n with
  | nil => exact ⟨n, h⟩
  | cons k rest ih =>
    obtain ⟨r, hr, -⟩ := Option.bind_eq_some_iff.mp h
    exact ih hr

/-- The body of a declaration, by its number. -/
theorem Node.child?_eq_some_iff {n b : Node} :
    n.child? .body = some b ↔ ∃ i, n.BodyAt i b := by
  unfold Node.child? Node.BodyAt
  induction n.children with
  | nil => simp
  | cons c cs ih =>
    rw [List.find?_cons, List.findIdx?_cons]
    cases c.role == some Role.body with
    | true => simp
    | false =>
      rw [ih]
      constructor
      · rintro ⟨i, hi, hb⟩
        exact ⟨i + 1, by simp [hi], hb⟩
      · rintro ⟨i, hi, hb⟩
        obtain ⟨i', hi', rfl⟩ := Option.map_eq_some_iff.mp hi
        exact ⟨i', hi', hb⟩

/-- A declaration has one body. -/
theorem Node.BodyAt.unique {n b b' : Node} {i i' : Nat} (h : n.BodyAt i b) (h' : n.BodyAt i' b') :
    i = i' ∧ b = b' := by
  obtain rfl : i = i' := Option.some.inj (h.1.symm.trans h'.1)
  exact ⟨rfl, Option.some.inj (h.2.symm.trans h'.2)⟩

/-! ### What is searched and what is reached -/

/-- **The nodes whose children are searched for declarations:** the root, and from there file
namespaces, lists of declarations, and the bodies of block namespaces, classes, structs, records and
interfaces. -/
inductive Region (root : Node) : Place → Node → Prop
  | root : Region root [] root
  | list {u : Place} {k : Nat} {r n : Node} (hr : Region root u r) (hn : r.children[k]? = some n)
      (hk : n.kind.IsList) : Region root (k :: u) n
  | body {u : Place} {k i : Nat} {r n b : Node} (hr : Region root u r)
      (hn : r.children[k]? = some n) (hk : n.kind.HasBody) (hb : n.BodyAt i b) :
      Region root (i :: k :: u) b

/-- **The nodes that are reached from the root** through such nodes only. -/
inductive Reached (root : Node) : Place → Node → Prop
  | child {u : Place} {k : Nat} {r n : Node} (hr : Region root u r)
      (hn : r.children[k]? = some n) : Reached root (k :: u) n

variable {root r n m : Node} {u v p : Place} {k : Nat}

/-- What is searched is in the tree. -/
theorem Region.nodeAt (h : Region root u r) : root.nodeAt u = some r := by
  induction h with
  | root => rfl
  | list hr hn hk ih => rw [Node.nodeAt, ih, Option.bind_some, hn]
  | body hr hn hk hb ih => rw [Node.nodeAt, Node.nodeAt, ih, Option.bind_some, hn,
      Option.bind_some, hb.2]

theorem Reached.nodeAt (h : Reached root p n) : root.nodeAt p = some n := by
  obtain ⟨hr, hn⟩ := h
  rw [Node.nodeAt, hr.nodeAt, Option.bind_some, hn]

/-- One node is reached at a place. -/
theorem Reached.unique (h : Reached root p n) (h' : Reached root p m) : n = m :=
  Option.some.inj (h.nodeAt.symm.trans h'.nodeAt)

/-- A node that is reached and searched is a file namespace or a list of declarations. -/
theorem Region.isList_of_reached (h : Region root u r) (hn : Reached root u n) :
    n.kind.IsList := by
  induction u generalizing r n with
  | nil => cases hn
  | cons i v ih =>
    cases h with
    | list hr hm hk =>
      obtain rfl := hn.unique (.child hr hm)
      exact hk
    | body hr hm hk hb =>
      -- a body is reached only if the declaration itself is searched, which it is not
      obtain ⟨hv, -⟩ := hn
      exact absurd hk (ih hv (.child hr hm)).not_hasBody

/-- What is searched at or below a node that is reached is searched because the node is one of the
lists, or because it has a body. -/
theorem Region.within (h : Region root p r) (hn : Reached root v n) (hv : v <:+ p) :
    n.kind.IsList ∨ n.kind.HasBody ∧ ∃ i b, n.BodyAt i b ∧ (i :: v) <:+ p := by
  induction h with
  | root =>
    -- the root is not reached, it is where the walk starts
    obtain rfl := List.suffix_nil.mp hv
    cases hn
  | list hr hm hk ih =>
    rcases List.suffix_cons_iff.mp hv with rfl | hv
    · -- the list itself
      obtain rfl := hn.unique (.child hr hm)
      exact .inl hk
    · refine (ih hv).imp_right ?_
      rintro ⟨hbody, i, b, hb, hi⟩
      exact ⟨hbody, i, b, hb, hi.trans (List.suffix_cons _ _)⟩
  | body hr hm hk hb ih =>
    rcases List.suffix_cons_iff.mp hv with rfl | hv
    · -- a body that is also reached is a list
      exact .inl ((Region.body hr hm hk hb).isList_of_reached hn)
    · rcases List.suffix_cons_iff.mp hv with rfl | hv
      · obtain rfl := hn.unique (.child hr hm)
        exact .inr ⟨hk, _, _, hb, List.suffix_refl _⟩
      · refine (ih hv).imp_right ?_
        rintro ⟨hbody, i, b, hb, hi⟩
        exact ⟨hbody, i, b, hb, (hi.trans (List.suffix_cons _ _)).trans (List.suffix_cons _ _)⟩

/-- **What is reached below a node** is reached because the node is one of the lists, or through its
body. -/
theorem Reached.within {j : Nat} (hm : Reached root p m) (hn : Reached root v n)
    (hv : (j :: v) <:+ p) :
    n.kind.IsList ∨ n.kind.HasBody ∧ ∃ i b j', n.BodyAt i b ∧ (j' :: i :: v) <:+ p := by
  cases hm with
  | @child w k r _ hr hk =>
    have hvw : v <:+ w := by
      rcases List.suffix_cons_iff.mp hv with heq | hsuffix
      · rw [(List.cons.inj heq).2]
      · exact (List.suffix_cons _ _).trans hsuffix
    refine (hr.within hn hvw).imp_right ?_
    rintro ⟨hbody, i, b, hb, hi⟩
    obtain ⟨j', hj'⟩ := Place.exists_cons_suffix hi k
    exact ⟨hbody, i, b, j', hb, hj'⟩

end SourceAtlas.CSharp
