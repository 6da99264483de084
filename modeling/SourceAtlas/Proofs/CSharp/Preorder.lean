import Mathlib.Computability.StateTransition
import SourceAtlas.Extract.CSharp
import SourceAtlas.Proofs.CSharp.Places

/-!
# The nodes below a node, in source order

The nodes of a kind below a node are found by a loop over a stack. Said by recursion, they are taken
from the nodes of the tree in pre-order: a node, what is below its first child, what is below the
next one, and so on. Said without either, they are the nodes of the kind at all places below the
root, listed by their places.

A stack has its top at the end, so children are put on it in reverse, and what it holds is read from
the end. What carries the loop is that the nodes found so far, and those that will be found in what
is on the stack, are together the nodes that were to be found (`Traversal.outcome_of_next?`).

* `Node.preorder`, `Node.preorders` — the nodes of a tree, and of several;
* `Node.collect_eq_filter_preorders` — a worklist and the recursion find the same nodes;
* `Traversal.reaches_end` — the loop over a stack ends, and finds the same nodes too;
* `Node.located` — the nodes of a tree with their places, in pre-order;
* `descendants_in_source_order` — the descendants of a kind, and what this means for nested classes.
-/

namespace SourceAtlas.CSharp

open SourceAtlas.Extract.CSharp (classOf methodOf)
open StateTransition (Reaches)

namespace Node

/-! ### Recursive pre-order -/

mutual

/-- **The nodes of a tree in pre-order:** the root, then the nodes of the trees below it. -/
def preorder : Node → List Node
  | .mk kind role text children => .mk kind role text children :: preorders children

/-- The nodes of several trees in pre-order, tree by tree. -/
def preorders : List Node → List Node
  | [] => []
  | n :: ns => n.preorder ++ preorders ns

end

/-- A node comes before all that is below it. -/
theorem preorder_eq (n : Node) : n.preorder = n :: preorders n.children := by
  cases n
  rfl

/-- The nodes of two lists of trees, one list after the other. -/
theorem preorders_append (ns ms : List Node) :
    preorders (ns ++ ms) = preorders ns ++ preorders ms := by
  induction ns with
  | nil => rfl
  | cons n ns ih => rw [List.cons_append, preorders, preorders, ih, List.append_assoc]

/-- The nodes of one tree stand together among those of a list of trees. -/
theorem preorder_infix_of_mem {m : Node} {ns : List Node} (h : m ∈ ns) :
    m.preorder <:+: preorders ns := by
  obtain ⟨front, back, rfl⟩ := List.append_of_mem h
  rw [preorders_append, preorders, ← List.append_assoc]
  exact List.infix_append _ _ _

/-! ### The worklist -/

/-- One step of the walk: the node is kept if it is of the kind, and its children come next. -/
theorem collect_cons (k : NodeKind) (n : Node) (pending : List Node) :
    collect k (n :: pending) =
      (if n.kind = k then [n] else []) ++ collect k (n.children ++ pending) := by
  rw [collect]
  split_ifs
  · rfl
  · rfl

theorem sizes_reverse (ns : List Node) : sizes ns.reverse = sizes ns := by
  induction ns with
  | nil => rfl
  | cons n ns ih =>
    rw [List.reverse_cons, sizes_append, ih, sizes, sizes, sizes, Nat.add_zero, Nat.add_comm]

/-- **A worklist finds what the recursion finds.** -/
theorem collect_eq_filter_preorders (k : NodeKind) (ns : List Node) :
    collect k ns = (preorders ns).filter (·.kind = k) := by
  fun_induction collect k ns with
  | case1 => rfl
  | case2 n pending hk ih =>
    rw [ih, preorders, preorder_eq, List.cons_append, ← preorders_append,
      List.filter_cons, if_pos (decide_eq_true hk)]
  | case3 n pending hk ih =>
    rw [ih, preorders, preorder_eq, List.cons_append, ← preorders_append,
      List.filter_cons, if_neg (by rwa [decide_eq_true_iff])]

end Node

/-! ### The loop over a stack -/

/-- **Where the loop stands.** -/
structure Traversal where
  /-- The nodes that were found, the first one first. -/
  found : List Node
  /-- The trees that are still to be visited, the next one last. -/
  stack : List Node

namespace Traversal

/-- **One round of the loop:** the tree on top is taken from the stack, its root is looked at, and
its children are put on the stack in reverse. There is no round with an empty stack. -/
def next? (k : NodeKind) (s : Traversal) : Option Traversal :=
  s.stack.getLast?.map fun n =>
    { found := if n.kind = k then s.found ++ [n] else s.found
      stack := s.stack.dropLast ++ n.children.reverse }

/-- The nodes that were found and those that are still to be found. -/
def outcome (k : NodeKind) (s : Traversal) : List Node :=
  s.found ++ Node.collect k s.stack.reverse

variable {k : NodeKind} {s t : Traversal}

/-- **What a round does** to a stack with a tree on top. -/
theorem next?_concat (k : NodeKind) (found rest : List Node) (n : Node) :
    next? k ⟨found, rest ++ [n]⟩ =
      some ⟨found ++ (if n.kind = k then [n] else []), rest ++ n.children.reverse⟩ := by
  rw [next?, List.getLast?_concat, List.dropLast_concat, Option.map_some]
  split_ifs
  · rfl
  · rw [List.append_nil]

/-- **A round changes nothing of what is to be found,** and one node less is left to be visited. -/
theorem outcome_of_next? (h : s.next? k = some t) :
    t.outcome k = s.outcome k ∧ Node.sizes t.stack < Node.sizes s.stack := by
  obtain ⟨found, stack⟩ := s
  rcases List.eq_nil_or_concat stack with rfl | ⟨rest, n, rfl⟩
  · cases h
  · rw [List.concat_eq_append, next?_concat] at h
    obtain rfl := Option.some.inj h
    rw [List.concat_eq_append]
    constructor
    · -- the children were reversed once on the stack, and the stack is read in reverse
      have hstack : (rest ++ n.children.reverse).reverse = n.children ++ rest.reverse := by
        rw [List.reverse_append, List.reverse_reverse]
      have htop : (rest ++ [n]).reverse = n :: rest.reverse := List.reverse_concat
      calc outcome k ⟨found ++ (if n.kind = k then [n] else []), rest ++ n.children.reverse⟩
        _ = found ++ ((if n.kind = k then [n] else []) ++
            Node.collect k (n.children ++ rest.reverse)) := by
          rw [outcome, hstack, List.append_assoc]
        _ = found ++ Node.collect k (n :: rest.reverse) := by rw [Node.collect_cons]
        _ = outcome k ⟨found, rest ++ [n]⟩ := by rw [outcome, htop]
    · simp only [Node.sizes_append, Node.sizes_reverse, Node.sizes, Node.size_eq n]
      omega

/-- **The loop ends,** with the stack empty and everything found. -/
theorem reaches_end (k : NodeKind) (s : Traversal) : Reaches (next? k) s ⟨s.outcome k, []⟩ := by
  -- on the number of nodes on the stack and below, of which every round visits one
  induction hsize : Node.sizes s.stack using Nat.strongRecOn generalizing s with
  | ind size ih =>
    cases hround : s.next? k with
    | none =>
      obtain ⟨found, stack⟩ := s
      obtain rfl : stack = [] := List.getLast?_eq_none_iff.mp (Option.map_eq_none_iff.mp hround)
      rw [outcome, List.reverse_nil, Node.collect, List.append_nil]
      exact .refl
    | some t =>
      obtain ⟨houtcome, hlt⟩ := outcome_of_next? hround
      rw [← houtcome]
      exact .head hround (ih _ (hsize ▸ hlt) t rfl)

end Traversal

/-! ### Places -/

namespace Node

mutual

/-- The nodes of a tree with their places, in pre-order. The root stands at the place `u`. -/
def located (u : Place) : Node → List (Place × Node)
  | .mk kind role text children => (u, .mk kind role text children) :: locatedFrom u 0 children

/-- The nodes of several trees with their places. The trees are children of `u`, from the number `i`
on. -/
def locatedFrom (u : Place) (i : Nat) : List Node → List (Place × Node)
  | [] => []
  | n :: ns => located (i :: u) n ++ locatedFrom u (i + 1) ns

end

/-- Going down in two stages. -/
theorem nodeAt_append (root : Node) (q u : Place) :
    root.nodeAt (q ++ u) = (root.nodeAt u).bind fun n => n.nodeAt q := by
  induction q with
  | nil => exact (Option.bind_fun_some _).symm
  | cons j q ih =>
    rw [List.cons_append, nodeAt, ih, Option.bind_assoc]
    rfl

/-- **The first step to a place** leads to a child. -/
theorem nodeAt_eq_some_iff {n m : Node} {p : Place} :
    n.nodeAt p = some m ↔
      p = [] ∧ m = n ∨ ∃ q j c, p = q ++ [j] ∧ n.children[j]? = some c ∧ c.nodeAt q = some m := by
  -- a place is read from its end, which is the first step down
  rcases List.eq_nil_or_concat p with rfl | ⟨q, j, rfl⟩
  · constructor
    · intro h
      exact .inl ⟨rfl, (Option.some.inj h).symm⟩
    · rintro (⟨-, rfl⟩ | ⟨q, j, c, heq, -⟩)
      · rfl
      · exact absurd heq.symm (List.append_ne_nil_of_right_ne_nil q (List.cons_ne_nil j []))
  · have hchild : n.nodeAt [j] = n.children[j]? := rfl
    rw [List.concat_eq_append, nodeAt_append, hchild, Option.bind_eq_some_iff]
    constructor
    · rintro ⟨c, hc, hm⟩
      exact .inr ⟨q, j, c, rfl, hc, hm⟩
    · rintro (⟨heq, -⟩ | ⟨q', j', c, heq, hc, hm⟩)
      · exact absurd heq (List.append_ne_nil_of_right_ne_nil q (List.cons_ne_nil j []))
      · obtain ⟨rfl, hlast⟩ := List.append_inj' heq rfl
        obtain rfl := List.head_eq_of_cons_eq hlast
        exact ⟨c, hc, hm⟩

mutual

/-- The nodes with their places are the nodes, in the same order. -/
theorem map_snd_located : (n : Node) → (u : Place) → (n.located u).map Prod.snd = n.preorder
  | .mk kind role text children, u => by
    rw [located, preorder, List.map_cons, map_snd_locatedFrom children u 0]

theorem map_snd_locatedFrom :
    (ns : List Node) → (u : Place) → (i : Nat) → (locatedFrom u i ns).map Prod.snd = preorders ns
  | [], u, i => rfl
  | n :: ns, u, i => by
    rw [locatedFrom, preorders, List.map_append, map_snd_located n (i :: u),
      map_snd_locatedFrom ns u (i + 1)]

end

mutual

/-- The nodes listed with a place are those at that place. -/
theorem mem_located : (n : Node) → (u p : Place) → (m : Node) →
    ((p, m) ∈ n.located u ↔ ∃ q, p = q ++ u ∧ n.nodeAt q = some m)
  | .mk kind role text children, u, p, m => by
    rw [located, List.mem_cons, mem_locatedFrom children u 0 p m]
    simp only [Nat.zero_add]
    constructor
    · rintro (heq | ⟨q, j, c, rfl, hc, hq⟩)
      · obtain ⟨rfl, rfl⟩ := Prod.mk.inj heq
        exact ⟨[], rfl, rfl⟩
      · exact ⟨q ++ [j], List.append_cons q j u,
          nodeAt_eq_some_iff.mpr (.inr ⟨q, j, c, rfl, hc, hq⟩)⟩
    · rintro ⟨q, rfl, hq⟩
      rcases nodeAt_eq_some_iff.mp hq with ⟨rfl, rfl⟩ | ⟨q, j, c, rfl, hc, hq⟩
      · exact .inl rfl
      · exact .inr ⟨q, j, c, (List.append_cons q j u).symm, hc, hq⟩

/-- The same for a list of trees, whose places are counted from a number. -/
theorem mem_locatedFrom : (ns : List Node) → (u : Place) → (i : Nat) → (p : Place) → (m : Node) →
    ((p, m) ∈ locatedFrom u i ns ↔
      ∃ q j c, p = q ++ (i + j) :: u ∧ ns[j]? = some c ∧ c.nodeAt q = some m)
  | [], u, i, p, m => by simp [locatedFrom]
  | n :: ns, u, i, p, m => by
    rw [locatedFrom, List.mem_append, mem_located n (i :: u) p m, mem_locatedFrom ns u (i + 1) p m]
    constructor
    · rintro (⟨q, rfl, hq⟩ | ⟨q, j, c, rfl, hc, hq⟩)
      · exact ⟨q, 0, n, rfl, rfl, hq⟩
      · exact ⟨q, j + 1, c, by rw [Nat.add_right_comm, Nat.add_assoc], hc, hq⟩
    · rintro ⟨q, j, c, rfl, hc, hq⟩
      cases j with
      | zero =>
        obtain rfl := Option.some.inj hc
        exact .inl ⟨q, rfl, hq⟩
      | succ j => exact .inr ⟨q, j, c, by rw [Nat.add_right_comm, Nat.add_assoc], hc, hq⟩

end

mutual

/-- **The places of the nodes ascend.** -/
theorem pairwise_located : (n : Node) → (u : Place) →
    (n.located u).Pairwise fun a b => a.1.Before b.1
  | .mk kind role text children, u => by
    rw [located, List.pairwise_cons]
    refine ⟨?_, pairwise_locatedFrom children u 0⟩
    rintro ⟨p, m⟩ hp
    obtain ⟨q, j, c, rfl, -, -⟩ := (mem_locatedFrom children u 0 p m).mp hp
    exact Place.before_of_cons_suffix (List.suffix_append q _)

theorem pairwise_locatedFrom : (ns : List Node) → (u : Place) → (i : Nat) →
    (locatedFrom u i ns).Pairwise fun a b => a.1.Before b.1
  | [], u, i => List.Pairwise.nil
  | n :: ns, u, i => by
    rw [locatedFrom, List.pairwise_append]
    refine ⟨pairwise_located n (i :: u), pairwise_locatedFrom ns u (i + 1), ?_⟩
    rintro ⟨p, m⟩ hp ⟨p', m'⟩ hp'
    obtain ⟨q, rfl, -⟩ := (mem_located n (i :: u) p m).mp hp
    obtain ⟨q', j, c, rfl, -, -⟩ := (mem_locatedFrom ns u (i + 1) p' m').mp hp'
    exact Place.before_of_lt (Nat.lt_add_right j (Nat.lt_succ_self i)) (List.suffix_append q _)
      (List.suffix_append q' _)

end

/-- The places below a node. -/
theorem mem_locatedFrom_children {n m : Node} {p : Place} :
    (p, m) ∈ locatedFrom [] 0 n.children ↔ p ≠ [] ∧ n.nodeAt p = some m := by
  rw [mem_locatedFrom]
  simp only [Nat.zero_add]
  constructor
  · rintro ⟨q, j, c, rfl, hc, hq⟩
    exact ⟨List.append_ne_nil_of_right_ne_nil q (List.cons_ne_nil j []),
      nodeAt_eq_some_iff.mpr (.inr ⟨q, j, c, rfl, hc, hq⟩)⟩
  · rintro ⟨hne, hp⟩
    exact (nodeAt_eq_some_iff.mp hp).resolve_left fun h => hne h.1

/-- **What is below a node of a tree** stands together in the pre-order of the tree. -/
theorem preorders_infix_of_nodeAt {n m : Node} {p : Place} (h : n.nodeAt p = some m) :
    preorders m.children <:+: preorders n.children := by
  induction p generalizing m with
  | nil =>
    obtain rfl := Option.some.inj h
    exact List.infix_rfl
  | cons j u ih =>
    obtain ⟨r, hr, hm⟩ := Option.bind_eq_some_iff.mp h
    have hbelow : preorders m.children <:+: m.preorder := by
      rw [preorder_eq]
      exact (List.suffix_cons m _).isInfix
    exact (hbelow.trans (preorder_infix_of_mem (List.mem_of_getElem? hm))).trans (ih hr)

/-- The walk lists the nodes of a kind in preorder, without the node itself. -/
theorem descendants_eq (n : Node) (k : NodeKind) :
    n.descendants k = (preorders n.children).filter (·.kind = k) :=
  collect_eq_filter_preorders k n.children

/-- What is listed below a node stands together in what is listed below any node above it. -/
theorem descendants_infix_of_nodeAt {n m : Node} {p : Place} (h : n.nodeAt p = some m)
    (k : NodeKind) : m.descendants k <:+: n.descendants k := by
  rw [descendants_eq, descendants_eq]
  exact (preorders_infix_of_nodeAt h).filter _

end Node

/-- **The descendants of a kind, in source order.** The loop over a stack ends with them, and they
are those that recursive pre-order has. They stand at the places below the node, each place once and
in source order, and every node of the kind is among them, also one that stands below another. So
wherever a class stands in another one, its methods stand together among the methods of the
other. -/
theorem descendants_in_source_order (n : Node) (k : NodeKind) :
    (⟨n.descendants k, []⟩ : Traversal) ∈
        StateTransition.eval (Traversal.next? k) ⟨[], n.children.reverse⟩ ∧
    n.descendants k = (Node.preorders n.children).filter (·.kind = k) ∧
    (∃ listed : List (Place × Node), n.descendants k = listed.map Prod.snd ∧
      listed.Pairwise (fun a b => a.1.Before b.1) ∧
      ∀ p m, (p, m) ∈ listed ↔ p ≠ [] ∧ n.nodeAt p = some m ∧ m.kind = k) ∧
    ∀ p q outer inner, n.nodeAt p = some outer → n.nodeAt q = some inner → p <:+ q →
      ∀ filePath space space', (classOf inner filePath space).methods <:+:
        (classOf outer filePath space').methods := by
  refine ⟨?_, n.descendants_eq k, ?_, ?_⟩
  · -- the loop keeps its stack in reverse
    have hend := Traversal.reaches_end k ⟨[], n.children.reverse⟩
    rw [Traversal.outcome, List.reverse_reverse, List.nil_append] at hend
    exact StateTransition.mem_eval.mpr ⟨hend, rfl⟩
  · -- each node is listed with its place, and the places ascend
    refine ⟨(Node.locatedFrom [] 0 n.children).filter (·.2.kind = k), ?_,
      (Node.pairwise_locatedFrom n.children [] 0).filter _, fun p m => ?_⟩
    · rw [n.descendants_eq, ← Node.map_snd_locatedFrom n.children [] 0, List.filter_map]
      rfl
    · rw [List.mem_filter, Node.mem_locatedFrom_children, decide_eq_true_iff, and_assoc]
  · -- methods of an inner class stand together among those of the outer one
    rintro p q outer inner houter hinner ⟨rest, rfl⟩ filePath space space'
    rw [Node.nodeAt_append, houter, Option.bind_some] at hinner
    exact (Node.descendants_infix_of_nodeAt hinner .method).map methodOf

/-- A class in another one, between methods of the other, with a method below a method. -/
theorem descendants_in_source_order_nested :
    let method := fun name below =>
      Node.mk .method none "" (.mk .name (some .name) name [] :: below)
    let inner := Node.mk .cls none "" [method "b" [method "c" []]]
    let outer := Node.mk .cls none ""
      [.mk .declarations (some .body) "" [method "a" [], inner, method "d" []]]
    (outer.nodeAt [] = some outer ∧ outer.nodeAt [1, 0] = some inner ∧ ([] : Place) <:+ [1, 0]) ∧
      (classOf outer "" "").methods.map (·.name) = ["a", "b", "c", "d"] ∧
      (classOf inner "" "").methods.map (·.name) = ["b", "c"] ∧
      (classOf inner "" "").methods <:+: (classOf outer "" "").methods := by
  intro method inner outer
  obtain ⟨-, -, -, hnested⟩ := descendants_in_source_order outer .method
  exact ⟨⟨rfl, rfl, List.nil_suffix⟩, by decide +kernel, by decide +kernel,
    hnested [] [1, 0] outer inner rfl rfl List.nil_suffix "" "" ""⟩

end SourceAtlas.CSharp
