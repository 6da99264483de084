/-!
# Syntax trees of C#

As much of a syntax tree as tells where namespaces, types and methods are declared. A node has a
kind, perhaps a role under its parent, the text it covers and its children in source order.

* `Node.child?` — the first child with a role;
* `descendants` — the nodes of a kind below a node, by a worklist.
-/

namespace SourceAtlas.CSharp

/-- Kinds of node. -/
inductive NodeKind where
  /-- The whole file. -/
  | file
  /-- A namespace with a body. -/
  | blockNamespace
  /-- A namespace that holds for the rest of the file. -/
  | fileNamespace
  /-- A class. -/
  | cls
  /-- A struct, record or interface. -/
  | container
  /-- The body of a type or of a namespace. -/
  | declarations
  /-- A section that is compiled on a condition. -/
  | conditional
  /-- A method. -/
  | method
  /-- The list of base types. -/
  | bases
  /-- A modifier such as `public`. -/
  | modifier
  /-- A parameter list. -/
  | parameters
  /-- A parameter. -/
  | parameter
  /-- A name. -/
  | name
  /-- A type. -/
  | type
  /-- Any other declaration. -/
  | other
  deriving DecidableEq, Repr

/-- What a node is to its parent. -/
inductive Role where
  | name
  | body
  | returns
  | type
  | parameters
  deriving DecidableEq, Repr

/-- **A node of a syntax tree.** -/
inductive Node where
  | mk (kind : NodeKind) (role : Option Role) (text : String) (children : List Node)
  deriving Repr

namespace Node

/-- The kind. -/
def kind : Node → NodeKind
  | .mk k _ _ _ => k

/-- The role under the parent. -/
def role : Node → Option Role
  | .mk _ r _ _ => r

/-- The source text that the node covers. -/
def text : Node → String
  | .mk _ _ t _ => t

/-- The children in source order. -/
def children : Node → List Node
  | .mk _ _ _ cs => cs

/-- The first child with a role. -/
def child? (n : Node) (r : Role) : Option Node :=
  n.children.find? (·.role == some r)

/-- The text of the first child with a role, empty if there is none. -/
def textOf (n : Node) (r : Role) : String :=
  ((n.child? r).map text).getD ""

mutual

/-- The number of nodes of a tree. -/
def size : Node → Nat
  | .mk _ _ _ cs => 1 + sizes cs

/-- The number of nodes of several trees. -/
def sizes : List Node → Nat
  | [] => 0
  | n :: ns => n.size + sizes ns

end

@[simp] theorem sizes_append (ns ms : List Node) : sizes (ns ++ ms) = sizes ns + sizes ms := by
  induction ns with
  | nil => simp [sizes]
  | cons n ns ih => simp [sizes, ih, Nat.add_assoc]

theorem size_eq (n : Node) : n.size = 1 + sizes n.children := by
  cases n; rfl

/-- A tree of a list is no larger than the list. -/
theorem size_le_sizes {n : Node} {ns : List Node} (h : n ∈ ns) : n.size ≤ sizes ns := by
  induction ns with
  | nil => cases h
  | cons m ms ih =>
    rcases List.mem_cons.mp h with rfl | h
    · simp [sizes]
    · have := ih h
      simp only [sizes]; omega

/-- A child is smaller, so a walk that goes down ends. -/
theorem size_lt_of_child? {n b : Node} {r : Role} (h : n.child? r = some b) : b.size < n.size := by
  have := size_le_sizes (List.mem_of_find?_eq_some h)
  rw [size_eq n]; omega

/-- The nodes of a kind in the trees still to be visited: the first tree is looked at, and its
children take its place in front of the others. -/
def collect (k : NodeKind) : List Node → List Node
  | [] => []
  | n :: pending =>
    if n.kind = k then n :: collect k (n.children ++ pending)
    else collect k (n.children ++ pending)
termination_by pending => sizes pending
decreasing_by all_goals (rw [sizes_append, sizes, size_eq]; omega)

/-- **The proper descendants of a kind,** in source order. -/
def descendants (n : Node) (k : NodeKind) : List Node :=
  collect k n.children

end Node

end SourceAtlas.CSharp
