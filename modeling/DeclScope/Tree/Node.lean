import DeclScope.Tree.Basic

/-!
# Nodes: subtrees in their place

A node is a subtree together with the way up from it: the trees that enclose it, nearest first, and
at which index each is entered.  Parents and siblings are read off the way up, children extend it,
and the indices from the root down are the *path* of the node.  Two nodes of one tree are the same
node exactly when their paths agree, and the lexicographic order of paths is preorder.
-/

namespace DeclScope

/-- One step up: the enclosing tree, and the index of the child from which the step is taken. -/
structure Step where
  parent : Tree
  index : Nat
deriving Inhabited

/-- A subtree in its place. -/
structure Node where
  tree : Tree
  /-- The way up to the root, nearest step first. -/
  above : List Step
deriving Inhabited

namespace Node

/-- The root of a tree. -/
def root (tree : Tree) : Node := ⟨tree, []⟩

/-- The label of the subtree. -/
def label (node : Node) : Label := node.tree.label

/-- What the node is. -/
def kind (node : Node) : Kind := node.label.kind

/-- The part that the node plays in its parent. -/
def role (node : Node) : Option Role := node.label.role

/-- The offset of the first byte. -/
def start (node : Node) : Nat := node.label.start

/-- The offset after the last byte. -/
def stop (node : Node) : Nat := node.label.stop

/-- The indices from the root down to the node. -/
def path (node : Node) : List Nat := (node.above.map (·.index)).reverse

/-- The index of the node among its siblings; the root has none. -/
def index? (node : Node) : Option Nat := node.above.head?.map (·.index)

/-- The nodes right below. -/
def children (node : Node) : List Node :=
  node.tree.children.zipIdx.map fun (child, index) => ⟨child, ⟨node.tree, index⟩ :: node.above⟩

/-- The nodes right below that the grammar names. -/
def namedChildren (node : Node) : List Node := node.children.filter (·.label.named)

/-- The children that play a given part, in order. -/
def childrenIn (role : Role) (node : Node) : List Node :=
  node.children.filter (·.role == some role)

/-- The first child that plays a given part. -/
def childIn? (role : Role) (node : Node) : Option Node :=
  node.children.find? (·.role == some role)

/-- The enclosing node. -/
def parent? (node : Node) : Option Node :=
  match node.above with
  | [] => none
  | step :: rest => some ⟨step.parent, rest⟩

/-- The enclosing nodes for a given way up, nearest first. -/
def enclosing : List Step → List Node
  | [] => []
  | step :: rest => ⟨step.parent, rest⟩ :: enclosing rest

/-- The enclosing nodes, nearest first. -/
def ancestors (node : Node) : List Node := enclosing node.above

/-- The named siblings before the node, nearest first. -/
def namedSiblingsBefore (node : Node) : List Node :=
  match node.parent?, node.index? with
  | some parent, some index => ((parent.children.take index).filter (·.label.named)).reverse
  | _, _ => []

/-- A child holds a subtree of its parent's tree. -/
theorem tree_mem_of_mem_children {child node : Node} (mem : child ∈ node.children) :
    child.tree ∈ node.tree.children := by
  simp only [children, List.mem_map] at mem
  obtain ⟨⟨tree, index⟩, found, rfl⟩ := mem
  exact List.fst_mem_of_mem_zipIdx found

/-- A child is smaller than its parent. -/
theorem size_lt_of_mem_children {child node : Node} (mem : child ∈ node.children) :
    child.tree.size < node.tree.size :=
  Tree.size_lt_of_mem_children (tree_mem_of_mem_children mem)

/-- A named child is a child. -/
theorem mem_children_of_mem_namedChildren {child node : Node} (mem : child ∈ node.namedChildren) :
    child ∈ node.children :=
  (List.mem_filter.1 mem).1

/-- A child in a role is a child. -/
theorem mem_children_of_mem_childrenIn {role : Role} {child node : Node}
    (mem : child ∈ node.childrenIn role) : child ∈ node.children :=
  (List.mem_filter.1 mem).1

/-- The first child in a role is a child. -/
theorem mem_children_of_childIn? {role : Role} {child node : Node}
    (found : node.childIn? role = some child) : child ∈ node.children :=
  List.mem_of_find?_eq_some found

/-- The first child in a role is smaller than its parent. -/
theorem size_lt_of_childIn? {role : Role} {child node : Node}
    (found : node.childIn? role = some child) : child.tree.size < node.tree.size :=
  size_lt_of_mem_children (mem_children_of_childIn? found)

/-- A named child is smaller than its parent. -/
theorem size_lt_of_mem_namedChildren {child node : Node} (mem : child ∈ node.namedChildren) :
    child.tree.size < node.tree.size :=
  size_lt_of_mem_children (mem_children_of_mem_namedChildren mem)

/-- The parent of a child is the node itself. -/
theorem parent?_of_mem_children {child node : Node} (mem : child ∈ node.children) :
    child.parent? = some node := by
  simp only [children, List.mem_map] at mem
  obtain ⟨⟨tree, index⟩, _, rfl⟩ := mem
  rfl

end Node

end DeclScope
