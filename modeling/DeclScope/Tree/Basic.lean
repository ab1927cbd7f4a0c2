import DeclScope.Tree.Kind

/-!
# Syntax trees

A syntax tree is a label and a list of subtrees.  The label says what the node is, which part it
plays in its parent, which bytes of the source it covers, and three marks of the grammar: whether
the node has a name in the grammar, whether it was invented to repair the source, and whether the
grammar saw an error at or below it.  The last mark is taken as given; it is not a function of the
tree.

Trees arrive as a flat list in preorder, each entry with the number of its children.  `ofPreorder?`
rebuilds the tree and undoes `preorder`.
-/

namespace DeclScope

/-- What is known of a node apart from its subtrees. -/
structure Label where
  kind : Kind
  role : Option Role
  /-- The offset of the first byte. -/
  start : Nat
  /-- The offset after the last byte. -/
  stop : Nat
  /-- Whether the grammar names the node; punctuation and keywords are not named. -/
  named : Bool
  /-- Whether the node was invented to repair the source. -/
  missing : Bool
  /-- Whether the grammar saw an error at or below the node. -/
  damaged : Bool
deriving DecidableEq, Inhabited

/-- A syntax tree. -/
inductive Tree where
  | node (label : Label) (children : List Tree)
deriving Inhabited

namespace Tree

/-- What is known of the root. -/
def label : Tree → Label
  | node label _ => label

/-- The subtrees right below the root. -/
def children : Tree → List Tree
  | node _ children => children

mutual

/-- The number of nodes. -/
def size : Tree → Nat
  | node _ children => 1 + sizeAll children

/-- The number of nodes of several trees. -/
def sizeAll : List Tree → Nat
  | [] => 0
  | tree :: rest => tree.size + sizeAll rest

end

/-- Each tree of a list is no larger than all of them together. -/
theorem size_le_sizeAll {tree : Tree} {trees : List Tree} (mem : tree ∈ trees) :
    tree.size ≤ sizeAll trees := by
  induction trees with
  | nil => simp at mem
  | cons head rest ih =>
    rw [sizeAll]
    rcases List.mem_cons.1 mem with rfl | tail
    · omega
    · have := ih tail; omega

/-- A subtree right below the root is smaller than the whole. -/
theorem size_lt_of_mem_children {child tree : Tree} (mem : child ∈ tree.children) :
    child.size < tree.size := by
  cases tree with
  | node label children =>
    have := size_le_sizeAll (show child ∈ children from mem)
    rw [size]; omega

/-- An entry of the flat form: a label and the number of children. -/
abbrev Entry := Label × Nat

mutual

/-- The entries of a tree, the root first and each child followed by what is below it. -/
def preorder : Tree → List Entry
  | node label children => (label, children.length) :: preorderAll children

/-- The entries of several trees, one after the other. -/
def preorderAll : List Tree → List Entry
  | [] => []
  | tree :: rest => tree.preorder ++ preorderAll rest

end

/-- Read the entry in front of trees that are already rebuilt: it takes its children off them. -/
def graft (entry : Entry) (trees : Option (List Tree)) : Option (List Tree) :=
  trees.bind fun trees =>
    if entry.2 ≤ trees.length then
      some (node entry.1 (trees.take entry.2) :: trees.drop entry.2)
    else none

/-- The tree whose entries are given, if they are those of exactly one. -/
def ofPreorder? (entries : List Entry) : Option Tree :=
  match entries.foldr graft (some []) with
  | some [tree] => some tree
  | _ => none

mutual

/-- The entries of a tree put that tree in front of what was rebuilt before. -/
theorem foldr_graft_preorder (tree : Tree) (rest : List Tree) :
    tree.preorder.foldr graft (some rest) = some (tree :: rest) := by
  cases tree with
  | node label children =>
    rw [preorder, List.foldr_cons, foldr_graft_preorderAll children rest]
    simp [graft]

/-- The entries of several trees put those trees in front of what was rebuilt before. -/
theorem foldr_graft_preorderAll (trees rest : List Tree) :
    (preorderAll trees).foldr graft (some rest) = some (trees ++ rest) := by
  cases trees with
  | nil => rfl
  | cons tree others =>
    rw [preorderAll, List.foldr_append, foldr_graft_preorderAll others rest,
      foldr_graft_preorder tree (others ++ rest), List.cons_append]

end

/-- Rebuilding undoes flattening. -/
theorem ofPreorder?_preorder (tree : Tree) : ofPreorder? tree.preorder = some tree := by
  simp [ofPreorder?, foldr_graft_preorder]

end Tree

end DeclScope
