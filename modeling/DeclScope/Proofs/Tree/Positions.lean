import DeclScope.Proofs.Tree.Containment
import Mathlib.Data.List.Perm.Subperm
import Mathlib.Data.List.Sort

/-!
# Positions in preorder

The nodes of a tree form a list: a node, then the nodes of its children from left to right.  The
list holds exactly the nodes that the root contains, its labels are the flat form in which trees
arrive, and it ascends in the order of paths.  So a list of nodes that ascends in that order is a
sublist of it: what comes later in the one has a greater position in the other.
-/

namespace DeclScope

namespace Node

/-- Everything in the left node comes before everything in the right one. -/
def StandsBefore (left right : Node) : Prop :=
  ∀ first second, left.Contains first → right.Contains second → first.Precedes second

/-- What is in the left node stands before what is in the right one. -/
theorem StandsBefore.within {left right first second : Node} (before : left.StandsBefore right)
    (inLeft : left.Contains first) (inRight : right.Contains second) :
    first.StandsBefore second := by
  intro inner outer inFirst inSecond
  exact before inner outer (Relation.ReflTransGen.trans inLeft inFirst)
    (Relation.ReflTransGen.trans inRight inSecond)

instance (first second : Node) : Decidable (first.Precedes second) :=
  inferInstanceAs (Decidable (first.path < second.path))

instance : Std.Antisymm Precedes where
  antisymm _ _ forth back := absurd back (List.lt_asymm forth)

/-- The nodes that a node contains, in preorder. -/
def nodes (node : Node) : List Node :=
  node :: node.children.attach.flatMap fun ⟨child, _⟩ => child.nodes
termination_by node.tree.size
decreasing_by exact size_lt_of_mem_children (by assumption)

/-- The children hold the subtrees right below the root. -/
theorem map_tree_children (node : Node) : node.children.map (·.tree) = node.tree.children := by
  rw [children, List.map_map]
  exact List.zipIdx_map_fst 0 node.tree.children

/-- A node comes first, and then what its children contain. -/
theorem nodes_eq (node : Node) : node.nodes = node :: node.children.flatMap nodes := by
  rw [nodes]
  simp

/-- The list holds exactly the contained nodes. -/
theorem mem_nodes_iff {outer inner : Node} : inner ∈ outer.nodes ↔ outer.Contains inner := by
  constructor
  · intro mem
    fun_induction nodes outer with
    | case1 outer inductionHypothesis =>
      rcases List.mem_cons.mp mem with rfl | below
      · exact .refl
      · obtain ⟨⟨child, inside⟩, -, listed⟩ := List.mem_flatMap.mp below
        exact .head inside (inductionHypothesis child inside listed)
  · intro contained
    induction contained using Relation.ReflTransGen.head_induction_on with
    | refl =>
      rw [nodes_eq]
      exact List.mem_cons_self
    | head step _ inductionHypothesis =>
      rw [nodes_eq]
      exact List.mem_cons_of_mem _ (List.mem_flatMap.mpr ⟨_, step, inductionHypothesis⟩)

/-- An enclosed node comes after the node around it. -/
theorem Encloses.precedes {outer inner : Node} (inside : outer.Encloses inner) :
    outer.Precedes inner := by
  obtain ⟨child, step, contained⟩ := Relation.TransGen.head'_iff.mp inside
  obtain ⟨rest, extended⟩ := Contains.exists_path contained
  obtain ⟨⟨tree, index⟩, -, rfl⟩ := List.mem_map.mp step
  rw [path_cons, List.append_assoc] at extended
  show outer.path < inner.path
  calc outer.path
      = outer.path ++ [] := (List.append_nil _).symm
    _ < outer.path ++ ([index] ++ rest) := List.append_left_lt (List.nil_lt_cons index rest)
    _ = inner.path := extended.symm

/-- Of two children the one that comes first stands before the other with everything in it. -/
theorem Precedes.standsBefore {node left right : Node} (first : left.Precedes right)
    (inLeft : left ∈ node.children) (inRight : right ∈ node.children) :
    left.StandsBefore right := by
  have inOrder : node.children.Pairwise StandsBefore := pairwise_children node
  obtain ⟨i, leftBound, rfl⟩ := List.mem_iff_getElem.mp inLeft
  obtain ⟨j, rightBound, rfl⟩ := List.mem_iff_getElem.mp inRight
  rcases Nat.lt_trichotomy i j with before | rfl | behind
  · exact List.pairwise_iff_getElem.mp inOrder i j leftBound rightBound before
  · exact absurd first (not_precedes_self _)
  · have other := List.pairwise_iff_getElem.mp inOrder j i rightBound leftBound behind
    exact absurd first (List.lt_asymm (other _ _ .refl .refl))

/-- The list of nodes ascends. -/
theorem pairwise_nodes (node : Node) : node.nodes.Pairwise Precedes := by
  fun_induction nodes node with
  | case1 node inductionHypothesis =>
    rw [← nodes, nodes_eq, List.pairwise_cons, List.pairwise_flatMap]
    refine ⟨?_, ?_, (pairwise_children node).imp ?_⟩
    · intro inner below
      obtain ⟨child, step, listed⟩ := List.mem_flatMap.mp below
      exact Encloses.precedes (.head' step (mem_nodes_iff.mp listed))
    · exact inductionHypothesis
    · intro left right before first inLeft second inRight
      exact before first second (mem_nodes_iff.mp inLeft) (mem_nodes_iff.mp inRight)

/-- Nodes that ascend are distinct. -/
theorem nodup_of_pairwise {nodes : List Node} (ascending : nodes.Pairwise Precedes) :
    nodes.Nodup := by
  refine ascending.imp ?_
  rintro left _ before rfl
  exact not_precedes_self left before

/-- Contained nodes that ascend are a sublist of the list of nodes, so the later ones have the
greater positions. -/
theorem sublist_nodes {root : Node} {nodes : List Node} (ascending : nodes.Pairwise Precedes)
    (inside : ∀ node ∈ nodes, root.Contains node) : nodes.Sublist root.nodes := by
  have distinct : nodes.Nodup := nodup_of_pairwise ascending
  have among : nodes ⊆ root.nodes := fun node listed => mem_nodes_iff.mpr (inside node listed)
  exact List.sublist_of_subperm_of_pairwise (List.Nodup.subperm distinct among) ascending
    (pairwise_nodes root)

end Node

end DeclScope
