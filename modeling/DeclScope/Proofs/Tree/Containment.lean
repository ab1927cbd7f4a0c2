import DeclScope.TranslationUnit
import Mathlib.Logic.Relation

/-!
# Containment and document order of nodes

A node contains the nodes that are reached from it by going to children, itself included; it
encloses all of them but itself.  The path of a contained node extends that of the container, so
whatever stands in an earlier sibling precedes whatever stands in a later one: the lexicographic
order of paths lists a node before everything inside it, and siblings from left to right.

Containment is a relation between places.  Two places may hold equal subtrees, and nothing here
identifies them.
-/

namespace DeclScope

namespace Tree

/-- A listing starts with the root and goes on with everything below it. -/
theorem preorder_eq (tree : Tree) :
    tree.preorder = (tree.label, tree.children.length) :: preorderAll tree.children := by
  cases tree
  rfl

end Tree

namespace Node

/-- One step down in a tree. -/
def IsChild (parent child : Node) : Prop := child ∈ parent.children

/-- The inner node is reached from the outer one by steps down, possibly none. -/
def Contains (outer inner : Node) : Prop := Relation.ReflTransGen IsChild outer inner

/-- The inner node is reached from the outer one by at least one step down. -/
def Encloses (outer inner : Node) : Prop := Relation.TransGen IsChild outer inner

/-- The first node comes before the second in preorder. -/
def Precedes (first second : Node) : Prop := first.path < second.path

/-- A step down extends the path by the index of the child. -/
theorem path_cons (tree parent : Tree) (index : Nat) (above : List Step) :
    path ⟨tree, ⟨parent, index⟩ :: above⟩ = path ⟨parent, above⟩ ++ [index] := by
  simp [path]

/-- A contained node extends the path of its container. -/
theorem Contains.exists_path {outer inner : Node} (inside : outer.Contains inner) :
    ∃ rest, inner.path = outer.path ++ rest := by
  induction inside with
  | refl => exact ⟨[], by simp⟩
  | tail _ step inductionHypothesis =>
    obtain ⟨rest, extended⟩ := inductionHypothesis
    obtain ⟨⟨tree, index⟩, -, rfl⟩ := List.mem_map.mp step
    exact ⟨rest ++ [index], by rw [path_cons, extended, List.append_assoc]⟩

/-- A node is no successor of itself in preorder. -/
theorem not_precedes_self (node : Node) : ¬ node.Precedes node := List.lt_irrefl node.path

/-- Everything in a child precedes everything in a later child.  Both paths extend that of the
parent, and they differ first at the indices of the two children. -/
theorem pairwise_children (node : Node) :
    node.children.Pairwise fun left right =>
      ∀ first second, left.Contains first → right.Contains second → first.Precedes second := by
  have increasing : (node.tree.children.zipIdx).Pairwise fun left right => left.2 < right.2 := by
    rw [← List.pairwise_map (f := Prod.snd), List.zipIdx_map_snd]
    exact List.pairwise_lt_range'
  rw [children, List.pairwise_map]
  refine increasing.imp ?_
  intro left right before first second inLeft inRight
  obtain ⟨leftRest, leftPath⟩ := inLeft.exists_path
  obtain ⟨rightRest, rightPath⟩ := inRight.exists_path
  rw [path_cons, List.append_assoc] at leftPath rightPath
  rw [Precedes, leftPath, rightPath]
  apply List.append_left_lt
  exact List.cons_lt_cons_iff.mpr (.inl before)

/-- Two children at the same index are the same child. -/
theorem eq_of_index?_eq {left right node : Node} (inLeft : left ∈ node.children)
    (inRight : right ∈ node.children) (same : left.index? = right.index?) : left = right := by
  simp only [children, List.mem_map] at inLeft inRight
  obtain ⟨⟨leftTree, leftIndex⟩, leftAt, rfl⟩ := inLeft
  obtain ⟨⟨rightTree, rightIndex⟩, rightAt, rfl⟩ := inRight
  have sameIndex : leftIndex = rightIndex := Option.some.inj same
  have sameTree : some leftTree = some rightTree := by
    rw [← List.mem_zipIdx_iff_getElem?.mp leftAt, ← List.mem_zipIdx_iff_getElem?.mp rightAt]
    simp only [sameIndex]
  rw [Option.some.inj sameTree, sameIndex]

end Node

end DeclScope
