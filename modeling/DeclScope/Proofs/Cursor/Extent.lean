import DeclScope.Declaration.Basic
import DeclScope.Proofs.Location
import DeclScope.Proofs.Walk.Order

/-!
# Extents nest and hold the names

The extent of a cursor goes from the start of its node to the end of its anchor, and its location is
the start of a third node, found by walking inwards through declarators.  All three lie in the node
of the cursor, the name in the anchor as well, and children lie in the anchor of their parent.  So
where the byte ranges of a tree nest, extents nest along children, and each holds its location.

Locations compare by row and column first.  They ascend with the offsets, which is all that is used
of them here.  What a declaration keeps of its cursor is the extent.

A walk visits only what its own lists lead to, so what holds of a cursor and passes on to children
holds of everything that any walk from there visits.
-/

namespace DeclScope

namespace Node

/-- The range of a node is not reversed and covers the ranges of its children. -/
def CoversChildren (node : Node) : Prop :=
  node.start ≤ node.stop ∧
    ∀ child ∈ node.children, node.start ≤ child.start ∧ child.stop ≤ node.stop

instance (node : Node) : Decidable node.CoversChildren :=
  inferInstanceAs (Decidable (_ ∧ _))

/-- The range of a node covers that of every node in it. -/
theorem Contains.covers {outer inner : Node}
    (nested : ∀ below, outer.Contains below → below.CoversChildren)
    (inside : outer.Contains inner) :
    outer.start ≤ inner.start ∧ inner.start ≤ inner.stop ∧ inner.stop ≤ outer.stop := by
  have range := (nested inner inside).1
  induction inside with
  | refl => exact ⟨Nat.le_refl _, range, Nat.le_refl _⟩
  | tail contained step inductionHypothesis =>
    obtain ⟨ordered, covered⟩ := nested _ contained
    have above := inductionHypothesis ordered
    have child := covered _ step
    omega

/-- The name that a declarator declares is the declarator itself or inside it. -/
theorem contains_of_declaredName? {name node : Node} (found : node.declaredName? = some name) :
    node.Contains name := by
  fun_induction declaredName? node with
  | case1 node _ _ =>
    cases found
    exact .refl
  | case2 node _ _ part step inductionHypothesis =>
    exact .head (mem_children_of_childIn? step) (inductionHypothesis found)
  | case3 => cases found
  | case4 node inner step _ _ inductionHypothesis =>
    exact .head (mem_children_of_inner? step) (inductionHypothesis found)
  | case5 => cases found

end Node

/-- The range of every node of a tree covers the ranges of its children. -/
def Tree.RangesNest (tree : Tree) : Prop :=
  ∀ node ∈ (Node.root tree).nodes, node.CoversChildren

instance (tree : Tree) : Decidable tree.RangesNest :=
  inferInstanceAs (Decidable (∀ node ∈ _, _))

namespace Walk

/-- A property holds of the pending root and of all cursors on the stack. -/
def Holds (property : Cursor → Prop) (walk : Walk) : Prop :=
  (∀ visit ∈ walk.pending, property visit.1) ∧
    ∀ siblings ∈ walk.stack, ∀ cursor ∈ siblings.1, property cursor

variable {property : Cursor → Prop}

/-- One visit from the stack is to a cursor with the property, and the property still holds of what
is left, if it passes on to children. -/
theorem holds_of_nextOnStack
    (passesOn : ∀ cursor, property cursor → ∀ child ∈ cursor.children, property child)
    {mode : WalkMode} {stack : List (List Cursor × Nat)} {visit : Visit} {after : Walk}
    (holds : ∀ siblings ∈ stack, ∀ cursor ∈ siblings.1, property cursor)
    (observed : nextOnStack mode stack = some (visit, after)) :
    property visit.1 ∧ after.Holds property := by
  fun_induction nextOnStack mode stack with
  | case1 => cases observed
  | case2 level rest inductionHypothesis =>
    exact inductionHypothesis (fun siblings listed => holds siblings (List.mem_cons_of_mem _ listed))
      observed
  | case3 cursor siblings level rest =>
    obtain ⟨first, others⟩ := List.forall_mem_cons.mp holds
    obtain ⟨here, behind⟩ := List.forall_mem_cons.mp first
    cases mode with
    | toplevel =>
      cases observed
      refine ⟨here, ?_, List.forall_mem_cons.mpr ⟨behind, others⟩⟩
      intro root pending
      dsimp only at pending
      split at pending
      · cases pending
        exact here
      · cases pending
    | children =>
      cases observed
      refine ⟨here, by simp, ?_⟩
      exact List.forall_mem_cons.mpr
        ⟨passesOn cursor here, List.forall_mem_cons.mpr ⟨behind, others⟩⟩

/-- One visit of a walk keeps a property that passes on to children. -/
theorem Holds.next
    (passesOn : ∀ cursor, property cursor → ∀ child ∈ cursor.children, property child)
    {walk after : Walk} {visit : Visit} (holds : walk.Holds property)
    (observed : walk.next = some (visit, after)) : property visit.1 ∧ after.Holds property := by
  obtain ⟨mode, pending, stack⟩ := walk
  cases pending with
  | none => exact holds_of_nextOnStack passesOn holds.2 observed
  | some root =>
    cases observed
    have here : property root.1 := holds.1 root rfl
    exact ⟨here, by simp, List.forall_mem_cons.mpr ⟨passesOn root.1 here, holds.2⟩⟩

/-- A property that passes on to children holds of everything that a walk visits, if it holds of what
the walk starts with. -/
theorem Holds.toList
    (passesOn : ∀ cursor, property cursor → ∀ child ∈ cursor.children, property child)
    {walk : Walk} (holds : walk.Holds property) : ∀ visit ∈ walk.toList, property visit.1 := by
  fun_induction Walk.toList walk with
  | case1 walk visit after observed inductionHypothesis =>
    obtain ⟨here, left⟩ := holds.next passesOn observed
    exact List.forall_mem_cons.mpr ⟨here, inductionHypothesis left⟩
  | case2 => simp

/-- Both walks from a cursor start with cursors that have a property, if the cursor has it and it
passes on to children. -/
theorem holds_of_root
    (passesOn : ∀ cursor, property cursor → ∀ child ∈ cursor.children, property child)
    {cursor : Cursor} (here : property cursor) (level : Nat) :
    (toplevel cursor level).Holds property ∧ (children cursor level).Holds property := by
  have below := passesOn cursor here
  constructor
  · exact ⟨by simpa [toplevel] using here, by simp [toplevel]⟩
  · exact ⟨by simp [children], by simpa [children] using below⟩

end Walk

namespace Cursor

/-- A well-formed cursor in and below whose node the ranges nest. -/
structure Nested (cursor : Cursor) : Prop where
  formed : cursor.toItem.WellFormed
  covers : ∀ below, cursor.node.Contains below → below.CoversChildren

/-- The children of a nested cursor are nested. -/
theorem Nested.child {child cursor : Cursor} (nested : cursor.Nested)
    (mem : child ∈ cursor.children) : child.Nested := by
  obtain ⟨enclosed, formed⟩ := encloses_of_mem_children nested.formed mem
  refine ⟨formed, ?_⟩
  intro below contained
  exact nested.covers below (enclosed.to_reflTransGen.trans contained)

/-- Where the ranges of a tree nest, every cursor that is reached from the root is nested. -/
theorem nested_of_descend? {unit : TranslationUnit} (nest : unit.tree.RangesNest)
    {path : List Nat} {cursor : Cursor} (reached : unit.cursor.descend? path = some cursor) :
    cursor.Nested := by
  obtain ⟨inTree, formed⟩ := contains_of_descend? (Item.wellFormed_of_node unit.root) reached
  refine ⟨formed, ?_⟩
  intro below contained
  exact nest below (Node.mem_nodes_iff.mpr (inTree.trans contained))

/-- The name of a cursor stands in its anchor. -/
theorem contains_of_nameNode? {cursor : Cursor} {name : Node}
    (found : cursor.nameNode? = some name) : cursor.anchor.Contains name := by
  have inChild {role : Role}
      (named : (cursor.node.childIn? role).bind Node.declaredName? = some name) :
      cursor.node.Contains name := by
    obtain ⟨part, isPart, declares⟩ := Option.bind_eq_some_iff.mp named
    exact .head (Node.mem_children_of_childIn? isPart) (Node.contains_of_declaredName? declares)
  unfold nameNode? at found
  unfold Item.anchor
  split at found
  · rename_i declarator isDeclarator
    rw [isDeclarator]
    exact Node.contains_of_declaredName? found
  · rename_i isNode
    rw [isNode]
    split at found
    · exact inChild found
    · exact inChild found
    · exact inChild found
    · exact inChild found
    · exact inChild found
    · exact .single (Node.mem_children_of_childIn? found)
    · exact .single (Node.mem_children_of_childIn? found)
    · cases found
      exact .refl
    · cases found

/-- The offsets of a nested cursor: its anchor lies in its node, and its name in both. -/
theorem Nested.offsets {cursor : Cursor} (nested : cursor.Nested) :
    cursor.node.start ≤ cursor.anchor.start ∧ cursor.anchor.start ≤ cursor.anchor.stop ∧
      cursor.anchor.stop ≤ cursor.node.stop ∧
      cursor.node.start ≤ (cursor.nameNode?.getD cursor.node).start ∧
      (cursor.nameNode?.getD cursor.node).start ≤ cursor.anchor.stop := by
  have inNode : cursor.node.Contains cursor.anchor := nested.formed.contains_anchor
  have anchor := inNode.covers nested.covers
  cases named : cursor.nameNode? with
  | none =>
    simp only [Option.getD_none]
    omega
  | some name =>
    have inAnchor : cursor.anchor.Contains name := contains_of_nameNode? named
    have covered := inAnchor.covers fun below contained =>
      nested.covers below (inNode.trans contained)
    simp only [Option.getD_some]
    omega

/-- The offsets of a child: its extent lies in the extent of its parent. -/
theorem Nested.child_offsets {child cursor : Cursor} (nested : cursor.Nested)
    (mem : child ∈ cursor.children) :
    cursor.node.start ≤ child.node.start ∧ child.anchor.stop ≤ cursor.anchor.stop := by
  obtain ⟨item, listed, rfl⟩ := List.mem_map.mp mem
  have inNode : cursor.node.Contains item.node :=
    (Item.encloses_of_mem_children nested.formed listed).1.to_reflTransGen
  have inAnchor : cursor.anchor.Contains item.anchor :=
    (Item.encloses_anchor_of_mem_children listed).to_reflTransGen
  have start := (inNode.covers nested.covers).1
  have stop := (inAnchor.covers fun below contained =>
    nested.covers below (nested.formed.contains_anchor.trans contained)).2.2
  exact ⟨start, stop⟩

/-- The extent of a nested cursor does not end before it starts, and holds the location. -/
theorem Nested.extent {cursor : Cursor} (nested : cursor.Nested) :
    cursor.extent.1.isBefore cursor.location = true ∧
      cursor.location.isBefore cursor.extent.2 = true ∧
      cursor.extent.1.isBefore cursor.extent.2 = true := by
  obtain ⟨-, -, -, fromStart, toStop⟩ := nested.offsets
  refine ⟨?_, ?_, ?_⟩
  · exact Location.isBefore_ofOffset _ _ fromStart
  · exact Location.isBefore_ofOffset _ _ toStop
  · exact Location.isBefore_ofOffset _ _ (fromStart.trans toStop)

/-- In a tree whose ranges nest, every cursor that is reached from the root has its location between
the start and the end of its extent, and the extents of its children lie in its own.  So no
declaration that is made from a cursor of any walk from there ends before it starts. -/
theorem extents_nest (unit : TranslationUnit) (nest : unit.tree.RangesNest) (path : List Nat)
    (cursor : Cursor) (reached : unit.cursor.descend? path = some cursor) :
    (cursor.extent.1.isBefore cursor.location = true ∧
      cursor.location.isBefore cursor.extent.2 = true) ∧
    (∀ child ∈ cursor.children,
      cursor.extent.1.isBefore child.extent.1 = true ∧
        child.extent.2.isBefore cursor.extent.2 = true) ∧
    ∀ level, ∀ walk ∈ [Walk.toplevel cursor level, Walk.children cursor level],
      ∀ visit ∈ walk.toList,
        (Declaration.ofCursor visit.1).start.isBefore (Declaration.ofCursor visit.1).stop = true := by
  have nested : cursor.Nested := nested_of_descend? nest reached
  obtain ⟨fromStart, toStop, -⟩ := nested.extent
  refine ⟨⟨fromStart, toStop⟩, ?_, ?_⟩
  · intro child mem
    obtain ⟨start, stop⟩ := nested.child_offsets mem
    obtain ⟨item, listed, rfl⟩ := List.mem_map.mp mem
    constructor
    · exact Location.isBefore_ofOffset _ _ start
    · exact Location.isBefore_ofOffset _ _ stop
  · intro level walk among visit visited
    have passesOn : ∀ cursor : Cursor, cursor.Nested → ∀ child ∈ cursor.children, child.Nested :=
      fun _ nested _ mem => nested.child mem
    obtain ⟨toplevel, children⟩ := Walk.holds_of_root passesOn nested level
    have holds : walk.Holds Nested := by
      rcases List.mem_pair.mp among with rfl | rfl
      · exact toplevel
      · exact children
    exact (holds.toList passesOn visit visited).extent.2.2

/-- In the mixed unit the function `f` is declared behind a class and a variable, in one declaration.
Its extent starts with the declaration, its name stands in its declarator, and the extent of its
parameter lies in its own. -/
theorem extents_nest_mixed :
    TranslationUnit.mixed.tree.RangesNest ∧
      ∃ cursor, TranslationUnit.mixed.cursor.descend? [2] = some cursor ∧
        (cursor.extent.1.offset, cursor.location.offset, cursor.extent.2.offset) = (0, 26, 34) ∧
        (cursor.extent.1.isBefore cursor.location = true ∧
          cursor.location.isBefore cursor.extent.2 = true) ∧
        cursor.children.length = 1 ∧
        ∀ child ∈ cursor.children,
          cursor.extent.1.isBefore child.extent.1 = true ∧
            child.extent.2.isBefore cursor.extent.2 = true := by
  have nest : TranslationUnit.mixed.tree.RangesNest := by decide +kernel
  have found : (TranslationUnit.mixed.cursor.descend? [2]).map (fun cursor =>
      (cursor.extent.1.offset, cursor.location.offset, cursor.extent.2.offset,
        cursor.children.length)) = some (0, 26, 34, 1) := by decide +kernel
  obtain ⟨cursor, reached, offsets⟩ := Option.map_eq_some_iff.mp found
  simp only [Prod.mk.injEq] at offsets
  obtain ⟨start, name, stop, parameters⟩ := offsets
  obtain ⟨held, children, -⟩ := extents_nest .mixed nest [2] cursor reached
  exact ⟨nest, cursor, reached, by rw [start, name, stop], held, parameters, children⟩

end Cursor

end DeclScope
