import DeclScope.Proofs.Scope.Order
import DeclScope.Proofs.Walk.Announced

/-!
# Announced classes in document order

The top-level walk lists the items of a scope, and some of these do not come as they stand in the
source: a declaration lists the type that it defines first, wherever the type is written.  Only items
that are whole nodes can be classes or be gone into, however, and those are in order in every tree:
a declaration has one of them at most.  So the classes that the walk announces come in the order in
which they stand, whatever tree the front end has built.
-/

namespace DeclScope

namespace Item

/-- The left item comes before the right one if both are whole nodes. -/
def WholesInOrder (left right : Item) : Prop :=
  left.declarator? = none → right.declarator? = none → left.node.StandsBefore right.node

end Item

namespace Node

/-- A declaration has one whole node among its items at most. -/
theorem wholesInOrder_declared (node : Node) : node.declared.Pairwise Item.WholesInOrder := by
  refine List.pairwise_append.mpr ⟨?_, ?_, ?_⟩
  · cases node.hoisted? with
    | none => exact .nil
    | some specifier => exact List.pairwise_singleton Item.WholesInOrder _
  · rw [List.pairwise_map]
    exact List.Pairwise.imp (fun _ whole => nomatch whole) (pairwise_children node |>.filter _)
  · intro left _ right inRight _ whole
    obtain ⟨declarator, -, rfl⟩ := List.mem_map.mp inRight
    cases whole

/-- The whole nodes in the body of a scope are in order if those of each child are. -/
theorem wholesInOrder_contents {scope : Node}
    (each : ∀ child ∈ scope.unguarded, child.items.Pairwise Item.WholesInOrder) :
    scope.contents.Pairwise Item.WholesInOrder := by
  have inOrder : scope.unguarded.Pairwise StandsBefore :=
    ((pairwise_children scope).filter _).filter _
  refine List.pairwise_flatMap.mpr ⟨each, inOrder.imp ?_⟩
  intro left right before first inLeft second inRight _ _
  exact before.within (contains_of_mem_items inLeft).1 (contains_of_mem_items inRight).1

/-- The whole nodes among the items of a node are in order. -/
theorem wholesInOrder_items (node : Node) : node.items.Pairwise Item.WholesInOrder := by
  fun_induction items node with
  | case1 => exact .nil
  | case2 node _ | case3 node _ | case4 node _ => exact wholesInOrder_declared node
  | case5 node _ _ inductionHypothesis =>
    simpa [contents] using wholesInOrder_contents inductionHypothesis
  | case6 node => exact List.pairwise_singleton Item.WholesInOrder _

end Node

namespace Item

/-- The walk goes into whole nodes only, into translation units and namespaces. -/
theorem scope_of_isExpanded {item : Item} (expanded : item.kind.isExpanded = true) :
    item.declarator? = none ∧
      (item.node.kind = .translationUnit ∨ item.node.kind = .namespaceDefinition) := by
  have kinds := item.kind_scope
  by_cases isUnit : item.kind = .translationUnit
  · obtain ⟨whole, isKind⟩ := kinds.1.mp isUnit
    exact ⟨whole, .inl isKind⟩
  · obtain ⟨whole, isKind⟩ := kinds.2.1.mp ((Cursor.isExpanded_iff isUnit).mp expanded)
    exact ⟨whole, .inr isKind⟩

/-- The whole nodes below a scope that the walk goes into are in order. -/
theorem wholesInOrder_children {item : Item} (expanded : item.kind.isExpanded = true) :
    item.children.Pairwise WholesInOrder := by
  obtain ⟨whole, isUnit | isNamespace⟩ := scope_of_isExpanded expanded
  · simp only [children, whole, childrenOfNode, isUnit]
    exact Node.wholesInOrder_contents fun child _ => Node.wholesInOrder_items child
  · simp only [children, whole, childrenOfNode, isNamespace]
    split
    · split
      · exact Node.wholesInOrder_contents fun child _ => Node.wholesInOrder_items child
      · exact Node.wholesInOrder_items _
    · exact .nil

end Item

namespace Cursor

/-- The classes that the walk announces from some items on are in order, and each stands in an item
that is a whole node. -/
def AnnouncesInOrder (unit : TranslationUnit) (items : List Item) (level : Nat) : Prop :=
  (∀ definition ∈ announced unit items level, ∃ origin ∈ items,
    origin.declarator? = none ∧ origin.node.Contains definition.node) ∧
  ((announced unit items level).map (·.node)).Pairwise Node.StandsBefore

/-- What comes of one item: the class that it is, or what comes of the items below it. -/
theorem announcesInOrder_item {unit : TranslationUnit} {item : Item} {level : Nat}
    (below : item.kind.isExpanded = true → AnnouncesInOrder unit item.children (level + 1)) :
    AnnouncesInOrder unit [item] level := by
  rw [AnnouncesInOrder, announced_item]
  by_cases expanded : item.kind.isExpanded = true
  · rw [if_pos expanded]
    obtain ⟨origins, inOrder⟩ := below expanded
    refine ⟨?_, inOrder⟩
    intro definition listed
    obtain ⟨origin, child, -, inside⟩ := origins definition listed
    have whole := (Item.scope_of_isExpanded expanded).1
    have encloses : item.node.Encloses origin.node := by
      rw [Item.children, whole] at child
      exact (Item.encloses_of_mem_childrenOfNode child).1
    exact ⟨item, List.mem_singleton_self item, whole,
      Relation.ReflTransGen.trans encloses.to_reflTransGen inside⟩
  · rw [if_neg expanded]
    by_cases announces : Expander.announces ⟨item, unit⟩ = true
    · have whole := (item.kind_scope.2.2.mp (kind_of_announces announces)).1
      rw [List.filter_cons_of_pos announces]
      exact ⟨by simpa using ⟨whole, .refl⟩, List.pairwise_singleton _ _⟩
    · rw [List.filter_cons_of_neg announces]
      exact ⟨by simp, .nil⟩

/-- The walk announces classes in order from any items on whose whole nodes are in order.

What comes of the first item stands in its node, which is whole if anything comes of it, and so comes
before whatever stands in the whole nodes behind it. -/
theorem announcesInOrder (unit : TranslationUnit) {items : List Item} (level : Nat)
    (inOrder : items.Pairwise Item.WholesInOrder) : AnnouncesInOrder unit items level := by
  generalize same : items.map (fun item => (⟨item, unit⟩ : Cursor)) = cursors
  induction cursors, level using scopes.induct generalizing items with
  | case1 level =>
    obtain rfl := List.map_eq_nil_iff.mp same
    simp [AnnouncesInOrder, announced_nil]
  | case2 cursor rest level below later =>
    obtain ⟨item, others, rfl, rfl, rfl⟩ := List.map_eq_cons_iff.mp same
    obtain ⟨first, behind⟩ := List.pairwise_cons.mp inOrder
    obtain ⟨here, hereOrder⟩ := announcesInOrder_item fun expanded =>
      below (Item.wholesInOrder_children expanded) rfl
    obtain ⟨there, thereOrder⟩ := later behind rfl
    rw [AnnouncesInOrder, ← List.singleton_append, announced_append, List.map_append,
      List.pairwise_append]
    refine ⟨?_, hereOrder, thereOrder, ?_⟩
    · intro definition listed
      rcases List.mem_append.mp listed with inFirst | inRest
      · obtain ⟨origin, among, found⟩ := here definition inFirst
        exact ⟨origin, List.mem_append_left others among, found⟩
      · obtain ⟨origin, among, found⟩ := there definition inRest
        exact ⟨origin, List.mem_append_right [item] among, found⟩
    · intro left inLeft right inRight
      obtain ⟨earlier, inFirst, rfl⟩ := List.mem_map.mp inLeft
      obtain ⟨later, inRest, rfl⟩ := List.mem_map.mp inRight
      obtain ⟨itself, among, whole, inside⟩ := here earlier inFirst
      obtain ⟨other, behind, otherWhole, otherInside⟩ := there later inRest
      cases List.mem_singleton.mp among
      exact (first other behind whole otherWhole).within inside otherInside

/-- The classes that the top-level walk of a unit announces come in document order. -/
theorem pairwise_announced {unit : TranslationUnit} (isUnit : unit.root.kind = .translationUnit) :
    (((unit.cursor.toplevelWalk.map (·.1)).filter Expander.announces).map (·.node)).Pairwise
      Node.Precedes := by
  have rootKind : unit.cursor.kind = .translationUnit :=
    (Item.kind_scope unit.cursor.toItem).1.mpr ⟨rfl, isUnit⟩
  have unannounced : ¬ Expander.announces unit.cursor = true := by
    intro announces
    cases rootKind.symm.trans (kind_of_announces announces)
  have expanded : unit.cursor.toItem.kind.isExpanded = true := by
    rw [show unit.cursor.toItem.kind = _ from rootKind]
    rfl
  rw [toplevelWalk_eq, List.map_cons, List.filter_cons_of_neg unannounced]
  have inOrder := (announcesInOrder unit 0 (Item.wholesInOrder_children expanded)).2
  exact inOrder.imp fun before => before _ _ .refl .refl

end Cursor

end DeclScope
