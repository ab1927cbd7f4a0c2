import DeclScope.Proofs.Scope.Containment
import DeclScope.Proofs.Tree.Positions

/-!
# The items of a scope in document order

An item is anchored at its declarator if it has one, and at its node otherwise.  The items below an
item are listed in the order of their anchors, and no two of them share a part of the tree:
everything in the anchor of one comes before everything in the anchor of the next.

In three places the order of the items is fixed by the kind of the node and not by the order of its
children: a declaration lists the type that it defines before its declarators, a record its bases
before the contents of its body, a function its parameters before its body.  There the grammars
write the children in the same order, which is taken as given of a tree here.  All other items are
listed as they stand.
-/

namespace DeclScope

namespace Node

/-- The children that are listed by their roles stand in the order in which they are listed: the
type of a declaration before its declarators, the bases of a record before its body, the declarator
of a function before its body. -/
def InGrammarOrder (node : Node) : Prop :=
  (node.kind ∈ [Kind.declaration, .memberDeclaration, .typeDefinition] →
    ∀ type ∈ node.childIn? .type, ∀ declarator ∈ node.childrenIn .declarator,
      type.Precedes declarator) ∧
  (node.kind ∈ [Kind.record .classKey, .record .structKey, .record .unionKey] →
    ∀ base ∈ node.children, base.kind = .baseClause → ∀ body ∈ node.childIn? .body,
      base.Precedes body) ∧
  (node.kind = .functionDefinition →
    ∀ declarator ∈ node.childIn? .declarator, ∀ body ∈ node.childIn? .body,
      declarator.Precedes body)

instance (node : Node) : Decidable node.InGrammarOrder :=
  inferInstanceAs (Decidable (_ ∧ _ ∧ _))

/-- The named children that a property picks stand one before the other. -/
theorem pairwise_filter_namedChildren (node : Node) (keep : Node → Bool) :
    (node.namedChildren.filter keep).Pairwise StandsBefore :=
  ((pairwise_children node).filter _).filter _

end Node

/-- All nodes of the tree have their children in the order of the grammar. -/
def Tree.InGrammarOrder (tree : Tree) : Prop :=
  ∀ node ∈ (Node.root tree).nodes, node.InGrammarOrder

instance (tree : Tree) : Decidable tree.InGrammarOrder :=
  inferInstanceAs (Decidable (∀ node ∈ _, _))

namespace Item

/-- Everything in the anchor of the left item comes before everything in that of the right one. -/
def StandsBefore (left right : Item) : Prop := left.anchor.StandsBefore right.anchor

/-- A well-formed item is anchored inside its node. -/
theorem WellFormed.contains_anchor {item : Item} (formed : item.WellFormed) :
    item.node.Contains item.anchor := by
  unfold anchor
  cases isDeclarator : item.declarator? with
  | none => exact .refl
  | some declarator => exact .single (formed declarator isDeclarator)

/-- Whole nodes in order are items in order. -/
theorem pairwise_map_node {nodes : List Node} (inOrder : nodes.Pairwise Node.StandsBefore) :
    (nodes.map (⟨·, none⟩)).Pairwise StandsBefore :=
  List.pairwise_map.mpr inOrder

end Item

namespace Node

/-- The items of a node are anchored inside it. -/
theorem contains_anchor_of_mem_items {item : Item} {node : Node} (mem : item ∈ node.items) :
    node.Contains item.anchor := by
  obtain ⟨contained, formed⟩ := contains_of_mem_items mem
  exact Relation.ReflTransGen.trans contained formed.contains_anchor

/-- The items of a declaration are in order: its type precedes its declarators. -/
theorem pairwise_declared {node : Node} (ordered : node.InGrammarOrder)
    (declares : node.kind ∈ [Kind.declaration, .memberDeclaration, .typeDefinition]) :
    node.declared.Pairwise Item.StandsBefore := by
  have inFront : (node.hoisted?.toList.map fun specifier => (⟨specifier, none⟩ : Item)).Pairwise
      Item.StandsBefore := by
    apply Item.pairwise_map_node
    cases node.hoisted? with
    | none => exact .nil
    | some specifier => exact List.pairwise_singleton StandsBefore specifier
  have declarators : ((node.childrenIn .declarator).map fun declarator =>
      (⟨node, some declarator⟩ : Item)).Pairwise Item.StandsBefore :=
    List.pairwise_map.mpr ((pairwise_children node).filter _)
  refine List.pairwise_append.mpr ⟨inFront, declarators, ?_⟩
  intro left inLeft right inRight
  obtain ⟨specifier, hoisted, rfl⟩ := List.mem_map.mp inLeft
  obtain ⟨declarator, among, rfl⟩ := List.mem_map.mp inRight
  have isHoisted : node.hoisted? = some specifier := Option.mem_toList.mp hoisted
  have isType : node.childIn? .type = some specifier :=
    (Option.filter_eq_some_iff.mp isHoisted).1
  have first : specifier.Precedes declarator := ordered.1 declares specifier isType declarator among
  exact first.standsBefore (mem_children_of_hoisted? isHoisted)
    (mem_children_of_mem_childrenIn among)

/-- The items in the body of a scope are in order if those of each child are. -/
theorem pairwise_contents {scope : Node}
    (each : ∀ child ∈ scope.unguarded, child.items.Pairwise Item.StandsBefore) :
    scope.contents.Pairwise Item.StandsBefore := by
  have inOrder : scope.unguarded.Pairwise StandsBefore :=
    ((pairwise_children scope).filter _).filter _
  refine List.pairwise_flatMap.mpr ⟨each, inOrder.imp ?_⟩
  intro left right before first inLeft second inRight
  -- Both anchors lie in the children that the items come from.
  exact before.within (contains_anchor_of_mem_items inLeft) (contains_anchor_of_mem_items inRight)

/-- The items of a node are in order. -/
theorem pairwise_items {node : Node}
    (ordered : ∀ below, node.Contains below → below.InGrammarOrder) :
    node.items.Pairwise Item.StandsBefore := by
  fun_induction items node with
  | case1 => exact .nil
  | case2 node isKind | case3 node isKind | case4 node isKind =>
    apply pairwise_declared (ordered node .refl)
    rw [isKind]
    decide
  | case5 node _ _ inductionHypothesis =>
    have each : ∀ child ∈ node.unguarded, child.items.Pairwise Item.StandsBefore := by
      intro child inside
      apply inductionHypothesis child inside
      intro below contained
      exact ordered below (.head (mem_children_of_mem_unguarded inside) contained)
    simpa [contents] using pairwise_contents each
  | case6 node => exact List.pairwise_singleton Item.StandsBefore _

/-- The items in the body of a scope are in order. -/
theorem pairwise_contents_of_ordered {scope : Node}
    (ordered : ∀ below, scope.Contains below → below.InGrammarOrder) :
    scope.contents.Pairwise Item.StandsBefore := by
  apply pairwise_contents
  intro child inside
  apply pairwise_items
  intro below contained
  exact ordered below (.head (mem_children_of_mem_unguarded inside) contained)

/-- The parameters of a function are in order. -/
theorem pairwise_parameters (function : Node) : function.parameters.Pairwise StandsBefore := by
  unfold parameters
  split
  · exact pairwise_filter_namedChildren _ _
  · exact .nil

end Node

namespace Item

/-- The parameters of a declarator are in order. -/
theorem pairwise_parametersOf (declarator? : Option Node) :
    (parametersOf declarator?).Pairwise StandsBefore := by
  unfold parametersOf
  split
  · exact pairwise_map_node (Node.pairwise_parameters _)
  · exact .nil

/-- What stands in one child comes before what stands in a later one. -/
theorem standsBefore_of_children {node earlier later : Node} {left right : Item}
    (first : earlier.Precedes later) (inEarlier : earlier ∈ node.children)
    (inLater : later ∈ node.children) (inLeft : earlier.Contains left.anchor)
    (inRight : later.Contains right.anchor) : left.StandsBefore right :=
  (first.standsBefore inEarlier inLater).within inLeft inRight

/-- The items of a record are in order: its bases precede its body. -/
theorem pairwise_childrenOfNode_record {node : Node} {key : RecordKey}
    (isRecord : node.kind = .record key)
    (ordered : ∀ below, node.Contains below → below.InGrammarOrder) :
    (childrenOfNode node).Pairwise StandsBefore := by
  have isKind : node.kind ∈ [Kind.record .classKey, .record .structKey, .record .unionKey] := by
    rw [isRecord]
    cases key <;> decide
  have bases : ((node.namedChildren.filter (·.kind == .baseClause)).map fun base =>
      (⟨base, none⟩ : Item)).Pairwise StandsBefore :=
    pairwise_map_node (Node.pairwise_filter_namedChildren _ _)
  simp only [childrenOfNode, isRecord]
  cases found : node.childIn? .body with
  | none => simpa using bases
  | some body =>
    have inside : body ∈ node.children := Node.mem_children_of_childIn? found
    have members : body.contents.Pairwise StandsBefore :=
      Node.pairwise_contents_of_ordered fun below contained =>
        ordered below (.head inside contained)
    refine List.pairwise_append.mpr ⟨bases, members, ?_⟩
    intro left inLeft right inRight
    obtain ⟨base, listed, rfl⟩ := List.mem_map.mp inLeft
    obtain ⟨named, isBase⟩ := List.mem_filter.mp listed
    have isChild : base ∈ node.children := Node.mem_children_of_mem_namedChildren named
    have first : base.Precedes body :=
      (ordered node .refl).2.1 isKind base isChild (beq_iff_eq.mp isBase) body found
    obtain ⟨child, among, below⟩ := List.mem_flatMap.mp inRight
    refine standsBefore_of_children first isChild inside .refl ?_
    exact .head (Node.mem_children_of_mem_unguarded among)
      (Node.contains_anchor_of_mem_items below)

/-- The items of a function are in order: its declarator precedes its body. -/
theorem pairwise_childrenOfNode_function {node : Node}
    (isFunction : node.kind = .functionDefinition) (ordered : node.InGrammarOrder) :
    (childrenOfNode node).Pairwise StandsBefore := by
  simp only [childrenOfNode, isFunction]
  refine List.pairwise_append.mpr ⟨pairwise_parametersOf _, ?_, ?_⟩
  · apply pairwise_map_node
    cases node.childIn? .body with
    | none => exact .nil
    | some body => exact List.pairwise_singleton Node.StandsBefore body
  · intro left inLeft right inRight
    obtain ⟨body, listed, rfl⟩ := List.mem_map.mp inRight
    have isBody : node.childIn? .body = some body := Option.mem_toList.mp listed
    cases found : node.childIn? .declarator with
    | none => simp [found, parametersOf] at inLeft
    | some declarator =>
      rw [found] at inLeft
      obtain ⟨enclosed, formed⟩ := encloses_of_mem_parametersOf inLeft
      refine standsBefore_of_children (ordered.2.2 isFunction declarator found body isBody)
        (Node.mem_children_of_childIn? found) (Node.mem_children_of_childIn? isBody) ?_ .refl
      exact Relation.ReflTransGen.trans enclosed.to_reflTransGen formed.contains_anchor

/-- What is right below a node is in order.

A unit, a namespace and a linkage block list the contents of a body, an enumeration its enumerators,
and any other node its named children; records and functions also rely on the order of their
children. -/
theorem pairwise_childrenOfNode {node : Node}
    (ordered : ∀ below, node.Contains below → below.InGrammarOrder) :
    (childrenOfNode node).Pairwise StandsBefore := by
  have block {body : Node} (found : node.childIn? .body = some body) :
      (if body.kind = .declarationList then body.contents else body.items).Pairwise
        StandsBefore := by
    have inBody : ∀ below, body.Contains below → below.InGrammarOrder := fun below contained =>
      ordered below (.head (Node.mem_children_of_childIn? found) contained)
    split
    · exact Node.pairwise_contents_of_ordered inBody
    · exact Node.pairwise_items inBody
  cases isKind : node.kind with
  | record key => exact pairwise_childrenOfNode_record isKind ordered
  | functionDefinition => exact pairwise_childrenOfNode_function isKind (ordered node .refl)
  | translationUnit =>
    simp only [childrenOfNode, isKind]
    exact Node.pairwise_contents_of_ordered ordered
  | namespaceDefinition | linkageSpecification =>
    simp only [childrenOfNode, isKind]
    split
    · rename_i body found
      exact block found
    · exact .nil
  | enumSpecifier =>
    simp only [childrenOfNode, isKind]
    split
    · exact pairwise_map_node (Node.pairwise_filter_namedChildren _ _)
    · exact .nil
  | _ =>
    simp only [childrenOfNode, isKind]
    exact pairwise_map_node (Node.pairwise_filter_namedChildren _ _)

/-- What is right below an item is in order. -/
theorem pairwise_children {item : Item}
    (ordered : ∀ below, item.node.Contains below → below.InGrammarOrder) :
    item.children.Pairwise StandsBefore := by
  unfold children
  split
  · exact pairwise_parametersOf _
  · exact pairwise_childrenOfNode ordered

/-- What is right below an item is anchored strictly inside its anchor. -/
theorem encloses_anchor_of_mem_children {child item : Item} (mem : child ∈ item.children) :
    item.anchor.Encloses child.anchor := by
  have below : item.anchor.Encloses child.node ∧ child.WellFormed := by
    unfold children at mem
    unfold anchor
    split at mem
    · rename_i declarator isDeclarator
      rw [isDeclarator]
      exact encloses_of_mem_parametersOf mem
    · rename_i isNode
      rw [isNode]
      exact encloses_of_mem_childrenOfNode mem
  exact Relation.TransGen.trans_left below.1 below.2.contains_anchor

end Item

end DeclScope
