import DeclScope.Cursor.Basic
import DeclScope.Proofs.Scope.Order

/-!
# What the children of a scope are

The children of a unit, a namespace, a linkage block or a record are found by a recursion through
its body that opens conditional groups and splits declarations.  Here they are said by a condition
on places.  A node is an *item* of a body if all nodes between the two are conditional groups, and
neither the node nor any of these groups is the guard of its parent.  Each item introduces children
of its own, none or one or several, and the children of the scope are those of all its items, in
preorder.  A record has its base clauses in front of them.

Two things are said apart: what one item introduces depends on the item only, and which nodes are
items depends on the kinds and places of nodes only.  So no item of any branch is lost, and no guard
comes in, however deep the groups are nested.

A linkage block may also have a single declaration instead of a list of them; such blocks are not
treated here.
-/

namespace DeclScope

/-- The unit of a linkage block with a group of three branches, which hold a comment and a
declaration of a struct and of two variables, a class, and a function. -/
def TranslationUnit.linked : TranslationUnit where
  filename := "linked.cpp"
  language := .cpp
  source := .ofString ("extern \"C\" \x7b\n#if X\n// c\nstruct S \x7b\x7d s, *t;\n" ++
    "#elif Y\nclass C;\n#else\nint f(int);\n#endif\n\x7d")
  arguments := []
  tree := .named .translationUnit none 0 86 [
    .named .linkageSpecification none 0 86 [
      .token "extern" 0,
      .named (.other "string_literal") none 7 10 [],
      .named .declarationList (some .body) 11 86 [
        .token "\x7b" 11,
        .named (.conditional .ifTrue) none 13 84 [
          .token "#if" 13,
          .named (.name .plain) (some .condition) 17 18 [],
          .named .comment none 19 23 [],
          .named .declaration none 24 42 [
            .named (.record .structKey) (some .type) 24 35 [
              .token "struct" 24,
              .named (.name .type) (some .name) 31 32 [],
              .named .memberList (some .body) 33 35 [.token "\x7b" 33, .token "\x7d" 34]],
            .named (.name .plain) (some .declarator) 36 37 [],
            .token "," 37,
            .named (.declarator .pointer false) (some .declarator) 39 41 [
              .token "*" 39,
              .named (.name .plain) (some .declarator) 40 41 []],
            .token ";" 41],
          .named (.conditional .elseIf) none 43 77 [
            .token "#elif" 43,
            .named (.name .plain) (some .condition) 49 50 [],
            .named (.record .classKey) none 51 58 [
              .token "class" 51,
              .named (.name .type) (some .name) 57 58 []],
            .token ";" 58,
            .named (.conditional .otherwise) none 60 77 [
              .token "#else" 60,
              .named .declaration none 66 77 [
                .named .primitiveType (some .type) 66 69 [],
                .named (.declarator .function false) (some .declarator) 70 76 [
                  .named (.name .plain) (some .declarator) 70 71 [],
                  .named (.other "parameter_list") (some .parameters) 71 76 [
                    .token "(" 71,
                    .named (.parameter .plain) none 72 75 [
                      .named .primitiveType (some .type) 72 75 []],
                    .token ")" 75]],
                .token ";" 76]]],
          .token "#endif" 78],
        .token "\x7d" 85]]]

/-- Conditional groups are of some form. -/
theorem Kind.isConditional_iff {kind : Kind} :
    kind.isConditional = true ↔ ∃ form, kind = .conditional form := by
  cases kind <;> simp [isConditional]

namespace Node

/-- The node that holds what a scope declares: the root of a unit, the list of declarations of a
namespace or a linkage block, the body of a record. -/
def container? (scope : Node) : Option Node :=
  match scope.kind with
  | .translationUnit => some scope
  | .namespaceDefinition | .linkageSpecification =>
    (scope.childIn? .body).filter (·.kind == .declarationList)
  | .record _ => scope.childIn? .body
  | _ => none

/-- The base clauses of a record; other scopes have none. -/
def baseClauses (scope : Node) : List Node :=
  match scope.kind with
  | .record _ => scope.namedChildren.filter (·.kind == .baseClause)
  | _ => []

/-- A node is a guard if it is the first child of its parent in the role of a name or of a
condition. -/
def IsGuard (node : Node) : Prop :=
  ∃ parent, node.parent? = some parent ∧
    (parent.childIn? .name = some node ∨ parent.childIn? .condition = some node)

/-- A node is an item of a body if it is named, all nodes strictly between are named conditional
groups, and no node on the way down to it, itself included, is a guard. -/
structure IsItemOf (body node : Node) : Prop where
  inside : body.Encloses node
  named : node.label.named = true
  groups : ∀ between, body.Encloses between → between.Encloses node →
    between.label.named = true ∧ between.kind.isConditional = true
  unguarded : ∀ step, body.Encloses step → step.Contains node → ¬ step.IsGuard

/-- What an item introduces into its scope.  Comments and groups introduce nothing themselves.  A
declaration introduces the record or enumeration that it specifies, if that has a body or there are
no declarators, and then one item for each of its declarators.  Anything else is introduced as it
is. -/
def introduced (item : Node) : List Item :=
  match item.kind with
  | .comment | .conditional _ => []
  | .declaration | .memberDeclaration | .typeDefinition =>
    let declarators := item.childrenIn .declarator
    let specifiers := (item.childIn? .type).toList.filter fun specifier =>
      specifier.kind.isScopedSpecifier ∧
        ((specifier.childIn? .body).isSome ∨ declarators = [])
    specifiers.map (⟨·, none⟩) ++ declarators.map (⟨item, some ·⟩)
  | _ => [⟨item, none⟩]

/-- A node and, if it is a conditional group, everything that its contents reach in the same way. -/
def reached (node : Node) : List Node :=
  match node.kind with
  | .conditional _ => node :: node.unguarded.attach.flatMap fun ⟨child, _⟩ => child.reached
  | _ => [node]
termination_by node.tree.size
decreasing_by exact size_lt_of_mem_children (mem_children_of_mem_unguarded (by assumption))

/-- The items of a body, in order. -/
def itemsOf (body : Node) : List Node := body.unguarded.flatMap reached

/-- What a group reaches is the group itself and the items of its contents. -/
theorem reached_of_group {node : Node} (isGroup : node.kind.isConditional = true) :
    node.reached = node :: node.itemsOf := by
  obtain ⟨form, isKind⟩ := Kind.isConditional_iff.mp isGroup
  rw [reached, isKind]
  simp [itemsOf]

/-- Any other node reaches itself only. -/
theorem reached_of_other {node : Node} (notGroup : node.kind.isConditional = false) :
    node.reached = [node] := by
  rw [reached]
  split
  · rename_i form isKind
    rw [isKind] at notGroup
    cases notGroup
  · rfl

/-- What a declaration introduces is what it lists. -/
theorem introduced_of_declaration {node : Node}
    (declares : node.kind ∈ [Kind.declaration, .memberDeclaration, .typeDefinition]) :
    node.introduced = node.declared := by
  have specifiers : ((node.childIn? .type).toList.filter fun specifier =>
      specifier.kind.isScopedSpecifier ∧
        ((specifier.childIn? .body).isSome ∨ node.childrenIn .declarator = [])) =
      node.hoisted?.toList := by
    rw [hoisted?, Option.toList_filter]
    refine List.filter_congr fun specifier _ => ?_
    rw [Bool.eq_iff_iff]
    simp
  simp only [List.mem_cons, List.not_mem_nil, or_false] at declares
  rcases declares with isKind | isKind | isKind <;>
    simp only [introduced, isKind, declared, specifiers]

/-- The items that a node lists are introduced by the nodes that it reaches. -/
theorem items_eq (node : Node) : node.items = node.reached.flatMap introduced := by
  fun_induction items node with
  | case1 node isComment =>
    rw [reached_of_other (by rw [isComment]; rfl), List.flatMap_singleton, introduced, isComment]
  | case2 node isKind | case3 node isKind | case4 node isKind =>
    rw [reached_of_other (by rw [isKind]; rfl), List.flatMap_singleton,
      introduced_of_declaration (by rw [isKind]; decide)]
  | case5 node form isGroup inductionHypothesis =>
    have nothing : node.introduced = [] := by rw [introduced, isGroup]
    rw [reached_of_group (by rw [isGroup]; rfl), List.flatMap_cons, nothing, List.nil_append,
      itemsOf, List.flatMap_assoc]
    simp only [List.flatMap_subtype, List.unattach_attach]
    exact List.flatMap_congr inductionHypothesis
  | case6 node notComment notDeclaration notMember notType notGroup =>
    have other : node.kind.isConditional = false := by
      rw [Bool.eq_false_iff, ne_eq, Kind.isConditional_iff, not_exists]
      exact notGroup
    rw [reached_of_other other, List.flatMap_singleton]
    unfold introduced
    split <;> simp_all

/-- The contents of a body are introduced by its items. -/
theorem contents_eq (body : Node) : body.contents = body.itemsOf.flatMap introduced := by
  rw [contents, itemsOf, List.flatMap_assoc]
  exact List.flatMap_congr fun child _ => items_eq child

/-- A node contains what it reaches. -/
theorem contains_of_mem_reached {inner node : Node} (mem : inner ∈ node.reached) :
    node.Contains inner := by
  fun_induction reached node with
  | case1 node form isGroup inductionHypothesis =>
    rcases List.mem_cons.mp mem with rfl | below
    · exact .refl
    · obtain ⟨⟨child, inside⟩, -, listed⟩ := List.mem_flatMap.mp below
      exact .head (mem_children_of_mem_unguarded inside) (inductionHypothesis child inside listed)
  | case2 node notGroup =>
    cases List.mem_singleton.mp mem
    exact .refl

/-- A body encloses its items. -/
theorem encloses_of_mem_itemsOf {node body : Node} (mem : node ∈ body.itemsOf) :
    body.Encloses node := by
  obtain ⟨child, inside, listed⟩ := List.mem_flatMap.mp mem
  exact .head' (mem_children_of_mem_unguarded inside) (contains_of_mem_reached listed)

/-- The items of a body ascend if what each child reaches does. -/
theorem pairwise_itemsOf_of_unguarded {body : Node}
    (each : ∀ child ∈ body.unguarded, child.reached.Pairwise Precedes) :
    body.itemsOf.Pairwise Precedes := by
  have inOrder : body.unguarded.Pairwise StandsBefore := pairwise_filter_namedChildren body _
  refine List.pairwise_flatMap.mpr ⟨each, inOrder.imp ?_⟩
  intro left right before first inLeft second inRight
  exact before first second (contains_of_mem_reached inLeft) (contains_of_mem_reached inRight)

/-- What a node reaches ascends. -/
theorem pairwise_reached (node : Node) : node.reached.Pairwise Precedes := by
  fun_induction reached node with
  | case1 node form isGroup inductionHypothesis =>
    simp only [List.flatMap_subtype, List.unattach_attach]
    refine List.pairwise_cons.mpr ⟨?_, pairwise_itemsOf_of_unguarded inductionHypothesis⟩
    intro inner below
    exact (encloses_of_mem_itemsOf below).precedes
  | case2 node _ => exact List.pairwise_singleton Precedes node

/-- The items of a body ascend. -/
theorem pairwise_itemsOf (body : Node) : body.itemsOf.Pairwise Precedes :=
  pairwise_itemsOf_of_unguarded fun child _ => pairwise_reached child

/-- A node reaches itself. -/
theorem mem_reached_self (node : Node) : node ∈ node.reached := by
  unfold reached
  split <;> exact List.mem_cons_self

/-- What is inside a reached group is reached. -/
theorem mem_reached_of_mem_unguarded {child group node : Node} (mem : group ∈ node.reached)
    (isGroup : group.kind.isConditional = true) (inside : child ∈ group.unguarded) :
    child ∈ node.reached := by
  fun_induction reached node with
  | case1 node form _ inductionHypothesis =>
    simp only [List.flatMap_subtype, List.unattach_attach] at mem ⊢
    rcases List.mem_cons.mp mem with rfl | below
    · exact List.mem_cons_of_mem _ (List.mem_flatMap.mpr ⟨child, inside, mem_reached_self child⟩)
    · obtain ⟨other, among, listed⟩ := List.mem_flatMap.mp below
      have reaches : child ∈ other.reached := inductionHypothesis other among listed
      exact List.mem_cons_of_mem _ (List.mem_flatMap.mpr ⟨other, among, reaches⟩)
  | case2 node notGroup =>
    cases List.mem_singleton.mp mem
    obtain ⟨form, isKind⟩ := Kind.isConditional_iff.mp isGroup
    exact absurd isKind (notGroup form)

/-- A child has only one parent. -/
theorem IsChild.unique {left right child : Node} (inLeft : left.IsChild child)
    (inRight : right.IsChild child) : left = right := by
  apply Option.some.inj
  rw [← parent?_of_mem_children inLeft, parent?_of_mem_children inRight]

/-- A child is enclosed by what contains its parent. -/
theorem encloses_child_iff {outer parent child : Node} (step : child ∈ parent.children) :
    outer.Encloses child ↔ outer.Contains parent := by
  constructor
  · intro inside
    obtain ⟨other, contained, last⟩ := Relation.TransGen.tail'_iff.mp inside
    cases IsChild.unique last step
    exact contained
  · intro contained
    exact .tail' contained step

/-- No node encloses a node that contains it. -/
theorem Encloses.not_contains {outer inner : Node} (inside : outer.Encloses inner) :
    ¬ inner.Contains outer := by
  intro back
  exact not_precedes_self outer (Encloses.precedes (Relation.TransGen.trans_left inside back))

/-- A child is a guard if its parent finds it first in one of the two roles. -/
theorem isGuard_child_iff {child parent : Node} (step : child ∈ parent.children) :
    child.IsGuard ↔
      parent.childIn? .name = some child ∨ parent.childIn? .condition = some child := by
  simp [IsGuard, parent?_of_mem_children step]

/-- An item is inside the body itself, or inside a group that is an item. -/
theorem isItemOf_iff {body node : Node} :
    body.IsItemOf node ↔ ∃ parent,
      (parent = body ∨ body.IsItemOf parent ∧ parent.kind.isConditional = true) ∧
        node ∈ parent.unguarded := by
  constructor
  · intro item
    obtain ⟨parent, contained, step⟩ := Relation.TransGen.tail'_iff.mp item.inside
    have inside : node ∈ parent.unguarded := by
      have free := item.unguarded node item.inside .refl
      rw [isGuard_child_iff step, not_or] at free
      exact mem_unguarded_iff.mpr ⟨List.mem_filter.mpr ⟨step, item.named⟩, free⟩
    refine ⟨parent, ?_, inside⟩
    rcases Relation.reflTransGen_iff_eq_or_transGen.mp contained with isBody | enclosed
    · exact .inl isBody
    · obtain ⟨named, isGroup⟩ := item.groups parent enclosed (.single step)
      refine .inr ⟨⟨enclosed, named, ?_, ?_⟩, isGroup⟩
      · intro between outside below
        exact item.groups between outside (.tail below step)
      · intro way outside below
        exact item.unguarded way outside (.tail below step)
  · rintro ⟨parent, above, inside⟩
    obtain ⟨listed, notName, notCondition⟩ := mem_unguarded_iff.mp inside
    have step : node ∈ parent.children := mem_children_of_mem_namedChildren listed
    have free : ¬ node.IsGuard := by
      rw [isGuard_child_iff step, not_or]
      exact ⟨notName, notCondition⟩
    -- A node strictly between contains the parent, so there is none if the parent is the body.
    have between {way : Node} (outside : body.Encloses way) (below : way.Encloses node) :
        (body.IsItemOf parent ∧ parent.kind.isConditional = true) ∧ way.Contains parent := by
      have contained : way.Contains parent := (encloses_child_iff step).mp below
      rcases above with rfl | group
      · exact absurd contained outside.not_contains
      · exact ⟨group, contained⟩
    refine ⟨?_, (List.mem_filter.mp listed).2, ?_, ?_⟩
    · rw [encloses_child_iff step]
      rcases above with rfl | ⟨item, -⟩
      · exact .refl
      · exact item.inside.to_reflTransGen
    · intro way outside below
      obtain ⟨⟨item, isGroup⟩, contained⟩ := between outside below
      rcases Relation.reflTransGen_iff_eq_or_transGen.mp contained with rfl | enclosed
      · exact ⟨item.named, isGroup⟩
      · exact item.groups way outside enclosed
    · intro way outside below
      rcases Relation.reflTransGen_iff_eq_or_transGen.mp below with rfl | enclosed
      · exact free
      · obtain ⟨⟨item, -⟩, contained⟩ := between outside enclosed
        exact item.unguarded way outside contained

/-- What an item reaches are items. -/
theorem IsItemOf.of_mem_reached {body inner node : Node} (item : body.IsItemOf node)
    (mem : inner ∈ node.reached) : body.IsItemOf inner := by
  fun_induction reached node with
  | case1 node form isGroup inductionHypothesis =>
    rcases List.mem_cons.mp mem with rfl | below
    · exact item
    · obtain ⟨⟨child, inside⟩, -, listed⟩ := List.mem_flatMap.mp below
      have childItem : body.IsItemOf child :=
        isItemOf_iff.mpr ⟨node, .inr ⟨item, by rw [isGroup]; rfl⟩, inside⟩
      exact inductionHypothesis child inside childItem listed
  | case2 node _ =>
    cases List.mem_singleton.mp mem
    exact item

/-- An item is listed if the group around it is, in case that is an item. -/
theorem IsItemOf.mem_itemsOf_of_parent {body node : Node} (item : body.IsItemOf node)
    (earlier : ∀ group, body.IsItemOf group → group.IsChild node → group ∈ body.itemsOf) :
    node ∈ body.itemsOf := by
  obtain ⟨parent, rfl | ⟨above, isGroup⟩, inside⟩ := isItemOf_iff.mp item
  · exact List.mem_flatMap.mpr ⟨node, inside, mem_reached_self node⟩
  · have listed : parent ∈ body.itemsOf :=
      earlier parent above (mem_children_of_mem_unguarded inside)
    obtain ⟨child, among, reaches⟩ := List.mem_flatMap.mp listed
    exact List.mem_flatMap.mpr ⟨child, among, mem_reached_of_mem_unguarded reaches isGroup inside⟩

/-- The list of items holds exactly the items.

One way goes down with the recursion, the other up from the item: its parent is the body, or a group
that is an item itself and so already listed. -/
theorem mem_itemsOf_iff {body node : Node} : node ∈ body.itemsOf ↔ body.IsItemOf node := by
  constructor
  · intro mem
    obtain ⟨child, inside, listed⟩ := List.mem_flatMap.mp mem
    have item : body.IsItemOf child := isItemOf_iff.mpr ⟨body, .inl rfl, inside⟩
    exact item.of_mem_reached listed
  · intro item
    have inside : body.Encloses node := item.inside
    induction inside with
    | single step =>
      apply item.mem_itemsOf_of_parent
      intro group above isParent
      cases IsChild.unique isParent step
      exact absurd .refl above.inside.not_contains
    | tail _ step inductionHypothesis =>
      apply item.mem_itemsOf_of_parent
      intro group above isParent
      cases IsChild.unique isParent step
      exact inductionHypothesis above

end Node

/-- What is right below a scope: its base clauses, and what its body lists. -/
theorem Item.childrenOfNode_of_container? {scope body : Node}
    (isBody : scope.container? = some body) :
    childrenOfNode scope = scope.baseClauses.map (⟨·, none⟩) ++ body.contents := by
  unfold Node.container? at isBody
  unfold childrenOfNode Node.baseClauses
  cases isKind : scope.kind with
  | translationUnit =>
    simp only [isKind] at isBody
    cases isBody
    rfl
  | namespaceDefinition | linkageSpecification =>
    simp only [isKind] at isBody
    obtain ⟨found, isList⟩ := Option.filter_eq_some_iff.mp isBody
    simp [found, beq_iff_eq.mp isList]
  | record key =>
    simp only [isKind] at isBody
    simp [isBody]
  | _ => simp [isKind] at isBody

namespace Cursor

/-- The children of a scope are what the items of its body introduce, in preorder, with the base
clauses in front if it is a record. -/
theorem children_of_scope {cursor : Cursor} {body : Node} (whole : cursor.declarator? = none)
    (isBody : cursor.node.container? = some body) :
    ∃ items : List Node, items.Pairwise Node.Precedes ∧
      (∀ node, node ∈ items ↔ body.IsItemOf node) ∧
      cursor.children = (cursor.node.baseClauses.map (Item.mk · none) ++
        items.flatMap Node.introduced).map (⟨·, cursor.unit⟩) := by
  refine ⟨body.itemsOf, body.pairwise_itemsOf, fun node => Node.mem_itemsOf_iff, ?_⟩
  have below : cursor.toItem.children = Item.childrenOfNode cursor.node := by
    rw [Item.children, whole]
  rw [children, below, Item.childrenOfNode_of_container? isBody, Node.contents_eq]

/-- In the linkage block with three branches: the struct and the two variables of the first branch,
the class of the second and the function of the third. -/
theorem children_of_scope_linked :
    ∃ cursor body, TranslationUnit.linked.cursor.descend? [0] = some cursor ∧
      cursor.declarator? = none ∧ cursor.node.container? = some body ∧
      cursor.children.map (·.kind) = [.structDecl, .varDecl, .varDecl, .classDecl, .functionDecl] ∧
      ∃ items : List Node, items.Pairwise Node.Precedes ∧
        (∀ node, node ∈ items ↔ body.IsItemOf node) ∧
        cursor.children = (cursor.node.baseClauses.map (Item.mk · none) ++
          items.flatMap Node.introduced).map (⟨·, cursor.unit⟩) := by
  obtain ⟨cursor, found⟩ := Option.isSome_iff_exists.mp
    (show (TranslationUnit.linked.cursor.descend? [0]).isSome = true by decide +kernel)
  have isBlock : (TranslationUnit.linked.cursor.descend? [0]).any (fun cursor =>
      cursor.declarator?.isNone && cursor.node.container?.isSome &&
        decide (cursor.children.map (·.kind) =
          [.structDecl, .varDecl, .varDecl, .classDecl, .functionDecl])) = true := by
    decide +kernel
  rw [found, Option.any_some, Bool.and_eq_true, Bool.and_eq_true] at isBlock
  obtain ⟨⟨whole, hasBody⟩, kinds⟩ := isBlock
  obtain ⟨body, isBody⟩ := Option.isSome_iff_exists.mp hasBody
  rw [Option.isNone_iff_eq_none] at whole
  exact ⟨cursor, body, found, whole, isBody, of_decide_eq_true kinds,
    children_of_scope whole isBody⟩

end Cursor

end DeclScope
