import DeclScope.Cursor.Type
import DeclScope.Proofs.Cursor.Usr
import DeclScope.Proofs.Scope.Contents

/-!
# The enumerators of an enumeration

An enumerator belongs to the body of an enumeration if it is right inside the body, or inside a
conditional group that is nested in it to any depth.  The children of an enumeration are found
without opening groups: they are the enumerators right inside the body, in order, and those in
groups are not among them.  All other scopes open the groups in their bodies.

The type of an enumerator is found from its node upwards, and there groups make no difference.  So
each enumerator of the body has the type of the enumeration, also one that is not listed.
-/

namespace DeclScope

/-- The unit of an enumeration with one enumerator inside a conditional group and one behind it. -/
def TranslationUnit.optional : TranslationUnit where
  filename := "optional.cpp"
  language := .cpp
  source := .ofString "enum E \x7b\n#if X\n A,\n#endif\n B \x7d;"
  arguments := []
  tree := .named .translationUnit none 0 31 [
    .named .enumSpecifier none 0 30 [
      .token "enum" 0,
      .named (.name .type) (some .name) 5 6 [],
      .named (.other "enumerator_list") (some .body) 7 30 [
        .token "\x7b" 7,
        .named (.conditional .ifTrue) none 9 25 [
          .token "#if" 9,
          .named (.name .plain) (some .condition) 13 14 [],
          .token "\n" 14,
          .named .enumerator none 16 17 [.named (.name .plain) (some .name) 16 17 []],
          .token "," 17,
          .token "#endif" 19],
        .named .enumerator none 27 28 [.named (.name .plain) (some .name) 27 28 []],
        .token "\x7d" 29]],
    .token ";" 30]

namespace Node

/-- One step down into a conditional group. -/
def HasGroup (outer group : Node) : Prop :=
  group ∈ outer.namedChildren ∧ group.kind.isConditional = true

/-- The body has the enumerator: right inside, or inside a group that is nested in it to any
depth. -/
def HasEnumerator (body enumerator : Node) : Prop :=
  ∃ holder, Relation.ReflTransGen HasGroup body holder ∧
    enumerator ∈ holder.namedChildren ∧ enumerator.kind = .enumerator

/-- The nearest enumeration around a node. -/
def enumeration? (node : Node) : Option Node := node.ancestors.find? (·.kind == .enumSpecifier)

/-- A step down from a node that is no enumeration keeps the nearest enumeration. -/
theorem enumeration?_of_mem_children {child node : Node} (mem : child ∈ node.children)
    (other : node.kind ≠ .enumSpecifier) : child.enumeration? = node.enumeration? := by
  rw [enumeration?, ancestors_of_mem_children mem, List.find?_cons_of_neg (by simpa using other)]
  rfl

/-- Nested groups are inside the body. -/
theorem contains_of_groups {body holder : Node}
    (nested : Relation.ReflTransGen HasGroup body holder) : body.Contains holder := by
  induction nested with
  | refl => exact .refl
  | tail _ step inductionHypothesis =>
    exact .tail inductionHypothesis (mem_children_of_mem_namedChildren step.1)

/-- An enumerator of a body is inside the body. -/
theorem HasEnumerator.inside {body enumerator : Node} (has : body.HasEnumerator enumerator) :
    body.Encloses enumerator := by
  obtain ⟨holder, nested, listed, -⟩ := has
  exact .tail' (contains_of_groups nested) (mem_children_of_mem_namedChildren listed)

/-- An enumerator of a body is in the same enumeration as the body, at any depth of groups. -/
theorem HasEnumerator.enumeration?_eq {body enumerator : Node}
    (has : body.HasEnumerator enumerator) (other : body.kind ≠ .enumSpecifier) :
    enumerator.enumeration? = body.enumeration? := by
  obtain ⟨holder, nested, listed, -⟩ := has
  have isChild := mem_children_of_mem_namedChildren listed
  clear listed
  induction nested generalizing enumerator with
  | refl => exact enumeration?_of_mem_children isChild other
  | tail _ step inductionHypothesis =>
    obtain ⟨inHolder, isGroup⟩ := step
    obtain ⟨form, isKind⟩ := Kind.isConditional_iff.mp isGroup
    rw [enumeration?_of_mem_children isChild (by simp [isKind])]
    exact inductionHypothesis (mem_children_of_mem_namedChildren inHolder)

/-- The enumerators right inside a body, in order. -/
def outerEnumerators (body : Node) : List Node :=
  body.namedChildren.filter (·.kind == .enumerator)

/-- The enumerators right inside a body are those that it has among its children. -/
theorem mem_outerEnumerators_iff {body node : Node} :
    node ∈ body.outerEnumerators ↔ body.HasEnumerator node ∧ node ∈ body.children := by
  rw [outerEnumerators, List.mem_filter, beq_iff_eq]
  constructor
  · rintro ⟨listed, isEnumerator⟩
    exact ⟨⟨body, .refl, listed, isEnumerator⟩, mem_children_of_mem_namedChildren listed⟩
  · rintro ⟨⟨holder, -, listed, isEnumerator⟩, isChild⟩
    cases IsChild.unique (mem_children_of_mem_namedChildren listed) isChild
    exact ⟨listed, isEnumerator⟩

/-- The enumerators right inside a body ascend. -/
theorem pairwise_outerEnumerators (body : Node) : body.outerEnumerators.Pairwise Precedes :=
  (pairwise_filter_namedChildren body _).imp fun before => before _ _ .refl .refl

open Classical in
/-- All enumerators of a body form a list in preorder. -/
theorem exists_enumerators (body : Node) : ∃ enumerators : List Node,
    enumerators.Pairwise Precedes ∧ ∀ node, node ∈ enumerators ↔ body.HasEnumerator node := by
  refine ⟨body.nodes.filter (body.HasEnumerator ·), (pairwise_nodes body).filter _, ?_⟩
  intro node
  rw [List.mem_filter, mem_nodes_iff, decide_eq_true_eq]
  exact and_iff_right_of_imp fun has => has.inside.to_reflTransGen

instance : Std.Irrefl Precedes where
  irrefl := not_precedes_self

end Node

namespace Cursor

/-- An enumeration lists the enumerators right inside its body. -/
theorem children_of_enum {cursor : Cursor} {body : Node} (isEnum : cursor.kind = .enumDecl)
    (found : cursor.node.childIn? .body = some body) :
    cursor.children = body.outerEnumerators.map (⟨⟨·, none⟩, cursor.unit⟩) := by
  obtain ⟨whole, sameKind⟩ := Item.kind_specifier (.inr isEnum)
  have isNode := (Item.kindOfNode_specifier cursor.node).2 (sameKind ▸ isEnum)
  rw [children, Item.children, whole]
  simp only [Item.childrenOfNode, isNode, found, List.map_map]
  rfl

/-- An enumerator in an enumeration has the type that the enumeration names. -/
theorem type_of_enumerator {node enumeration : Node} (unit : TranslationUnit)
    (isEnumerator : node.kind = .enumerator) (around : node.enumeration? = some enumeration) :
    type ⟨⟨node, none⟩, unit⟩ = .ofSpecifier unit.source enumeration := by
  have isConstant : kind ⟨⟨node, none⟩, unit⟩ = .enumConstant := by
    rw [kind, Item.kind, Item.kindOfNode, isEnumerator]
  rw [Node.enumeration?] at around
  rw [type, typeSource, isConstant]
  simp only [around]

/-- Each enumerator of the body, listed or not, has the type of the enumeration. -/
theorem type_of_hasEnumerator {cursor : Cursor} {body node : Node}
    (isEnum : cursor.kind = .enumDecl) (found : cursor.node.childIn? .body = some body)
    (other : body.kind ≠ .enumSpecifier) (has : body.HasEnumerator node) :
    type ⟨⟨node, none⟩, cursor.unit⟩ = cursor.type := by
  obtain ⟨-, sameKind⟩ := Item.kind_specifier (.inr isEnum)
  have isNode := (Item.kindOfNode_specifier cursor.node).2 (sameKind ▸ isEnum)
  have around : node.enumeration? = some cursor.node := by
    rw [has.enumeration?_eq other, Node.enumeration?,
      Node.ancestors_of_mem_children (Node.mem_children_of_childIn? found),
      List.find?_cons_of_pos (by simp [isNode])]
  obtain ⟨_, -, -, isEnumerator⟩ := has
  rw [type_of_enumerator cursor.unit isEnumerator around, type, typeSource, isEnum]

/-- Let an enumeration have a body.  All enumerators of the body, at any depth of conditional
groups, have the type of the enumeration, unless the body is an enumeration itself.  The children
are those right inside the body, in order and each once.  So the children are all enumerators exactly
when no enumerator is in a group. -/
theorem enumerators_of_enum {cursor : Cursor} {body : Node} (isEnum : cursor.kind = .enumDecl)
    (found : cursor.node.childIn? .body = some body) :
    ∃ all listed : List Node,
      all.Pairwise Node.Precedes ∧ (∀ node, node ∈ all ↔ body.HasEnumerator node) ∧
      (body.kind ≠ .enumSpecifier →
        ∀ node ∈ all, type ⟨⟨node, none⟩, cursor.unit⟩ = cursor.type) ∧
      listed.Pairwise Node.Precedes ∧
      (∀ node, node ∈ listed ↔ body.HasEnumerator node ∧ node ∈ body.children) ∧
      cursor.children = listed.map (⟨⟨·, none⟩, cursor.unit⟩) ∧
      (cursor.children = all.map (⟨⟨·, none⟩, cursor.unit⟩) ↔
        ∀ node, body.HasEnumerator node → node ∈ body.children) := by
  obtain ⟨all, ascending, mem_all⟩ := body.exists_enumerators
  have isListed := children_of_enum isEnum found
  refine ⟨all, body.outerEnumerators, ascending, mem_all, ?_, body.pairwise_outerEnumerators,
    fun node => Node.mem_outerEnumerators_iff, isListed, ?_⟩
  · intro other node mem
    exact type_of_hasEnumerator isEnum found other ((mem_all node).mp mem)
  · rw [isListed]
    constructor
    · intro same node has
      have injective : Function.Injective
          (fun node : Node => (⟨⟨node, none⟩, cursor.unit⟩ : Cursor)) := by
        intro left right equal
        cases equal
        rfl
      rw [← mem_all, ← List.map_injective_iff.mpr injective same] at has
      exact (Node.mem_outerEnumerators_iff.mp has).2
    · intro direct
      have same : body.outerEnumerators = all := by
        refine body.pairwise_outerEnumerators.eq_of_mem_iff ascending ?_
        intro node
        rw [Node.mem_outerEnumerators_iff, mem_all]
        exact and_iff_left_of_imp (direct node)
      rw [same]

/-- The enumeration with one enumerator in a group and one behind it: only the second is listed, and
it has the type of the enumeration. -/
theorem enumerators_of_enum_optional :
    ∃ cursor body, TranslationUnit.optional.cursor.descend? [0] = some cursor ∧
      cursor.kind = .enumDecl ∧ cursor.node.childIn? .body = some body ∧
      body.kind ≠ .enumSpecifier ∧ cursor.children.map (·.spelling) = ["B"] ∧
      ∀ child ∈ cursor.children, child.type = cursor.type := by
  obtain ⟨cursor, isCursor⟩ := Option.isSome_iff_exists.mp
    (show (TranslationUnit.optional.cursor.descend? [0]).isSome = true by decide +kernel)
  have facts : (TranslationUnit.optional.cursor.descend? [0]).any (fun cursor =>
      cursor.kind == .enumDecl && (cursor.node.childIn? .body).any (·.kind != .enumSpecifier) &&
        cursor.children.map (·.spelling) == ["B"]) = true := by
    decide +kernel
  rw [isCursor, Option.any_some, Bool.and_eq_true, Bool.and_eq_true] at facts
  obtain ⟨⟨isEnum, hasBody⟩, spellings⟩ := facts
  rw [beq_iff_eq] at isEnum spellings
  obtain ⟨body, found, other⟩ := (Option.any_eq_true _ _).mp hasBody
  rw [bne_iff_ne] at other
  refine ⟨cursor, body, isCursor, isEnum, found, other, spellings, ?_⟩
  obtain ⟨all, listed, -, mem_all, types, -, mem_listed, isListed, -⟩ :=
    enumerators_of_enum isEnum found
  intro child mem
  rw [isListed] at mem
  obtain ⟨node, isNode, rfl⟩ := List.mem_map.mp mem
  exact types other node ((mem_all node).mpr ((mem_listed node).mp isNode).1)

/-- The body of that enumeration has an enumerator `A`, which is not among the children. -/
theorem enumerators_of_enum_lost :
    ∃ cursor body node, TranslationUnit.optional.cursor.descend? [0] = some cursor ∧
      cursor.kind = .enumDecl ∧ cursor.node.childIn? .body = some body ∧
      body.HasEnumerator node ∧ spelling ⟨⟨node, none⟩, cursor.unit⟩ = "A" ∧
      ⟨⟨node, none⟩, cursor.unit⟩ ∉ cursor.children := by
  obtain ⟨cursor, isCursor⟩ := Option.isSome_iff_exists.mp
    (show (TranslationUnit.optional.cursor.descend? [0]).isSome = true by decide +kernel)
  have facts : (TranslationUnit.optional.cursor.descend? [0]).any (fun cursor =>
      cursor.kind == .enumDecl && cursor.children.all (·.spelling == "B") &&
        (cursor.node.childIn? .body).any fun body => body.namedChildren.any fun group =>
          group.kind.isConditional && group.namedChildren.any fun node =>
            node.kind == .enumerator && spelling ⟨⟨node, none⟩, cursor.unit⟩ == "A") = true := by
    decide +kernel
  rw [isCursor, Option.any_some, Bool.and_eq_true, Bool.and_eq_true] at facts
  obtain ⟨⟨isEnum, onlyB⟩, hasBody⟩ := facts
  obtain ⟨body, found, hasGroup⟩ := (Option.any_eq_true _ _).mp hasBody
  obtain ⟨group, inBody, hasNode⟩ := List.any_eq_true.mp hasGroup
  rw [Bool.and_eq_true] at hasNode
  obtain ⟨isGroup, inGroup⟩ := hasNode
  obtain ⟨node, listed, isA⟩ := List.any_eq_true.mp inGroup
  rw [Bool.and_eq_true, beq_iff_eq, beq_iff_eq] at isA
  obtain ⟨isEnumerator, name⟩ := isA
  refine ⟨cursor, body, node, isCursor, beq_iff_eq.mp isEnum, found,
    ⟨group, .single ⟨inBody, isGroup⟩, listed, isEnumerator⟩, name, ?_⟩
  intro mem
  have isB := beq_iff_eq.mp (List.all_eq_true.mp onlyB _ mem)
  rw [name] at isB
  exact absurd isB (by decide)

end Cursor

end DeclScope
