import DeclScope.Proofs.Tree.Containment
import DeclScope.Scope

/-!
# Where the items of a scope stand

The items below an item are computed: declarations are split by declarator, conditional groups are
looked through, and parameters are dug out of declarators.  All of them stand strictly inside the
node of the item that they are listed for, and each keeps its declarator as a child of its own node.
So a property of all nodes below a root is a property of all items that can be reached from it.

A tree has a sole unit if its root is a translation unit and no other node is.  The condition is
read off the preorder listing of the tree, which makes it decidable.
-/

namespace DeclScope

namespace Tree

/-- The root is a translation unit, and it is the only one. -/
def HasSoleUnit (tree : Tree) : Prop :=
  tree.label.kind = .translationUnit ∧
    ∀ entry ∈ preorderAll tree.children, entry.1.kind ≠ .translationUnit

instance (tree : Tree) : Decidable tree.HasSoleUnit :=
  inferInstanceAs (Decidable (_ ∧ _))

/-- A tree that the grammar names, without faults. -/
def named (kind : Kind) (role : Option Role) (start stop : Nat) (children : List Tree) : Tree :=
  .node ⟨kind, role, start, stop, true, false, false⟩ children

/-- A keyword or a sign. -/
def token (text : String) (start : Nat) : Tree :=
  .node ⟨.other text, none, start, start + text.utf8ByteSize, false, false, false⟩ []

/-- The listing of one of several trees is part of the listing of all. -/
theorem mem_preorderAll {entry : Entry} {tree : Tree} {trees : List Tree} (mem : tree ∈ trees)
    (inside : entry ∈ tree.preorder) : entry ∈ preorderAll trees := by
  induction trees with
  | nil => cases mem
  | cons head rest inductionHypothesis =>
    rw [preorderAll, List.mem_append]
    rcases List.mem_cons.mp mem with rfl | later
    · exact .inl inside
    · exact .inr (inductionHypothesis later)

end Tree

/-- The unit of `namespace a { class X {} x; class Y; namespace b {} }`, which has a namespace with
contents and one without, a class that is defined in passing, and one that is only announced. -/
def TranslationUnit.nested : TranslationUnit where
  filename := "nested.cpp"
  language := .cpp
  source := .ofString "namespace a \x7b class X \x7b\x7d x; class Y; namespace b \x7b\x7d \x7d"
  arguments := []
  tree := .named .translationUnit none 0 53 [
    .named .namespaceDefinition none 0 53 [
      .token "namespace" 0,
      .named (.name .scope) (some .name) 10 11 [],
      .named .declarationList (some .body) 12 53 [
        .token "\x7b" 12,
        .named .declaration none 14 27 [
          .named (.record .classKey) (some .type) 14 24 [
            .token "class" 14,
            .named (.name .type) (some .name) 20 21 [],
            .named .memberList (some .body) 22 24 [.token "\x7b" 22, .token "\x7d" 23]],
          .named (.name .plain) (some .declarator) 25 26 [],
          .token ";" 26],
        .named (.record .classKey) none 28 35 [
          .token "class" 28,
          .named (.name .type) (some .name) 34 35 []],
        .token ";" 35,
        .named .namespaceDefinition none 37 51 [
          .token "namespace" 37,
          .named (.name .scope) (some .name) 47 48 [],
          .named .declarationList (some .body) 49 51 [.token "\x7b" 49, .token "\x7d" 50]],
        .token "\x7d" 52]]]

namespace Node

/-- The label of an enclosed node is listed below the root of the enclosing tree. -/
theorem Encloses.listed {outer inner : Node} (inside : outer.Encloses inner) :
    ∀ entry ∈ inner.tree.preorder, entry ∈ Tree.preorderAll outer.tree.children := by
  induction inside using Relation.TransGen.head_induction_on with
  | single step =>
    intro entry listed
    exact Tree.mem_preorderAll (tree_mem_of_mem_children step) listed
  | head step _ inductionHypothesis =>
    intro entry listed
    apply Tree.mem_preorderAll (tree_mem_of_mem_children step)
    rw [Tree.preorder_eq]
    exact List.mem_cons_of_mem _ (inductionHypothesis entry listed)

/-- Below the root of a tree with a sole unit there is no translation unit. -/
theorem Encloses.kind_ne_of_soleUnit {tree : Tree} {node : Node} (sole : tree.HasSoleUnit)
    (inside : (Node.root tree).Encloses node) : node.kind ≠ .translationUnit := by
  apply sole.2 (node.label, node.tree.children.length)
  apply inside.listed
  rw [Tree.preorder_eq]
  exact List.mem_cons_self

/-- A guard is the first child in the role of a name or of a condition. -/
theorem isGuard_iff {scope child : Node} (mem : child ∈ scope.children) :
    scope.isGuard child = true ↔
      scope.childIn? .name = some child ∨ scope.childIn? .condition = some child := by
  have found (role : Role) : (scope.childIn? role).any (·.index? == child.index?) = true ↔
      scope.childIn? role = some child := by
    cases first : scope.childIn? role with
    | none => simp
    | some guard =>
      simp only [Option.any_some, beq_iff_eq, Option.some.injEq]
      constructor
      · exact eq_of_index?_eq (mem_children_of_childIn? first) mem
      · intro same
        rw [same]
  simp only [isGuard, List.any_cons, List.any_nil, Bool.or_false, Bool.or_eq_true, found]

/-- What is inside a group: its named children other than the two guards. -/
theorem mem_unguarded_iff {scope child : Node} :
    child ∈ scope.unguarded ↔ child ∈ scope.namedChildren ∧
      scope.childIn? .name ≠ some child ∧ scope.childIn? .condition ≠ some child := by
  rw [unguarded, List.mem_filter]
  refine and_congr_right fun named => ?_
  rw [Bool.not_eq_true', ← Bool.not_eq_true,
    isGuard_iff (mem_children_of_mem_namedChildren named), not_or]

end Node

/-- The declarator of an item, if it has any, is a child of its node. -/
def Item.WellFormed (item : Item) : Prop :=
  ∀ declarator, item.declarator? = some declarator → declarator ∈ item.node.children

/-- An item that is not seen through a declarator is well formed. -/
theorem Item.wellFormed_of_node (node : Node) : Item.WellFormed ⟨node, none⟩ := by
  intro declarator present
  cases present

namespace Node

/-- An item stands in the node that it comes from, and is well formed. -/
theorem contains_of_mem_items {item : Item} {node : Node} (mem : item ∈ node.items) :
    node.Contains item.node ∧ item.WellFormed := by
  fun_induction items node with
  | case1 => cases mem
  | case2 node _ | case3 node _ | case4 node _ =>
    simp only [declared, List.mem_append, List.mem_map, Option.mem_toList] at mem
    rcases mem with ⟨specifier, found, rfl⟩ | ⟨declarator, inside, rfl⟩
    · exact ⟨.single (mem_children_of_hoisted? found), Item.wellFormed_of_node specifier⟩
    · refine ⟨.refl, ?_⟩
      intro other same
      cases same
      exact mem_children_of_mem_childrenIn inside
  | case5 node _ _ inductionHypothesis =>
    obtain ⟨⟨child, inside⟩, _, below⟩ := List.mem_flatMap.mp mem
    obtain ⟨contained, formed⟩ := inductionHypothesis child inside below
    exact ⟨.head (mem_children_of_mem_unguarded inside) contained, formed⟩
  | case6 node _ _ _ _ _ =>
    cases List.mem_singleton.mp mem
    exact ⟨.refl, Item.wellFormed_of_node node⟩

/-- An item stands strictly inside the body that lists it, and is well formed. -/
theorem encloses_of_mem_contents {item : Item} {scope : Node} (mem : item ∈ scope.contents) :
    scope.Encloses item.node ∧ item.WellFormed := by
  obtain ⟨child, inside, below⟩ := List.mem_flatMap.mp mem
  obtain ⟨contained, formed⟩ := contains_of_mem_items below
  exact ⟨.head' (mem_children_of_mem_unguarded inside) contained, formed⟩

/-- The function declarator that a declarator stands for is the declarator itself or inside it. -/
theorem contains_of_functionDeclarator? {function node : Node}
    (found : node.functionDeclarator? = some function) : node.Contains function := by
  fun_induction functionDeclarator? node with
  | case1 node _ =>
    obtain ⟨inner, _, rest⟩ := Option.bind_eq_some_iff.mp found
    split at rest
    · cases rest
    · cases rest
      exact .refl
  | case2 node _ _ inner step inductionHypothesis =>
    exact .head (mem_children_of_inner? step) (inductionHypothesis found)
  | case3 => cases found
  | case4 => cases found

/-- A parameter stands inside its function declarator. -/
theorem encloses_of_mem_parameters {parameter function : Node}
    (mem : parameter ∈ function.parameters) : function.Encloses parameter := by
  unfold parameters at mem
  split at mem
  · rename_i list found
    have inList := mem_children_of_mem_namedChildren (List.mem_filter.mp mem).1
    exact .tail (.single (mem_children_of_childIn? found)) inList
  · cases mem

end Node

namespace Item

/-- Nodes that stand inside a node are well-formed items there. -/
theorem encloses_of_mem_map {child : Item} {node : Node} {nodes : List Node}
    (inside : ∀ inner ∈ nodes, node.Encloses inner) (mem : child ∈ nodes.map (⟨·, none⟩)) :
    node.Encloses child.node ∧ child.WellFormed := by
  obtain ⟨inner, listed, rfl⟩ := List.mem_map.mp mem
  exact ⟨inside inner listed, wellFormed_of_node inner⟩

/-- The parameters of a declarator stand inside it. -/
theorem encloses_of_mem_parametersOf {child : Item} {declarator : Node}
    (mem : child ∈ parametersOf (some declarator)) :
    declarator.Encloses child.node ∧ child.WellFormed := by
  unfold parametersOf at mem
  split at mem
  · rename_i function found
    have contained : declarator.Contains function := Node.contains_of_functionDeclarator? found
    refine encloses_of_mem_map ?_ mem
    intro parameter listed
    exact Relation.TransGen.trans_right contained (Node.encloses_of_mem_parameters listed)
  · cases mem

/-- What a scope lists through its body stands inside the scope. -/
theorem encloses_of_body {child : Item} {node body : Node} (found : node.childIn? .body = some body)
    (mem : child ∈ body.contents ∨ child ∈ body.items) :
    node.Encloses child.node ∧ child.WellFormed := by
  have step : node.IsChild body := Node.mem_children_of_childIn? found
  rcases mem with listed | listed
  · obtain ⟨enclosed, formed⟩ := Node.encloses_of_mem_contents listed
    exact ⟨.head step enclosed, formed⟩
  · obtain ⟨contained, formed⟩ := Node.contains_of_mem_items listed
    exact ⟨.head' step contained, formed⟩

/-- What is right below a node stands strictly inside it.

The cases are those of the kinds of scopes: a unit lists its own contents, a namespace or a linkage
block those of its body, a record its bases and the contents of its body, an enumeration its
enumerators, a function its parameters and its body, and anything else its named children. -/
theorem encloses_of_mem_childrenOfNode {child : Item} {node : Node}
    (mem : child ∈ childrenOfNode node) : node.Encloses child.node ∧ child.WellFormed := by
  have named {keep : Node → Bool} :
      ∀ inner ∈ node.namedChildren.filter keep, node.Encloses inner := by
    intro inner listed
    have inside : inner ∈ node.namedChildren := (List.mem_filter.mp listed).1
    exact .single (Node.mem_children_of_mem_namedChildren inside)
  have block {body : Node} (found : node.childIn? .body = some body)
      (listed : child ∈ if body.kind = .declarationList then body.contents else body.items) :
      node.Encloses child.node ∧ child.WellFormed := by
    apply encloses_of_body found
    split at listed
    · exact .inl listed
    · exact .inr listed
  unfold childrenOfNode at mem
  split at mem
  · exact Node.encloses_of_mem_contents mem
  · split at mem
    · rename_i body found
      exact block found mem
    · cases mem
  · split at mem
    · rename_i body found
      exact block found mem
    · cases mem
  · rcases List.mem_append.mp mem with base | member
    · exact encloses_of_mem_map named base
    · cases found : node.childIn? .body with
      | none => simp [found] at member
      | some body => exact encloses_of_body found (.inl (by simpa [found] using member))
  · split at mem
    · rename_i body found
      refine encloses_of_mem_map ?_ mem
      intro inner listed
      have inside : inner ∈ body.namedChildren := (List.mem_filter.mp listed).1
      exact .tail (.single (Node.mem_children_of_childIn? found))
        (Node.mem_children_of_mem_namedChildren inside)
    · cases mem
  · rcases List.mem_append.mp mem with parameter | body
    · cases found : node.childIn? .declarator with
      | none => simp [found, parametersOf] at parameter
      | some declarator =>
        rw [found] at parameter
        obtain ⟨enclosed, formed⟩ := encloses_of_mem_parametersOf parameter
        exact ⟨.head (Node.mem_children_of_childIn? found) enclosed, formed⟩
    · refine encloses_of_mem_map ?_ body
      intro inner listed
      exact .single (Node.mem_children_of_childIn? (Option.mem_toList.mp listed))
  · exact encloses_of_mem_map named mem

/-- What is right below a well-formed item stands strictly inside its node, and is well formed. -/
theorem encloses_of_mem_children {child item : Item} (formed : item.WellFormed)
    (mem : child ∈ item.children) : item.node.Encloses child.node ∧ child.WellFormed := by
  unfold children at mem
  split at mem
  · rename_i declarator isDeclarator
    obtain ⟨enclosed, childFormed⟩ := encloses_of_mem_parametersOf mem
    exact ⟨.head (formed declarator isDeclarator) enclosed, childFormed⟩
  · exact encloses_of_mem_childrenOfNode mem

end Item

end DeclScope
