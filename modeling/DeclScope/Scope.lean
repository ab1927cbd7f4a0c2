import DeclScope.Declarator

/-!
# What a scope contains

The body of a scope is a list of nodes, but what it declares is not: one declaration can introduce
several names, a type can be defined in passing, and the contents of preprocessor groups belong to
the scope around them.  `contents` lists what a scope declares, as *items*: a node, together with
the declarator through which it is seen when it has any.

* A comment is no item.
* A declaration gives one item per declarator.  In front of them stands the record or enumeration
  that it specifies, if that has a body, or if the declaration has no declarators and so only
  announces the type.
* A conditional group gives the items inside it; its condition or macro name is not inside.
* Any other node is an item by itself.

All branches of a conditional are taken, since none can be ruled out from the text alone.
-/

namespace DeclScope

/-- A node, and the declarator through which it is seen when it declares names by declarators. -/
structure Item where
  node : Node
  declarator? : Option Node
deriving Inhabited

/-- The node that marks the place of an item: its declarator if it has one. -/
def Item.anchor (item : Item) : Node := item.declarator?.getD item.node

namespace Node

/-- Whether a child is the guard of a group: its first child in the role of a name, or in that of a
condition. -/
def isGuard (scope child : Node) : Bool :=
  [Role.name, Role.condition].any fun role =>
    (scope.childIn? role).any (·.index? == child.index?)

/-- The named children of a group without its guards. -/
def unguarded (scope : Node) : List Node :=
  scope.namedChildren.filter (!scope.isGuard ·)

/-- What is left without the guards are children. -/
theorem mem_children_of_mem_unguarded {child scope : Node} (mem : child ∈ scope.unguarded) :
    child ∈ scope.children :=
  mem_children_of_mem_namedChildren (List.mem_filter.1 mem).1

/-- The record or enumeration that a declaration defines in passing or announces. -/
def hoisted? (declaration : Node) : Option Node :=
  (declaration.childIn? .type).filter fun specifier =>
    specifier.kind.isScopedSpecifier &&
      ((specifier.childIn? .body).isSome || (declaration.childrenIn .declarator).isEmpty)

/-- The items of a declaration. -/
def declared (declaration : Node) : List Item :=
  declaration.hoisted?.toList.map (⟨·, none⟩) ++
    (declaration.childrenIn .declarator).map (⟨declaration, some ·⟩)

/-- The items of a node inside a scope. -/
def items (node : Node) : List Item :=
  match node.kind with
  | .comment => []
  | .declaration | .memberDeclaration | .typeDefinition => node.declared
  | .conditional _ => node.unguarded.attach.flatMap fun ⟨child, _⟩ => child.items
  | _ => [⟨node, none⟩]
termination_by node.tree.size
decreasing_by exact size_lt_of_mem_children (mem_children_of_mem_unguarded (by assumption))

/-- The items of the body of a scope. -/
def contents (scope : Node) : List Item :=
  scope.unguarded.flatMap items

/-- The record or enumeration in front of a declaration's items is one of its children. -/
theorem mem_children_of_hoisted? {specifier declaration : Node}
    (found : declaration.hoisted? = some specifier) : specifier ∈ declaration.children :=
  mem_children_of_childIn? (Option.filter_eq_some_iff.1 found).1

/-- An item is anchored at a tree no larger than the node that it comes from. -/
theorem size_le_of_mem_items {item : Item} {node : Node} (mem : item ∈ node.items) :
    item.anchor.tree.size ≤ node.tree.size := by
  fun_induction items node with
  | case1 => simp at mem
  | case2 node _ | case3 node _ | case4 node _ =>
    simp only [declared, List.mem_append, List.mem_map, Option.mem_toList] at mem
    rcases mem with ⟨specifier, found, rfl⟩ | ⟨declarator, inside, rfl⟩
    · exact Nat.le_of_lt (size_lt_of_mem_children (mem_children_of_hoisted? found))
    · exact Nat.le_of_lt (size_lt_of_mem_children (mem_children_of_mem_childrenIn inside))
  | case5 node _ _ ih =>
    obtain ⟨⟨child, inside⟩, _, below⟩ := List.mem_flatMap.1 mem
    have := size_lt_of_mem_children (mem_children_of_mem_unguarded inside)
    have := ih child inside below
    omega
  | case6 => simp_all [Item.anchor]

/-- An item is anchored at a smaller tree than the scope that contains it. -/
theorem size_lt_of_mem_contents {item : Item} {scope : Node} (mem : item ∈ scope.contents) :
    item.anchor.tree.size < scope.tree.size := by
  obtain ⟨child, inside, below⟩ := List.mem_flatMap.1 mem
  have := size_lt_of_mem_children (mem_children_of_mem_unguarded inside)
  have := size_le_of_mem_items below
  omega

/-- The member of a record body that a node belongs to, and that body: the way up may lead through
declarations and conditional groups only. -/
def memberFrom? (tree : Tree) : List Step → Option (Node × Node)
  | [] => none
  | step :: rest =>
    match step.parent.label.kind with
    | .memberList => some (⟨tree, step :: rest⟩, ⟨step.parent, rest⟩)
    | .declaration | .memberDeclaration | .conditional _ => memberFrom? step.parent rest
    | _ => none

/-- The member of a record body that a node belongs to, and that body. -/
def member? (node : Node) : Option (Node × Node) :=
  memberFrom? node.tree node.above

/-- Whether a node belongs to the body of a record. -/
def isMember (node : Node) : Bool := node.member?.isSome

end Node

namespace Item

/-- The parameters of a declarator, when it declares a function. -/
def parametersOf (declarator? : Option Node) : List Item :=
  match declarator?.bind Node.functionDeclarator? with
  | some function => function.parameters.map (⟨·, none⟩)
  | none => []

/-- The items right below a node that is not seen through a declarator. -/
def childrenOfNode (node : Node) : List Item :=
  match node.kind with
  | .translationUnit => node.contents
  | .namespaceDefinition | .linkageSpecification =>
    match node.childIn? .body with
    | some body => if body.kind = .declarationList then body.contents else body.items
    | none => []
  | .record _ =>
    (node.namedChildren.filter (·.kind == .baseClause)).map (⟨·, none⟩) ++
      ((node.childIn? .body).map Node.contents).getD []
  | .enumSpecifier =>
    match node.childIn? .body with
    | some body => (body.namedChildren.filter (·.kind == .enumerator)).map (⟨·, none⟩)
    | none => []
  | .functionDefinition =>
    parametersOf (node.childIn? .declarator) ++ (node.childIn? .body).toList.map (⟨·, none⟩)
  | _ => (node.namedChildren.filter (·.kind != .comment)).map (⟨·, none⟩)

/-- The items right below an item.  Below a declarator there are only its parameters. -/
def children (item : Item) : List Item :=
  match item.declarator? with
  | some declarator => parametersOf (some declarator)
  | none => childrenOfNode item.node

/-- The parameters of a declarator are smaller than the declarator. -/
theorem size_lt_of_mem_parametersOf {child : Item} {declarator? : Option Node}
    (mem : child ∈ parametersOf declarator?) :
    ∃ declarator, declarator? = some declarator ∧
      child.anchor.tree.size < declarator.tree.size := by
  unfold parametersOf at mem
  split at mem
  · rename_i function found
    obtain ⟨declarator, isDeclarator, isFunction⟩ := Option.bind_eq_some_iff.1 found
    obtain ⟨parameter, inside, rfl⟩ := List.mem_map.1 mem
    have := Node.size_lt_of_mem_parameters inside
    have := Node.size_functionDeclarator?_le isFunction
    exact ⟨declarator, isDeclarator, by simp only [anchor, Option.getD_none]; omega⟩
  · simp at mem

/-- What is right below a node is smaller than the node. -/
theorem size_lt_of_mem_childrenOfNode {child : Item} {node : Node}
    (mem : child ∈ childrenOfNode node) : child.anchor.tree.size < node.tree.size := by
  have plain {nodes : List Node} (inside : ∀ n ∈ nodes, n.tree.size < node.tree.size)
      (mem : child ∈ nodes.map (⟨·, none⟩)) : child.anchor.tree.size < node.tree.size := by
    obtain ⟨n, isNode, rfl⟩ := List.mem_map.1 mem
    exact inside n isNode
  have named {p : Node → Bool} : ∀ n ∈ node.namedChildren.filter p,
      n.tree.size < node.tree.size := fun n inside =>
    Node.size_lt_of_mem_namedChildren (List.mem_filter.1 inside).1
  unfold childrenOfNode at mem
  split at mem
  · exact Node.size_lt_of_mem_contents mem
  · split at mem
    · rename_i body found
      have := Node.size_lt_of_childIn? found
      split at mem
      · have := Node.size_lt_of_mem_contents mem; omega
      · have := Node.size_le_of_mem_items mem; omega
    · simp at mem
  · split at mem
    · rename_i body found
      have := Node.size_lt_of_childIn? found
      split at mem
      · have := Node.size_lt_of_mem_contents mem; omega
      · have := Node.size_le_of_mem_items mem; omega
    · simp at mem
  · rcases List.mem_append.1 mem with base | member
    · exact plain named base
    · cases found : node.childIn? .body with
      | none => simp [found] at member
      | some body =>
        have := Node.size_lt_of_childIn? found
        have := Node.size_lt_of_mem_contents
          (show child ∈ body.contents by simpa [found] using member)
        omega
  · split at mem
    · rename_i body found
      refine plain (fun n inside => ?_) mem
      have := Node.size_lt_of_mem_namedChildren (List.mem_filter.1 inside).1
      have := Node.size_lt_of_childIn? found
      omega
    · simp at mem
  · rcases List.mem_append.1 mem with parameter | body
    · obtain ⟨declarator, found, below⟩ := size_lt_of_mem_parametersOf parameter
      have := Node.size_lt_of_childIn? found
      omega
    · refine plain (fun n inside => ?_) body
      exact Node.size_lt_of_childIn? (Option.mem_toList.1 inside)
  · exact plain named mem

/-- What is right below an item is anchored at a smaller tree. -/
theorem size_lt_of_mem_children {child item : Item} (mem : child ∈ item.children) :
    child.anchor.tree.size < item.anchor.tree.size := by
  unfold children at mem
  split at mem
  · rename_i declarator isDeclarator
    obtain ⟨_, same, below⟩ := size_lt_of_mem_parametersOf mem
    cases same
    simpa [anchor, isDeclarator] using below
  · rename_i isNode
    simpa [anchor, isNode] using size_lt_of_mem_childrenOfNode mem

end Item

end DeclScope
