import DeclScope.Proofs.Scope.Containment

/-!
# Which class definitions belong to the outermost scopes

Which classes a unit defines outside of functions and other classes is said twice here.  The first
time it is a condition on the place of a node.  *Scope containers* are the root, the bodies of
namespaces and conditional groups; *scope items* are what stands in a container, guards apart.  A
class definition counts if it is a scope item, or if it is the type of a declaration that is one.
The second time it is a recursion that lists the classes of a node in order.

Both are the same, and the list is in preorder: a class is listed before another exactly if its
path comes first, so none is listed twice.

Classes inside linkage blocks, templates and functions are no scope items, nor are those inside the
body of another class.
-/

namespace DeclScope

namespace Node

mutual

/-- The nodes whose children are declared in the outermost scopes. -/
inductive ScopeContainer (root : Node) : Node → Prop where
  | root : ScopeContainer root root
  /-- The body of a namespace, when it is a list of declarations. -/
  | body {space body : Node} (item : ScopeItem root space)
      (isNamespace : space.kind = .namespaceDefinition) (found : space.childIn? .body = some body)
      (isList : body.kind = .declarationList) : ScopeContainer root body
  /-- A conditional group. -/
  | group {group : Node} {form : ConditionalForm} (item : ScopeItem root group)
      (isGroup : group.kind = .conditional form) : ScopeContainer root group

/-- The nodes that are declared in the outermost scopes. -/
inductive ScopeItem (root : Node) : Node → Prop where
  /-- A named child of a container, other than the guards. -/
  | child {container node : Node} (inside : ScopeContainer root container)
      (listed : node ∈ container.namedChildren) (notName : container.childIn? .name ≠ some node)
      (notCondition : container.childIn? .condition ≠ some node) : ScopeItem root node
  /-- The body of a namespace, when it is anything else than a list of declarations. -/
  | body {space body : Node} (item : ScopeItem root space)
      (isNamespace : space.kind = .namespaceDefinition) (found : space.childIn? .body = some body)
      (isOther : body.kind ≠ .declarationList) : ScopeItem root body

end

/-- Whether a node is a class with a body. -/
def definesClass (node : Node) : Bool :=
  node.kind == .record .classKey && (node.childIn? .body).isSome

/-- A class definition in the outermost scopes: an item by itself, or the type of a declaration that
is an item. -/
def IsOuterClass (root node : Node) : Prop :=
  node.definesClass = true ∧
    (ScopeItem root node ∨ ∃ declaration,
      ScopeItem root declaration ∧
      declaration.kind ∈ [Kind.declaration, .memberDeclaration, .typeDefinition] ∧
      declaration.childIn? .type = some node)

/-- The class definitions that a node of a scope adds to the outermost scopes, in order. -/
def outerClasses (node : Node) : List Node :=
  match node.kind with
  | .record .classKey => [node].filter definesClass
  | .declaration | .memberDeclaration | .typeDefinition =>
    (node.childIn? .type).toList.filter definesClass
  | .conditional _ => node.unguarded.attach.flatMap fun ⟨child, _⟩ => child.outerClasses
  | .namespaceDefinition =>
    match _ : node.childIn? .body with
    | some body =>
      if body.kind = .declarationList then
        body.unguarded.attach.flatMap fun ⟨child, _⟩ => child.outerClasses
      else body.outerClasses
    | none => []
  | _ => []
termination_by node.tree.size
decreasing_by
  · exact size_lt_of_mem_children (mem_children_of_mem_unguarded (by assumption))
  · exact Nat.lt_trans (size_lt_of_mem_children (mem_children_of_mem_unguarded (by assumption)))
      (size_lt_of_childIn? (by assumption))
  · exact size_lt_of_childIn? (by assumption)

/-- The class definitions in the body of a scope, in order. -/
def classesIn (scope : Node) : List Node := scope.unguarded.flatMap outerClasses

/-- The listing goes through the body of a scope with the proofs that its children are smaller; they
do not show in the result. -/
theorem flatMap_attach_unguarded (scope : Node) :
    (scope.unguarded.attach.flatMap fun ⟨child, _⟩ => child.outerClasses) = scope.classesIn := by
  simp [classesIn]

/-- What a class adds. -/
theorem outerClasses_of_class {node : Node} (isClass : node.kind = .record .classKey) :
    node.outerClasses = [node].filter definesClass := by
  rw [outerClasses, isClass]

/-- What a declaration adds. -/
theorem outerClasses_of_declaration {node : Node}
    (declares : node.kind ∈ [Kind.declaration, .memberDeclaration, .typeDefinition]) :
    node.outerClasses = (node.childIn? .type).toList.filter definesClass := by
  simp only [List.mem_cons, List.not_mem_nil, or_false] at declares
  rcases declares with same | same | same <;> rw [outerClasses, same]

/-- What a conditional group adds. -/
theorem outerClasses_of_group {node : Node} {form : ConditionalForm}
    (isGroup : node.kind = .conditional form) : node.outerClasses = node.classesIn := by
  rw [outerClasses, isGroup]
  exact flatMap_attach_unguarded node

/-- What a namespace adds. -/
theorem outerClasses_of_namespace {node body : Node}
    (isNamespace : node.kind = .namespaceDefinition)
    (found : node.childIn? .body = some body) :
    node.outerClasses =
      if body.kind = .declarationList then body.classesIn else body.outerClasses := by
  rw [outerClasses, isNamespace]
  dsimp only
  split
  · rename_i other same
    cases found.symm.trans same
    rw [flatMap_attach_unguarded]
  · rename_i absent
    cases found.symm.trans absent

/-- A listed class stands in the node that it is listed for. -/
theorem contains_of_mem_outerClasses {node found : Node} (mem : found ∈ node.outerClasses) :
    node.Contains found := by
  fun_induction outerClasses node with
  | case1 node _ =>
    rw [List.mem_singleton.mp ((List.mem_filter.mp mem).1)]
    exact .refl
  | case2 node _ | case3 node _ | case4 node _ =>
    have isType : node.childIn? .type = some found :=
      Option.mem_toList.mp (List.mem_filter.mp mem).1
    exact .single (mem_children_of_childIn? isType)
  | case5 node _ _ inductionHypothesis =>
    obtain ⟨⟨child, inside⟩, -, below⟩ := List.mem_flatMap.mp mem
    exact .head (mem_children_of_mem_unguarded inside) (inductionHypothesis child inside below)
  | case6 node _ body isBody _ inductionHypothesis =>
    obtain ⟨⟨child, inside⟩, -, below⟩ := List.mem_flatMap.mp mem
    refine .head (mem_children_of_childIn? isBody) ?_
    exact .head (mem_children_of_mem_unguarded inside) (inductionHypothesis child inside below)
  | case7 node _ body isBody _ inductionHypothesis =>
    exact .head (mem_children_of_childIn? isBody) (inductionHypothesis mem)
  | case8 | case9 => cases mem

/-- The classes of a scope are in preorder if those of each of its children are.  Classes from
different children are ordered as the children are. -/
theorem pairwise_classesIn {scope : Node}
    (each : ∀ child ∈ scope.unguarded, child.outerClasses.Pairwise Precedes) :
    scope.classesIn.Pairwise Precedes := by
  have inOrder : scope.unguarded.Pairwise fun left right =>
      ∀ first second, left.Contains first → right.Contains second → first.Precedes second :=
    ((pairwise_children scope).filter _).filter _
  refine List.pairwise_flatMap.mpr ⟨each, inOrder.imp ?_⟩
  intro left right before first inLeft second inRight
  exact before first second (contains_of_mem_outerClasses inLeft)
    (contains_of_mem_outerClasses inRight)

/-- The classes of a node are listed in preorder. -/
theorem pairwise_outerClasses (node : Node) : node.outerClasses.Pairwise Precedes := by
  fun_induction outerClasses node with
  | case1 node _ => exact (List.pairwise_singleton Precedes node).filter _
  | case2 node _ | case3 node _ | case4 node _ =>
    apply List.Pairwise.filter
    cases node.childIn? .type with
    | none => exact .nil
    | some specifier => exact List.pairwise_singleton Precedes specifier
  | case5 node _ _ inductionHypothesis =>
    rw [flatMap_attach_unguarded]
    exact pairwise_classesIn inductionHypothesis
  | case6 node _ body _ _ inductionHypothesis =>
    rw [flatMap_attach_unguarded]
    exact pairwise_classesIn inductionHypothesis
  | case7 node _ body _ _ inductionHypothesis => exact inductionHypothesis
  | case8 | case9 => exact .nil

/-- What is left of a container without its guards are items. -/
theorem ScopeContainer.item {root container node : Node} (inside : ScopeContainer root container)
    (mem : node ∈ container.unguarded) : ScopeItem root node := by
  obtain ⟨listed, notName, notCondition⟩ := mem_unguarded_iff.mp mem
  exact .child inside listed notName notCondition

/-- What a scope item adds are class definitions in the outermost scopes. -/
theorem isOuterClass_of_mem_outerClasses {root node found : Node} (item : ScopeItem root node)
    (mem : found ∈ node.outerClasses) : IsOuterClass root found := by
  fun_induction outerClasses node with
  | case1 node _ =>
    obtain ⟨same, defines⟩ := List.mem_filter.mp mem
    cases List.mem_singleton.mp same
    exact ⟨defines, .inl item⟩
  | case2 node isKind | case3 node isKind | case4 node isKind =>
    obtain ⟨isType, defines⟩ := List.mem_filter.mp mem
    refine ⟨defines, .inr ⟨node, item, ?_, Option.mem_toList.mp isType⟩⟩
    rw [isKind]
    decide
  | case5 node _ isGroup inductionHypothesis =>
    obtain ⟨⟨child, inside⟩, -, below⟩ := List.mem_flatMap.mp mem
    exact inductionHypothesis child inside ((ScopeContainer.group item isGroup).item inside) below
  | case6 node isNamespace body isBody isList inductionHypothesis =>
    obtain ⟨⟨child, inside⟩, -, below⟩ := List.mem_flatMap.mp mem
    exact inductionHypothesis child inside
      ((ScopeContainer.body item isNamespace isBody isList).item inside) below
  | case7 node isNamespace body isBody isOther inductionHypothesis =>
    exact inductionHypothesis (.body item isNamespace isBody isOther) mem
  | case8 | case9 => cases mem

-- Both follow the derivation: each rule of the places adds a stretch of the list of the root.
mutual

/-- What the body of a container adds is listed for the root. -/
theorem ScopeContainer.classesIn_subset {root container : Node} :
    ScopeContainer root container → container.classesIn ⊆ root.classesIn
  | .root => List.Subset.refl _
  | .body item isNamespace found isList => by
    have same := (outerClasses_of_namespace isNamespace found).trans (if_pos isList)
    rw [← same]
    exact item.outerClasses_subset
  | .group item isGroup => by
    rw [← outerClasses_of_group isGroup]
    exact item.outerClasses_subset

/-- What an item adds is listed for the root. -/
theorem ScopeItem.outerClasses_subset {root node : Node} :
    ScopeItem root node → node.outerClasses ⊆ root.classesIn
  | .child inside listed notName notCondition => by
    intro found mem
    apply inside.classesIn_subset
    exact List.mem_flatMap.mpr
      ⟨node, mem_unguarded_iff.mpr ⟨listed, notName, notCondition⟩, mem⟩
  | .body item isNamespace found isOther => by
    have same := (outerClasses_of_namespace isNamespace found).trans (if_neg isOther)
    rw [← same]
    exact item.outerClasses_subset

end

/-- The list of the root holds the class definitions in the outermost scopes and nothing else. -/
theorem mem_classesIn_iff {root found : Node} :
    found ∈ root.classesIn ↔ IsOuterClass root found := by
  constructor
  · intro mem
    obtain ⟨child, inside, below⟩ := List.mem_flatMap.mp mem
    exact isOuterClass_of_mem_outerClasses (ScopeContainer.root.item inside) below
  · rintro ⟨defines, item | ⟨declaration, item, declares, isType⟩⟩
    · apply item.outerClasses_subset
      have isClass : found.kind = .record .classKey :=
        beq_iff_eq.mp (Bool.and_eq_true_iff.mp defines).1
      rw [outerClasses_of_class isClass]
      exact List.mem_filter.mpr ⟨List.mem_singleton_self found, defines⟩
    · apply item.outerClasses_subset
      rw [outerClasses_of_declaration declares, isType]
      exact List.mem_filter.mpr ⟨List.mem_singleton_self found, defines⟩

end Node

end DeclScope
