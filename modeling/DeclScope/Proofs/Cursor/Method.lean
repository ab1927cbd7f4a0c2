import DeclScope.Proofs.Cursor.Access

/-!
# Methods and free functions

Whether a function is a method is decided by climbing from its node through declarations and
conditional groups to the body of a record.  Which scope lists it is decided by descending from the
scope through its body and the groups in it.  The two walks are inverse to each other: a function
among the children of a record is a method, and one among the children of a unit, a namespace or a
linkage block is not, however deep it is in groups and whatever records are around that scope.

This asks of a record that its body is a list of members, as in every tree that a grammar builds.
-/

namespace DeclScope

/-- The unit of a namespace with a class, whose only method is declared inside a conditional group,
and with a function that is defined inside another group. -/
def TranslationUnit.methods : TranslationUnit where
  filename := "methods.cpp"
  language := .cpp
  source := .ofString ("namespace n \x7b\nclass A \x7b\n#if X\n void m();\n#endif\n\x7d;\n" ++
    "#if X\nvoid f() \x7b\x7d\n#endif\n\x7d")
  arguments := []
  tree := .named .translationUnit none 0 77 [
    .named .namespaceDefinition none 0 77 [
      .token "namespace" 0,
      .named (.name .scope) (some .name) 10 11 [],
      .named .declarationList (some .body) 12 77 [
        .token "\x7b" 12,
        .named (.record .classKey) none 14 49 [
          .token "class" 14,
          .named (.name .type) (some .name) 20 21 [],
          .named .memberList (some .body) 22 49 [
            .token "\x7b" 22,
            .named (.conditional .ifTrue) none 24 47 [
              .token "#if" 24,
              .named (.name .plain) (some .condition) 28 29 [],
              .token "\n" 29,
              .named .memberDeclaration none 31 40 [
                .named .primitiveType (some .type) 31 35 [],
                .named (.declarator .function false) (some .declarator) 36 39 [
                  .named (.name .field) (some .declarator) 36 37 [],
                  .named (.other "parameter_list") (some .parameters) 37 39 [
                    .token "(" 37, .token ")" 38]],
                .token ";" 39],
              .token "#endif" 41],
            .token "\x7d" 48]],
        .token ";" 49,
        .named (.conditional .ifTrue) none 51 75 [
          .token "#if" 51,
          .named (.name .plain) (some .condition) 55 56 [],
          .token "\n" 56,
          .named .functionDefinition none 57 68 [
            .named .primitiveType (some .type) 57 61 [],
            .named (.declarator .function false) (some .declarator) 62 65 [
              .named (.name .plain) (some .declarator) 62 63 [],
              .named (.other "parameter_list") (some .parameters) 63 65 [
                .token "(" 63, .token ")" 64]],
            .named .compoundStatement (some .body) 66 68 [.token "\x7b" 66, .token "\x7d" 67]],
          .token "#endif" 69],
        .token "\x7d" 76]]]

namespace Item

/-- The item declares a function: it is a definition of one, or a declaration seen through a
declarator that stands for a function. -/
def DeclaresFunction (item : Item) : Prop :=
  match item.declarator? with
  | none => item.node.kind = .functionDefinition
  | some declarator =>
    item.node.kind ∈ [Kind.declaration, .memberDeclaration] ∧
      declarator.functionDeclarator?.isSome = true

instance : (item : Item) → Decidable item.DeclaresFunction
  | ⟨node, none⟩ => inferInstanceAs (Decidable (node.kind = .functionDefinition))
  | ⟨_, some _⟩ => inferInstanceAs (Decidable (_ ∧ _))

/-- The kind of a function is decided by where its node stands. -/
theorem DeclaresFunction.kind_eq {item : Item} (declares : item.DeclaresFunction) :
    item.kind = functionKind item.node := by
  unfold DeclaresFunction at declares
  unfold kind
  cases isDeclarator : item.declarator? with
  | none =>
    rw [isDeclarator] at declares
    simp only [kindOfNode, declares]
  | some declarator =>
    rw [isDeclarator] at declares
    obtain ⟨isKind, isFunction⟩ := declares
    simp only [List.mem_cons, List.not_mem_nil, or_false] at isKind
    rcases isKind with isKind | isKind <;> simp [kindOfDeclarator, isKind, isFunction]

/-- A whole node that declares a function is a definition. -/
theorem declaresFunction_node_iff {node : Node} :
    DeclaresFunction ⟨node, none⟩ ↔ node.kind = .functionDefinition := Iff.rfl

end Item

namespace Node

/-- A function among the items of a node belongs to the member that the node belongs to.  By
induction along the groups that are opened; a type in front of a declaration is no function. -/
theorem member?_of_function {item : Item} {node : Node} (mem : item ∈ node.items)
    (declares : item.DeclaresFunction) : item.node.member? = node.member? := by
  fun_induction items node with
  | case1 => cases mem
  | case2 node | case3 node | case4 node =>
    simp only [declared, List.mem_append, List.mem_map, Option.mem_toList] at mem
    rcases mem with ⟨specifier, found, rfl⟩ | ⟨declarator, inside, rfl⟩
    · have specifies := (Option.filter_eq_some_iff.mp found).2
      rw [Item.declaresFunction_node_iff.mp declares] at specifies
      cases specifies
    · rfl
  | case5 node form isGroup inductionHypothesis =>
    obtain ⟨⟨child, inside⟩, -, below⟩ := List.mem_flatMap.mp mem
    rw [inductionHypothesis child inside below,
      member?_of_mem_children (mem_children_of_mem_unguarded inside), isGroup]
  | case6 node =>
    rw [List.mem_singleton.mp mem]

/-- A function in a body belongs to a record exactly if the body is a list of members. -/
theorem isMember_of_mem_contents {item : Item} {body : Node} (mem : item ∈ body.contents)
    (declares : item.DeclaresFunction)
    (closed : body.kind ∈ [Kind.memberList, .translationUnit, .declarationList]) :
    item.node.isMember = (body.kind == .memberList) := by
  obtain ⟨child, inside, below⟩ := List.mem_flatMap.mp mem
  rw [isMember, member?_of_function below declares,
    member?_of_mem_children (mem_children_of_mem_unguarded inside)]
  simp only [List.mem_cons, List.not_mem_nil, or_false] at closed
  rcases closed with isKind | isKind | isKind <;> simp [isKind]

end Node

namespace Item

/-- A function among the children of a record stands in its body. -/
theorem isMember_of_record {child : Item} {record : Node} {key : RecordKey}
    (isRecord : record.kind = .record key)
    (lists : ∀ body ∈ record.childIn? .body, body.kind = .memberList)
    (mem : child ∈ childrenOfNode record) (declares : child.DeclaresFunction) :
    child.node.isMember = true := by
  simp only [childrenOfNode, isRecord] at mem
  rcases List.mem_append.mp mem with base | member
  · obtain ⟨node, listed, rfl⟩ := List.mem_map.mp base
    have isBase := beq_iff_eq.mp (List.mem_filter.mp listed).2
    rw [declaresFunction_node_iff, isBase] at declares
    cases declares
  · cases found : record.childIn? .body with
    | none => simp [found] at member
    | some body =>
      have listed : child ∈ body.contents := by simpa [found] using member
      have isList := lists body found
      rw [Node.isMember_of_mem_contents listed declares (by simp [isList]), isList]
      rfl

/-- A function among the children of a unit, a namespace or a linkage block stands in no record
body. -/
theorem isMember_of_freeScope {child : Item} {scope : Node}
    (isScope : scope.kind ∈ [Kind.translationUnit, .namespaceDefinition, .linkageSpecification])
    (mem : child ∈ childrenOfNode scope) (declares : child.DeclaresFunction) :
    child.node.isMember = false := by
  -- A body that is no list is an item itself, and the step up from it already leads to the scope.
  have block (blocks : scope.kind ∈ [Kind.namespaceDefinition, .linkageSpecification]) {body : Node}
      (found : scope.childIn? .body = some body)
      (listed : child ∈ if body.kind = .declarationList then body.contents else body.items) :
      child.node.isMember = false := by
    split at listed
    · rename_i isList
      rw [Node.isMember_of_mem_contents listed declares (by simp [isList]), isList]
      rfl
    · rw [Node.isMember, Node.member?_of_function listed declares,
        Node.member?_of_mem_children (Node.mem_children_of_childIn? found)]
      simp only [List.mem_cons, List.not_mem_nil, or_false] at blocks
      rcases blocks with isKind | isKind <;> simp [isKind]
  simp only [List.mem_cons, List.not_mem_nil, or_false] at isScope
  rcases isScope with isKind | isKind | isKind
  · simp only [childrenOfNode, isKind] at mem
    rw [Node.isMember_of_mem_contents mem declares (by simp [isKind]), isKind]
    rfl
  all_goals
    simp only [childrenOfNode, isKind] at mem
    split at mem
    · rename_i body found
      exact block (by simp [isKind]) found mem
    · cases mem

end Item

namespace Cursor

/-- A function among the children of a record, whose body is a list of members, is a method.  One
among the children of a unit, a namespace or a linkage block is a free function. -/
theorem function_kind_of_parent {parent function : Cursor} (listed : function ∈ parent.children)
    (declares : function.toItem.DeclaresFunction) :
    (parent.kind.isRecord = true →
      (∀ body ∈ parent.node.childIn? .body, body.kind = .memberList) →
        function.kind = .method) ∧
    (parent.declarator? = none →
      parent.node.kind ∈ [Kind.translationUnit, .namespaceDefinition, .linkageSpecification] →
        function.kind = .functionDecl) := by
  obtain ⟨item, mem, rfl⟩ := List.mem_map.mp listed
  have isFunction : kind ⟨item, parent.unit⟩ = Item.functionKind item.node := declares.kind_eq
  constructor
  · intro isRecord lists
    obtain ⟨whole, sameKind⟩ := Item.kind_specifier (.inl isRecord)
    obtain ⟨key, isNode⟩ := (Item.kindOfNode_specifier parent.node).1 (sameKind ▸ isRecord)
    rw [Item.children, whole] at mem
    rw [isFunction, Item.functionKind, Item.isMember_of_record isNode lists mem declares]
    rfl
  · intro whole isScope
    rw [Item.children, whole] at mem
    rw [isFunction, Item.functionKind, Item.isMember_of_freeScope isScope mem declares]
    rfl

/-- In the unit with two groups, `m` is listed by the class and is a method, and `f` is listed by the
namespace and is a free function. -/
theorem function_kind_of_parent_methods :
    ∃ scope record function method, TranslationUnit.methods.cursor.descend? [0] = some scope ∧
      scope.declarator? = none ∧ scope.node.kind = .namespaceDefinition ∧
      record ∈ scope.children ∧ record.kind.isRecord = true ∧
      (∀ body ∈ record.node.childIn? .body, body.kind = .memberList) ∧
      function ∈ scope.children ∧ function.toItem.DeclaresFunction ∧ function.spelling = "f" ∧
      method ∈ record.children ∧ method.toItem.DeclaresFunction ∧ method.spelling = "m" ∧
      function.kind = .functionDecl ∧ method.kind = .method := by
  obtain ⟨scope, isScope⟩ := Option.isSome_iff_exists.mp
    (show (TranslationUnit.methods.cursor.descend? [0]).isSome = true by decide +kernel)
  have facts : (TranslationUnit.methods.cursor.descend? [0]).any (fun scope => decide
      (scope.declarator? = none ∧ scope.node.kind = .namespaceDefinition ∧
      (∃ record ∈ scope.children, record.kind.isRecord = true ∧
        (∀ body ∈ record.node.childIn? .body, body.kind = .memberList) ∧
        ∃ method ∈ record.children, method.toItem.DeclaresFunction ∧ method.spelling = "m") ∧
      ∃ function ∈ scope.children, function.toItem.DeclaresFunction ∧
        function.spelling = "f")) = true := by
    decide +kernel
  rw [isScope, Option.any_some, decide_eq_true_eq] at facts
  obtain ⟨whole, isNamespace, ⟨record, isListed, isRecord, lists, method, inRecord, isMethod, m⟩,
    function, inScope, isFunction, f⟩ := facts
  refine ⟨scope, record, function, method, isScope, whole, isNamespace, isListed, isRecord, lists,
    inScope, isFunction, f, inRecord, isMethod, m, ?_, ?_⟩
  · exact (function_kind_of_parent inScope isFunction).2 whole (by simp [isNamespace])
  · exact (function_kind_of_parent inRecord isMethod).1 isRecord lists

end Cursor

end DeclScope
