import DeclScope.Proofs.Declarator.Function

/-!
# Three views of the parameters of a function

The parameters of a function show in its children, in its display name and in its type.  Each view
looks for them by itself: the children and the display name through the function declarator that the
declarator of the cursor stands for, the type by taking the declarator apart from the outside.  The
first two always agree.  The type agrees with them if its way leads through the same nodes, that is,
if the pointers, references and attributes around the function declarator hold what is inside them
where the type looks for it, and if nothing inside the function declarator adds to the type.

A variadic parameter has a text and is a child, but it has no type of its own and is left out of the
type of its function.
-/

namespace DeclScope

/-- The unit of a function definition behind a pointer and a reference, with a plain, an optional
and a variadic parameter. -/
def TranslationUnit.variadic : TranslationUnit where
  filename := "variadic.cpp"
  language := .cpp
  source := .ofString "int *&f(const char *s, int n = 1, Args... rest) \x7b\x7d"
  arguments := []
  tree := .named .translationUnit none 0 50 [
    .named .functionDefinition none 0 50 [
      .named .primitiveType (some .type) 0 3 [],
      .named (.declarator .pointer false) (some .declarator) 4 47 [
        .token "*" 4,
        .named (.declarator .reference false) (some .declarator) 5 47 [
          .token "&" 5,
          .named (.declarator .function false) none 6 47 [
            .named (.name .plain) (some .declarator) 6 7 [],
            .named (.other "parameter_list") (some .parameters) 7 47 [
              .token "(" 7,
              .named (.parameter .plain) none 8 21 [
                .named .typeQualifier none 8 13 [.token "const" 8],
                .named .primitiveType (some .type) 14 18 [],
                .named (.declarator .pointer false) (some .declarator) 19 21 [
                  .token "*" 19,
                  .named (.name .plain) (some .declarator) 20 21 []]],
              .token "," 21,
              .named (.parameter .optional) none 23 32 [
                .named .primitiveType (some .type) 23 26 [],
                .named (.name .plain) (some .declarator) 27 28 [],
                .token "=" 29,
                .named (.other "number_literal") none 31 32 []],
              .token "," 32,
              .named (.parameter .variadic) none 34 46 [
                .named (.name .type) (some .type) 34 38 [],
                .named (.other "variadic_declarator") (some .declarator) 38 46 [
                  .token "..." 38,
                  .named (.name .plain) none 42 46 []]],
              .token ")" 46]]]],
      .named .compoundStatement (some .body) 48 50 [.token "\x7b" 48, .token "\x7d" 49]]]

/-- Whether a node is a declarator that wraps another. -/
def Kind.isWrapper : Kind → Bool
  | initDeclarator => true
  | attributedDeclarator => true
  | declarator _ _ => true
  | _ => false

namespace Node

/-- A wrapper holds its inner declarator where the type looks for it: a pointer has it marked, a
reference and attributes have no other named child. -/
def HoldsInner (wrapper : Node) : Prop :=
  (wrapper.kind = .declarator .pointer false → (wrapper.childIn? .declarator).isSome) ∧
  (wrapper.kind = .declarator .reference false ∨ wrapper.kind = .attributedDeclarator →
    wrapper.namedChildren.length = 1 ∧ ∀ inner ∈ wrapper.inner?, inner.label.named = true)

instance (wrapper : Node) : Decidable wrapper.HoldsInner := inferInstanceAs (Decidable (_ ∧ _))

/-- The type goes on with the inner declarator of a wrapper that holds it. -/
theorem HoldsInner.nextPart?_eq {wrapper inner : Node} (holds : wrapper.HoldsInner)
    (wraps : wrapper.kind.wrapsResult = true) (step : wrapper.inner? = some inner) :
    CType.nextPart? wrapper = some inner := by
  have only (isKind : wrapper.kind = .declarator .reference false ∨
      wrapper.kind = .attributedDeclarator) : wrapper.namedChildren.head? = some inner := by
    obtain ⟨single, named⟩ := holds.2 isKind
    obtain ⟨child, sole⟩ := List.length_eq_one_iff.mp single
    have listed : inner ∈ wrapper.namedChildren :=
      List.mem_filter.mpr ⟨mem_children_of_inner? step, named inner step⟩
    rw [sole, List.mem_singleton] at listed
    rw [sole, listed, List.head?_cons]
  unfold Kind.wrapsResult at wraps
  unfold CType.nextPart?
  split at wraps
  · rename_i isPointer
    obtain ⟨marked, found⟩ := Option.isSome_iff_exists.mp (holds.1 isPointer)
    rw [inner?, found, Option.some_or] at step
    rw [isPointer, ← step]
    exact found
  · rename_i isReference
    rw [isReference]
    exact only (.inl isReference)
  · rename_i isAttributed
    rw [isAttributed]
    exact only (.inr isAttributed)
  · cases wraps

/-- What a declarator stands for is a function declarator with a declarator inside. -/
theorem functionDeclarator?_eq_some {declarator function : Node}
    (found : declarator.functionDeclarator? = some function) :
    function.kind = .declarator .function false ∧
      (function.childIn? .declarator).isSome = true := by
  fun_induction functionDeclarator? declarator with
  | case1 node isFunction =>
    obtain ⟨inner, marked, rest⟩ := Option.bind_eq_some_iff.mp found
    split at rest
    · cases rest
    · cases rest
      exact ⟨isFunction, Option.isSome_iff_exists.mpr ⟨inner, marked⟩⟩
  | case2 node _ _ inner _ inductionHypothesis => exact inductionHypothesis found
  | case3 => cases found
  | case4 => cases found

end Node

namespace CType

/-- What is no wrapper adds nothing to the type. -/
theorem derive_of_not_isWrapper {node : Node} (plain : node.kind.isWrapper = false)
    (source : Source) (type : CType) : derive source type node = type := by
  have last : nextPart? node = none := by
    unfold nextPart?
    split <;> simp_all [Kind.isWrapper]
  rw [derive_eq, last]
  simp only [Option.map_none, Option.getD_none]
  unfold wrap
  split <;> simp_all [Kind.isWrapper]

/-- The type that a declarator derives comes from the function declarator that it stands for, with
the wrappers around that in the result. -/
theorem exists_derive_of_functionDeclarator? {declarator function : Node}
    (found : declarator.functionDeclarator? = some function)
    (built : ∀ wrapper, declarator.Contains wrapper → wrapper.Encloses function →
      wrapper.HoldsInner) (source : Source) (type : CType) :
    ∃ result, derive source type declarator = derive source result function := by
  fun_induction Node.functionDeclarator? declarator generalizing type with
  | case1 node _ =>
    obtain ⟨inner, _, rest⟩ := Option.bind_eq_some_iff.mp found
    split at rest
    · cases rest
    · cases rest
      exact ⟨type, rfl⟩
  | case2 node _ wraps inner step inductionHypothesis =>
    have isChild : inner ∈ node.children := Node.mem_children_of_inner? step
    have inside : inner.Contains function := Node.contains_of_functionDeclarator? found
    have next : nextPart? node = some inner :=
      (built node .refl (.head' isChild inside)).nextPart?_eq wraps step
    rw [derive_eq, next]
    apply inductionHypothesis found
    intro wrapper contained
    exact built wrapper (.head isChild contained)
  | case3 => cases found
  | case4 => cases found

/-- A function declarator in which nothing adds to the type derives a function from its result, with
the types of its parameters that have one. -/
theorem derive_of_function {function : Node}
    (isFunction : function.kind = .declarator .function false)
    (marked : (function.childIn? .declarator).isSome = true)
    (plain : ∀ inner ∈ function.inner?, inner.kind.isWrapper = false) (source : Source)
    (result : CType) :
    derive source result function = .function result
      ((function.parameters.filter (·.kind != .parameter .variadic)).map
        (parameterType source)) := by
  obtain ⟨inner, found⟩ := Option.isSome_iff_exists.mp marked
  have isInner : function.inner? = some inner := by rw [Node.inner?, found, Option.some_or]
  have next : nextPart? function = some inner := by
    rw [nextPart?, isFunction]
    exact found
  have typed : typedParameters function =
      function.parameters.filter (·.kind != .parameter .variadic) := by
    rw [typedParameters, isFunctionPart, isFunction]
    rfl
  rw [derive_eq, next, typed]
  simp only [Option.map_some, Option.getD_some]
  rw [derive_of_not_isWrapper (plain inner isInner), wrap, isFunction]

end CType

/-- Functions that are seen as whole nodes are function definitions, and parameters are told by the
kind of their node. -/
theorem Item.kindOfNode_function (node : Node) :
    ((kindOfNode node).isFunction = true ↔ node.kind = .functionDefinition) ∧
      (kindOfNode node = .parameter ↔ node.kind.isParameter = true) := by
  unfold kindOfNode
  cases node.kind with
  | record key =>
    cases key <;> simp [RecordKey.cursorKind, CursorKind.isFunction, Kind.isParameter]
  | functionDefinition =>
    simp only [functionKind]
    split <;> decide
  | name form => cases form <;> simp [CursorKind.isFunction, Kind.isParameter]
  | other text =>
    have family := kindByEnding_mem text
    simp only [List.mem_cons, List.not_mem_nil, or_false] at family
    rcases family with same | same | same <;>
      simp [same, CursorKind.isFunction, Kind.isParameter]
  | _ => simp [CursorKind.isFunction, Kind.isParameter]

/-- The parameters of a declarator are those of the function declarator that it stands for. -/
theorem Item.parametersOf_eq (declarator? : Option Node) :
    parametersOf declarator? =
      (((declarator?.bind Node.functionDeclarator?).map Node.parameters).getD []).map
        (⟨·, none⟩) := by
  unfold parametersOf
  cases declarator?.bind Node.functionDeclarator? <;> rfl

/-- The parameters of a function declarator are parameters. -/
theorem Node.isParameter_of_mem_parameters {function parameter : Node}
    (mem : parameter ∈ function.parameters) : parameter.kind.isParameter = true := by
  unfold parameters at mem
  split at mem
  · exact (List.mem_filter.mp mem).2
  · cases mem

namespace Cursor

/-- The children that are parameters. -/
def parameters (cursor : Cursor) : List Cursor := cursor.children.filter (·.kind == .parameter)

/-- The nodes of the parameters of a function. -/
def parameterNodes (cursor : Cursor) : List Node :=
  (cursor.function?.map Node.parameters).getD []

/-- The nodes of the parameters of a function are parameters. -/
theorem isParameter_of_mem_parameterNodes {cursor : Cursor} {parameter : Node}
    (mem : parameter ∈ cursor.parameterNodes) : parameter.kind.isParameter = true := by
  unfold parameterNodes at mem
  cases found : cursor.function? with
  | none => simp [found] at mem
  | some function =>
    rw [found] at mem
    exact Node.isParameter_of_mem_parameters mem

/-- The children of a function are its parameters, and behind them its body if it is defined. -/
theorem children_of_function {cursor : Cursor} (isFunction : cursor.kind.isFunction = true) :
    ∃ bodies : List Node, cursor.children =
        (cursor.parameterNodes ++ bodies).map (⟨⟨·, none⟩, cursor.unit⟩) ∧
      ∀ body ∈ bodies, cursor.node.kind = .functionDefinition ∧
        cursor.node.childIn? .body = some body := by
  rw [children, Item.children, parameterNodes, function?]
  cases seen : cursor.declarator? with
  | some declarator =>
    refine ⟨[], ?_, by simp⟩
    rw [Option.some_or, List.append_nil]
    dsimp only
    rw [Item.parametersOf_eq, List.map_map]
    rfl
  | none =>
    have isDefinition : cursor.node.kind = .functionDefinition := by
      rw [kind, Item.kind, seen] at isFunction
      exact (Item.kindOfNode_function cursor.node).1.mp isFunction
    refine ⟨(cursor.node.childIn? .body).toList, ?_, ?_⟩
    · rw [Option.none_or]
      dsimp only
      rw [Item.childrenOfNode, isDefinition]
      dsimp only
      rw [Item.parametersOf_eq, ← List.map_append, List.map_map]
      rfl
    · intro body listed
      exact ⟨isDefinition, Option.mem_toList.mp listed⟩

/-- The children of a function that are parameters are those of its function declarator. -/
theorem parameters_eq_map {cursor : Cursor} (isFunction : cursor.kind.isFunction = true)
    (bodyPlain : cursor.node.kind = .functionDefinition →
      ∀ body ∈ cursor.node.childIn? .body, body.kind.isParameter = false) :
    cursor.parameters = cursor.parameterNodes.map (⟨⟨·, none⟩, cursor.unit⟩) := by
  obtain ⟨bodies, listed, areBodies⟩ := children_of_function isFunction
  have isKind (node : Node) : kind ⟨⟨node, none⟩, cursor.unit⟩ == .parameter ↔
      node.kind.isParameter = true := by
    rw [beq_iff_eq]
    exact (Item.kindOfNode_function node).2
  rw [parameters, listed, List.map_append, List.filter_append]
  have allParameters : ∀ child ∈ cursor.parameterNodes.map
      (fun node => (⟨⟨node, none⟩, cursor.unit⟩ : Cursor)), child.kind == .parameter := by
    intro child isChild
    obtain ⟨node, isNode, rfl⟩ := List.mem_map.mp isChild
    exact (isKind node).mpr (isParameter_of_mem_parameterNodes isNode)
  have noBodies : ∀ child ∈ bodies.map
      (fun node => (⟨⟨node, none⟩, cursor.unit⟩ : Cursor)), ¬ child.kind == .parameter := by
    intro child isChild isParameter
    obtain ⟨body, isBody, rfl⟩ := List.mem_map.mp isChild
    obtain ⟨isDefinition, found⟩ := areBodies body isBody
    rw [isKind, bodyPlain isDefinition body found] at isParameter
    cases isParameter
  rw [List.filter_eq_self.mpr allParameters, List.filter_eq_nil_iff.mpr noBodies, List.append_nil]

/-- The type of a parameter that is seen as a child is the one that its function has for it. -/
theorem type_of_parameter {parameter : Node} (unit : TranslationUnit)
    (isParameter : parameter.kind.isParameter = true) :
    type ⟨⟨parameter, none⟩, unit⟩ = CType.parameterType unit.source parameter := by
  have isKind : kind ⟨⟨parameter, none⟩, unit⟩ = .parameter :=
    (Item.kindOfNode_function parameter).2.mpr isParameter
  rw [type, typeSource, isKind, CType.parameterType_eq]
  rfl

/-- A function has the type that its declarator derives. -/
theorem type_of_function {cursor : Cursor} (isFunction : cursor.kind.isFunction = true) :
    cursor.type = .ofDeclaration cursor.unit.source cursor.node
      (cursor.declarator?.or (cursor.node.childIn? .declarator)) := by
  unfold type typeSource
  unfold CursorKind.isFunction at isFunction
  split at isFunction
  · rename_i isKind
    rw [isKind]
  · rename_i isKind
    rw [isKind]
  · cases isFunction

/-- The parameters of a function agree in all views.  The display name is the name with the texts of
the parameters behind it.  If the declaration has a type, the wrappers around the function
declarator hold their inner declarators where the type looks for them, and the function declarator
holds no further wrapper, then the type is that of a function which takes the types of all
parameters but the variadic ones. -/
theorem parameters_agree {cursor : Cursor} (isFunction : cursor.kind.isFunction = true)
    (bodyPlain : cursor.node.kind = .functionDefinition →
      ∀ body ∈ cursor.node.childIn? .body, body.kind.isParameter = false) :
    cursor.displayName = cursor.spelling ++ "(" ++
        ", ".intercalate (cursor.parameters.map (parameterText cursor.unit ·.node)) ++ ")" ∧
      ∀ declarator function,
        cursor.declarator?.or (cursor.node.childIn? .declarator) = some declarator →
        declarator.functionDeclarator? = some function →
        (cursor.node.childIn? .type).isSome = true →
        (∀ wrapper, declarator.Contains wrapper → wrapper.Encloses function →
          wrapper.HoldsInner) →
        (∀ inner ∈ function.inner?, inner.kind.isWrapper = false) →
        cursor.type.kind = .function ∧
          cursor.type.parameterTypes =
            (cursor.parameters.filter (·.node.kind != .parameter .variadic)).map type := by
  rw [parameters_eq_map isFunction bodyPlain]
  constructor
  · rw [displayName, if_pos isFunction, List.map_map]
    rfl
  · intro declarator function isDeclarator found typed built plain
    have nodes : cursor.parameterNodes = function.parameters := by
      rw [parameterNodes, function?, isDeclarator, Option.bind_some, found]
      rfl
    obtain ⟨isKind, marked⟩ := Node.functionDeclarator?_eq_some found
    have hasBase : (CType.base? cursor.unit.source cursor.node).isSome = true := by
      rw [CType.base?, Option.isSome_map]
      exact typed
    obtain ⟨base, isBase⟩ := Option.isSome_iff_exists.mp hasBase
    obtain ⟨result, derived⟩ :=
      CType.exists_derive_of_functionDeclarator? found built cursor.unit.source base
    have isType : cursor.type = .function result
        ((function.parameters.filter (·.kind != .parameter .variadic)).map
          (CType.parameterType cursor.unit.source)) := by
      rw [type_of_function isFunction, isDeclarator, CType.ofDeclaration_of_base? isBase,
        Option.map_some, Option.getD_some, derived]
      exact CType.derive_of_function isKind marked plain cursor.unit.source result
    rw [isType]
    refine ⟨rfl, ?_⟩
    show List.map _ _ = _
    rw [nodes, List.filter_map, List.map_map]
    refine List.map_congr_left fun parameter listed => ?_
    have isParameter : parameter.kind.isParameter = true :=
      Node.isParameter_of_mem_parameters (List.mem_filter.mp listed).1
    exact (type_of_parameter cursor.unit isParameter).symm

/-- The definition behind a pointer and a reference shows three parameters, and its type two. -/
theorem parameters_agree_variadic :
    ∃ cursor, TranslationUnit.variadic.cursor.descend? [0] = some cursor ∧
      cursor.kind = .functionDecl ∧
      cursor.displayName = "f(const char *, int = 1, Args...)" ∧
      cursor.parameters.length = 3 ∧
      cursor.type.kind = .function ∧
      cursor.type.parameterTypes =
        (cursor.parameters.filter (·.node.kind != .parameter .variadic)).map type := by
  have facts : (TranslationUnit.variadic.cursor.descend? [0]).any (fun cursor =>
      decide (cursor.kind = .functionDecl) &&
      decide (cursor.displayName = "f(const char *, int = 1, Args...)") &&
      decide (cursor.parameters.length = 3) &&
      (cursor.node.childIn? .body).all (!·.kind.isParameter) &&
      (cursor.node.childIn? .type).isSome &&
      (cursor.declarator?.or (cursor.node.childIn? .declarator)).any fun declarator =>
        decide (∀ wrapper ∈ declarator.nodes, wrapper.HoldsInner) &&
        declarator.functionDeclarator?.any fun function =>
          function.inner?.all (!·.kind.isWrapper)) = true := by
    decide +kernel
  simp only [Option.any_eq_true, Bool.and_eq_true, decide_eq_true_eq, Option.all_eq_true,
    Bool.not_eq_true'] at facts
  obtain ⟨cursor, found, ⟨⟨⟨⟨isKind, shown⟩, three⟩, bodyPlain⟩, typed⟩, declarator, isDeclarator,
    built, function, stands, plain⟩ := facts
  have isFunction : cursor.kind.isFunction = true := by rw [isKind]; rfl
  obtain ⟨-, agree⟩ := parameters_agree isFunction fun _ => bodyPlain
  refine ⟨cursor, found, isKind, shown, three, ?_⟩
  refine agree declarator function isDeclarator stands typed ?_ plain
  intro wrapper contained _
  exact built wrapper (Node.mem_nodes_iff.mpr contained)

end Cursor

end DeclScope
