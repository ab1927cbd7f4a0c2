import DeclScope.Proofs.Cursor.Parameters
import DeclScope.Proofs.Scope.Contents

/-!
# The name and the parameters of a function

The name of a function and its parameters are found by two walks into its declarator.  The walk to
the function declarator goes through pointers, references and attributes only, and stops at the
first function declarator.  The walk to the name goes on through every sort of layer.  As long as
both walk they take the same steps, so the walk to the name comes past the function declarator that
the other one stops at, and goes on with the declarator inside it.

Hence the name and the parameters of a function cursor come from one function declarator, where the
walk finds one.  It finds none where the declarator inside the function declarator is in
parentheses.  A definition of this form is a function all the same, and has its name from there, but
it shows no parameters.
-/

namespace DeclScope

/-- The unit of `int (f)(int a) {}`. -/
def TranslationUnit.enclosed : TranslationUnit where
  filename := "enclosed.c"
  language := .c
  source := .ofString "int (f)(int a) \x7b\x7d"
  arguments := []
  tree := .named .translationUnit none 0 17 [
    .named .functionDefinition none 0 17 [
      .named .primitiveType (some .type) 0 3 [],
      .named (.declarator .function false) (some .declarator) 4 14 [
        .named (.declarator .parenthesized false) (some .declarator) 4 7 [
          .token "(" 4,
          .named (.name .plain) none 5 6 [],
          .token ")" 6],
        .named (.other "parameter_list") (some .parameters) 7 14 [
          .token "(" 7,
          .named (.parameter .plain) none 8 13 [
            .named .primitiveType (some .type) 8 11 [],
            .named (.name .plain) (some .declarator) 12 13 []],
          .token ")" 13]],
      .named .compoundStatement (some .body) 15 17 [
        .token "\x7b" 15,
        .token "\x7d" 16]]]

/-- The declarators that belong to the result of a function inside them are pointers, references and
attributes. -/
theorem Kind.wrapsResult_iff (kind : Kind) :
    kind.wrapsResult = true ↔
      kind ∈ [Kind.declarator .pointer false, .declarator .reference false,
        .attributedDeclarator] := by
  unfold wrapsResult
  split <;> simp_all

namespace Node

/-- The node is a function declarator, and the declarator inside it is not in parentheses. -/
def IsFunctionDeclarator (node : Node) : Prop :=
  node.kind = .declarator .function false ∧
    ∃ inner, node.childIn? .declarator = some inner ∧
      inner.kind ≠ .declarator .parenthesized false

/-- The node is a function declarator, and the declarator inside it is in parentheses. -/
def HidesFunction (node : Node) : Prop :=
  node.kind = .declarator .function false ∧
    ∃ inner, node.childIn? .declarator = some inner ∧
      inner.kind = .declarator .parenthesized false

/-- One step of the walk to a function declarator: the outer node belongs to the result, and the
step inwards leads to the inner one. -/
def LooksThrough (outer inner : Node) : Prop :=
  outer.kind.wrapsResult = true ∧ outer.inner? = some inner

/-- What belongs to the result of a function is no function declarator. -/
theorem LooksThrough.kind_ne {outer inner : Node} (step : outer.LooksThrough inner) :
    outer.kind ≠ .declarator .function false := by
  intro isKind
  have wraps := step.1
  rw [isKind] at wraps
  cases wraps

/-- The walk goes on with the step inwards. -/
theorem LooksThrough.functionDeclarator?_eq {outer inner : Node}
    (step : outer.LooksThrough inner) :
    outer.functionDeclarator? = inner.functionDeclarator? := by
  rw [functionDeclarator?, if_neg step.kind_ne, if_pos step.1]
  split <;> simp_all [step.2]

/-- A step of the walk leads to a child. -/
theorem LooksThrough.isChild {outer inner : Node} (step : outer.LooksThrough inner) :
    IsChild outer inner :=
  mem_children_of_inner? step.2

/-- A step of the walk to the function declarator is one of the walk to the name. -/
theorem LooksThrough.declaredName?_eq {outer inner : Node} (step : outer.LooksThrough inner) :
    outer.declaredName? = inner.declaredName? := by
  have isLayer : ∃ layer : Layer, outer.kind = layer.kind := by
    have wraps := (Kind.wrapsResult_iff _).mp step.1
    simp only [List.mem_cons, List.not_mem_nil, or_false] at wraps
    rcases wraps with isKind | isKind | isKind
    · exact ⟨.part .pointer, isKind⟩
    · exact ⟨.part .reference, isKind⟩
    · exact ⟨.attributed, isKind⟩
  obtain ⟨layer, isKind⟩ := isLayer
  rw [declaredName?_of_layer isKind, step.2, Option.bind_some]

/-- The walk stops at a function declarator whose name is not in parentheses. -/
theorem IsFunctionDeclarator.functionDeclarator?_eq {node : Node}
    (isFunction : node.IsFunctionDeclarator) : node.functionDeclarator? = some node := by
  obtain ⟨isKind, inner, found, plain⟩ := isFunction
  rw [functionDeclarator?, if_pos isKind, found, Option.bind_some, if_neg plain]

/-- The walk finds nothing at a function declarator whose name is in parentheses. -/
theorem HidesFunction.functionDeclarator?_eq {node : Node} (hides : node.HidesFunction) :
    node.functionDeclarator? = none := by
  obtain ⟨isKind, inner, found, enclosed⟩ := hides
  rw [functionDeclarator?, if_pos isKind, found, Option.bind_some, if_pos enclosed]

/-- The walk finds what it finds from every node on it. -/
theorem functionDeclarator?_eq_of_looksThrough {outer inner : Node}
    (walk : Relation.ReflTransGen LooksThrough outer inner) :
    outer.functionDeclarator? = inner.functionDeclarator? := by
  induction walk with
  | refl => rfl
  | tail _ step inductionHypothesis => exact inductionHypothesis.trans step.functionDeclarator?_eq

/-- A declarator stands for the function declarators that its walk leads to. -/
theorem functionDeclarator?_eq_some_iff {declarator function : Node} :
    declarator.functionDeclarator? = some function ↔
      Relation.ReflTransGen LooksThrough declarator function ∧
        function.IsFunctionDeclarator := by
  constructor
  · intro found
    fun_induction functionDeclarator? declarator with
    | case1 node isKind =>
      obtain ⟨inner, marked, rest⟩ := Option.bind_eq_some_iff.mp found
      split at rest
      · cases rest
      · rename_i plain
        cases rest
        exact ⟨.refl, isKind, inner, marked, plain⟩
    | case2 node _ wraps inner step inductionHypothesis =>
      obtain ⟨walk, isFunction⟩ := inductionHypothesis found
      exact ⟨.head ⟨wraps, step⟩ walk, isFunction⟩
    | case3 => cases found
    | case4 => cases found
  · rintro ⟨walk, isFunction⟩
    exact (functionDeclarator?_eq_of_looksThrough walk).trans isFunction.functionDeclarator?_eq

/-- The walk to a function declarator keeps the declared name. -/
theorem declaredName?_eq_of_looksThrough {outer inner : Node}
    (walk : Relation.ReflTransGen LooksThrough outer inner) :
    outer.declaredName? = inner.declaredName? := by
  induction walk with
  | refl => rfl
  | tail _ step inductionHypothesis => exact inductionHypothesis.trans step.declaredName?_eq

/-- Whatever encloses the end of a walk inside its start is on the walk.

By induction on the walk from its start.  A node that encloses the end contains the last node before
it, since a node has only one parent: it is that node, or encloses it as well. -/
theorem wrapsResult_of_looksThrough {outer inner wrapper : Node}
    (walk : Relation.ReflTransGen LooksThrough outer inner) (inside : outer.Contains wrapper)
    (around : wrapper.Encloses inner) : wrapper.kind.wrapsResult = true := by
  induction walk with
  | refl => exact absurd inside around.not_contains
  | tail _ step inductionHypothesis =>
    have contains := (encloses_child_iff step.isChild).mp around
    rcases Relation.reflTransGen_iff_eq_or_transGen.mp contains with rfl | encloses
    · exact step.1
    · exact inductionHypothesis encloses

/-- The name of a function declarator is that of the declarator inside it. -/
theorem declaredName?_of_function {function inner : Node}
    (isKind : function.kind = .declarator .function false)
    (found : function.childIn? .declarator = some inner) :
    function.declaredName? = inner.declaredName? := by
  have isLayer : function.kind = Layer.kind (.part .function) := isKind
  rw [declaredName?_of_layer isLayer, inner?, found, Option.some_or, Option.bind_some]

end Node

namespace Cursor

/-- A function that is seen through a declarator has a function declarator there. -/
theorem function?_isSome {cursor : Cursor} {declarator : Node}
    (isFunction : cursor.kind.isFunction = true) (seen : cursor.declarator? = some declarator) :
    cursor.function?.isSome = true := by
  rw [function?, seen, Option.some_or, Option.bind_some]
  rw [kind, Item.kind, seen] at isFunction
  simp only [Item.kindOfDeclarator] at isFunction
  repeat' split at isFunction
  all_goals first | assumption | cases isFunction

/-- A function that is seen as a whole node is a definition. -/
theorem node_kind_of_function {cursor : Cursor} (isFunction : cursor.kind.isFunction = true)
    (whole : cursor.declarator? = none) : cursor.node.kind = .functionDefinition := by
  rw [kind, Item.kind, whole] at isFunction
  exact (Item.kindOfNode_function cursor.node).1.mp isFunction

/-- The name of a function is looked for in the declarator in which its function declarator is. -/
theorem nameNode?_of_function {cursor : Cursor} (isFunction : cursor.kind.isFunction = true) :
    cursor.nameNode? =
      (cursor.declarator?.or (cursor.node.childIn? .declarator)).bind Node.declaredName? := by
  rw [nameNode?]
  cases seen : cursor.declarator? with
  | some declarator => rfl
  | none =>
    rw [node_kind_of_function isFunction seen]
    rfl

/-- The name of a function is that of its function declarator. -/
theorem nameNode?_eq_of_function? {cursor : Cursor} {function : Node}
    (isFunction : cursor.kind.isFunction = true) (found : cursor.function? = some function) :
    cursor.nameNode? = function.declaredName? := by
  obtain ⟨declarator, seen, stands⟩ := Option.bind_eq_some_iff.mp found
  rw [nameNode?_of_function isFunction, seen, Option.bind_some]
  exact Node.declaredName?_eq_of_looksThrough (Node.functionDeclarator?_eq_some_iff.mp stands).1

/-- A function is spelled by its name. -/
theorem spelling_of_function {cursor : Cursor} (isFunction : cursor.kind.isFunction = true) :
    cursor.spelling = (cursor.nameNode?.map cursor.unit.text).getD "" := by
  have inUnit : cursor.kind ≠ .translationUnit := by
    intro isUnit
    rw [isUnit] at isFunction
    cases isFunction
  rw [spelling, if_neg inUnit]

/-- A function shows the parameters of its function declarator behind its name, and has them as its
first children; only the body of a definition comes behind them. -/
theorem shows_parameterNodes {cursor : Cursor} (isFunction : cursor.kind.isFunction = true) :
    cursor.displayName = cursor.spelling ++ "(" ++
        ", ".intercalate (cursor.parameterNodes.map (parameterText cursor.unit)) ++ ")" ∧
      ∃ bodies : List Node, cursor.children =
          (cursor.parameterNodes ++ bodies).map (⟨⟨·, none⟩, cursor.unit⟩) ∧
        ∀ body ∈ bodies, cursor.node.childIn? .body = some body := by
  obtain ⟨bodies, listed, areBodies⟩ := children_of_function isFunction
  refine ⟨?_, bodies, listed, fun body isBody => (areBodies body isBody).2⟩
  rw [displayName, if_pos isFunction]
  rfl

/-- A function has no function declarator exactly if it is seen as a whole definition, and the walk
from its declarator leads to none. -/
theorem function?_eq_none_iff {cursor : Cursor} (isFunction : cursor.kind.isFunction = true) :
    cursor.function? = none ↔
      cursor.declarator? = none ∧ ∀ declarator function,
        cursor.node.childIn? .declarator = some declarator →
        Relation.ReflTransGen Node.LooksThrough declarator function →
        ¬ function.IsFunctionDeclarator := by
  constructor
  · intro missing
    have whole : cursor.declarator? = none := by
      rw [← Option.not_isSome_iff_eq_none]
      intro seen
      obtain ⟨declarator, isDeclarator⟩ := Option.isSome_iff_exists.mp seen
      have found := function?_isSome isFunction isDeclarator
      rw [missing] at found
      cases found
    refine ⟨whole, ?_⟩
    intro declarator function isDeclarator walk takes
    have found := Node.functionDeclarator?_eq_some_iff.mpr ⟨walk, takes⟩
    rw [function?, whole, Option.none_or, isDeclarator, Option.bind_some, found] at missing
    cases missing
  · rintro ⟨whole, leadsToNone⟩
    rw [function?, whole, Option.none_or, Option.bind_eq_none_iff]
    intro declarator isDeclarator
    rw [Option.eq_none_iff_forall_ne_some]
    intro function found
    obtain ⟨walk, takes⟩ := Node.functionDeclarator?_eq_some_iff.mp found
    exact leadsToNone declarator function isDeclarator walk takes

/-- A function without a function declarator shows no parameters, and has only a body as a child. -/
theorem shows_nothing {cursor : Cursor} (isFunction : cursor.kind.isFunction = true)
    (missing : cursor.function? = none) :
    cursor.displayName = cursor.spelling ++ "()" ∧
      ∀ child ∈ cursor.children, cursor.node.childIn? .body = some child.node := by
  obtain ⟨shown, bodies, listed, areBodies⟩ := shows_parameterNodes isFunction
  have none : cursor.parameterNodes = [] := by
    rw [parameterNodes, missing]
    rfl
  rw [none] at shown listed
  constructor
  · rw [shown, List.map_nil, String.intercalate_nil, String.append_assoc, String.append_assoc]
    rfl
  · intro child isChild
    rw [listed] at isChild
    obtain ⟨body, isBody, rfl⟩ := List.mem_map.mp isChild
    exact areBodies body isBody

/-- The function declarator that a declarator stands for is the declarator itself or inside it, its
own declarator is not in parentheses, only pointers, references and attributes are around it, and
it declares the name that the declarator declares, which is that of its own declarator.  Every
function declarator that is wrapped in this way is found.

So a function cursor for which there is such a function declarator shows its parameters, in the
display name and as children, and has the name that it declares.  There is none exactly if the
cursor is seen as a whole definition and only pointers, references and attributes lead to no
function declarator of this form.

If they lead to a function declarator whose own declarator is in parentheses, the cursor has the
name that is declared there, and shows no parameters whatever is declared there. -/
theorem name_and_parameters_of_function (declarator : Node) (cursor : Cursor) :
    (∀ function, declarator.functionDeclarator? = some function →
      declarator.Contains function ∧ function.IsFunctionDeclarator ∧
      (∀ wrapper, declarator.Contains wrapper → wrapper.Encloses function →
        wrapper.kind ∈ [Kind.declarator .pointer false, .declarator .reference false,
          .attributedDeclarator]) ∧
      declarator.declaredName? = function.declaredName? ∧
      ∀ inner ∈ function.childIn? .declarator, function.declaredName? = inner.declaredName?) ∧
    (∀ function, Relation.ReflTransGen Node.LooksThrough declarator function →
      function.IsFunctionDeclarator → declarator.functionDeclarator? = some function) ∧
    (cursor.kind.isFunction = true →
      (∀ function, cursor.function? = some function →
        cursor.nameNode? = function.declaredName? ∧
        cursor.spelling = (function.declaredName?.map cursor.unit.text).getD "" ∧
        cursor.displayName = cursor.spelling ++ "(" ++
          ", ".intercalate (function.parameters.map (parameterText cursor.unit)) ++ ")" ∧
        ∃ bodies : List Node,
          cursor.children = (function.parameters ++ bodies).map (⟨⟨·, none⟩, cursor.unit⟩) ∧
          ∀ body ∈ bodies, cursor.node.childIn? .body = some body) ∧
      (cursor.function? = none ↔
        cursor.declarator? = none ∧ ∀ declarator function,
          cursor.node.childIn? .declarator = some declarator →
          Relation.ReflTransGen Node.LooksThrough declarator function →
          ¬ function.IsFunctionDeclarator)) ∧
    (∀ function, cursor.kind.isFunction = true → cursor.declarator? = none →
      cursor.node.childIn? .declarator = some declarator →
      Relation.ReflTransGen Node.LooksThrough declarator function → function.HidesFunction →
      cursor.nameNode? = function.declaredName? ∧
        cursor.displayName = cursor.spelling ++ "()" ∧
        ∀ child ∈ cursor.children, cursor.node.childIn? .body = some child.node) := by
  refine ⟨?_, ?_, ?_, ?_⟩
  · intro function found
    obtain ⟨walk, isFunction⟩ := Node.functionDeclarator?_eq_some_iff.mp found
    refine ⟨Node.contains_of_functionDeclarator? found, isFunction, ?_,
      Node.declaredName?_eq_of_looksThrough walk, ?_⟩
    · intro wrapper inside around
      exact (Kind.wrapsResult_iff _).mp (Node.wrapsResult_of_looksThrough walk inside around)
    · intro inner marked
      exact Node.declaredName?_of_function isFunction.1 marked
  · intro function walk isFunction
    exact Node.functionDeclarator?_eq_some_iff.mpr ⟨walk, isFunction⟩
  · intro isFunction
    refine ⟨?_, function?_eq_none_iff isFunction⟩
    intro function found
    obtain ⟨shown, listed⟩ := shows_parameterNodes isFunction
    have named := nameNode?_eq_of_function? isFunction found
    rw [parameterNodes, found] at shown listed
    exact ⟨named, named ▸ spelling_of_function isFunction, shown, listed⟩
  · intro function isFunction whole isDeclarator walk hides
    have missing : cursor.function? = none := by
      rw [function?, whole, Option.none_or, isDeclarator, Option.bind_some,
        Node.functionDeclarator?_eq_of_looksThrough walk, hides.functionDeclarator?_eq]
    refine ⟨?_, shows_nothing isFunction missing⟩
    rw [nameNode?_of_function isFunction, whole, Option.none_or, isDeclarator, Option.bind_some,
      Node.declaredName?_eq_of_looksThrough walk]

/-- The function `f` is behind a pointer and a reference, and shows the three parameters of the
function declarator that declares its name. -/
theorem name_and_parameters_of_variadic :
    ∃ cursor declarator middle function name,
      TranslationUnit.variadic.cursor.descend? [0] = some cursor ∧
      cursor.kind.isFunction = true ∧ cursor.node.childIn? .declarator = some declarator ∧
      declarator.LooksThrough middle ∧ middle.LooksThrough function ∧
      function.IsFunctionDeclarator ∧ declarator.functionDeclarator? = some function ∧
      declarator.Contains middle ∧ middle.Encloses function ∧
      middle.kind ∈ [Kind.declarator .pointer false, .declarator .reference false,
        .attributedDeclarator] ∧
      function.childIn? .declarator = some name ∧ declarator.declaredName? = some name ∧
      cursor.nameNode? = some name ∧
      cursor.displayName = "f(" ++
        ", ".intercalate (function.parameters.map (parameterText cursor.unit)) ++ ")" ∧
      function.parameters.length = 3 := by
  have facts : (TranslationUnit.variadic.cursor.descend? [0]).any (fun cursor =>
      cursor.kind.isFunction && cursor.declarator?.isNone &&
      (cursor.node.childIn? .declarator).any fun declarator =>
        declarator.kind.wrapsResult && declarator.inner?.any fun middle =>
        middle.kind.wrapsResult && middle.inner?.any fun function =>
          decide (function.kind = .declarator .function false) &&
          decide (function.parameters.length = 3) &&
          (function.childIn? .declarator).any fun name =>
            decide (name.kind = .name .plain) && decide (cursor.unit.text name = "f")) = true := by
    decide +kernel
  simp only [Option.any_eq_true, Bool.and_eq_true, decide_eq_true_eq, Option.isNone_iff_eq_none]
    at facts
  obtain ⟨cursor, reached, ⟨isFunction, whole⟩, declarator, isDeclarator, outerWraps, middle,
    outerStep, innerWraps, function, innerStep, ⟨isKind, three⟩, name, isInner, isName,
    spelled⟩ := facts
  have outer : declarator.LooksThrough middle := ⟨outerWraps, outerStep⟩
  have inner : middle.LooksThrough function := ⟨innerWraps, innerStep⟩
  have takes : function.IsFunctionDeclarator := ⟨isKind, name, isInner, by rw [isName]; decide⟩
  obtain ⟨sound, complete, shows, -⟩ := name_and_parameters_of_function declarator cursor
  have stands := complete function (.tail (.single outer) inner) takes
  obtain ⟨-, -, wrapped, sameName, own⟩ := sound function stands
  have named : function.declaredName? = some name :=
    (own name isInner).trans (Node.declaredName?_of_name isName)
  have found : cursor.function? = some function := by
    rw [function?, whole, Option.none_or, isDeclarator, Option.bind_some, stands]
  obtain ⟨sameNode, isSpelled, shown, -⟩ := (shows isFunction).1 function found
  rw [isSpelled, named, Option.map_some, Option.getD_some, spelled] at shown
  exact ⟨cursor, declarator, middle, function, name, reached, isFunction, isDeclarator, outer,
    inner, takes, stands, .single outer.isChild, .single inner.isChild,
    wrapped middle (.single outer.isChild) (.single inner.isChild), isInner,
    sameName.trans named, sameNode.trans named, shown, three⟩

/-- The function `f` of `int (f)(int a) {}` is declared by a function declarator with a parameter of
type `int`.  It has its name from there, but its display name is `f()`, so that no function
declarator in it has the parameters that it shows. -/
theorem parameters_of_enclosed_hidden :
    ∃ cursor function,
      TranslationUnit.enclosed.cursor.descend? [0] = some cursor ∧
      cursor.kind.isFunction = true ∧ cursor.spelling = "f" ∧
      cursor.node.childIn? .declarator = some function ∧
      function.kind = .declarator .function false ∧
      function.declaredName?.map cursor.unit.text = some "f" ∧
      function.parameters.map (parameterText cursor.unit) = ["int"] ∧
      cursor.displayName = "f()" ∧ cursor.children.map (·.kind) = [.compoundStatement] ∧
      ∀ inside, cursor.node.Contains inside → inside.kind = .declarator .function false →
        cursor.displayName ≠ cursor.spelling ++ "(" ++
          ", ".intercalate (inside.parameters.map (parameterText cursor.unit)) ++ ")" := by
  have facts : (TranslationUnit.enclosed.cursor.descend? [0]).any (fun cursor =>
      cursor.kind.isFunction && decide (cursor.spelling = "f") &&
      decide (cursor.displayName = "f()") &&
      decide (cursor.children.map (·.kind) = [.compoundStatement]) &&
      decide (∀ inside ∈ cursor.node.nodes, inside.kind = .declarator .function false →
        cursor.displayName ≠ cursor.spelling ++ "(" ++
          ", ".intercalate (inside.parameters.map (parameterText cursor.unit)) ++ ")") &&
      (cursor.node.childIn? .declarator).any fun function =>
        decide (function.kind = .declarator .function false) &&
        decide (function.declaredName?.map cursor.unit.text = some "f") &&
        decide (function.parameters.map (parameterText cursor.unit) = ["int"])) = true := by
    decide +kernel
  simp only [Option.any_eq_true, Bool.and_eq_true, decide_eq_true_eq] at facts
  obtain ⟨cursor, reached, ⟨⟨⟨⟨isFunction, spelled⟩, shown⟩, listed⟩, differ⟩, function,
    isDeclarator, ⟨isKind, named⟩, takes⟩ := facts
  refine ⟨cursor, function, reached, isFunction, spelled, isDeclarator, isKind, named, takes, shown,
    listed, ?_⟩
  intro inside contains
  exact differ inside (Node.mem_nodes_iff.mpr contains)

end Cursor

end DeclScope
