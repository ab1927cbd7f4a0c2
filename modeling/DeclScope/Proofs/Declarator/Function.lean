import DeclScope.Cursor.Type
import DeclScope.Proofs.Declarator.Name

/-!
# Which declarators declare functions

Two views answer whether a declaration declares a function.  The kind of its cursor looks at the
outside of the declarator: through pointers and references, at a parameter list that is not followed
by a parenthesis.  The type takes the layers one by one and is decided by the innermost of them,
parentheses and initial values apart.

The two differ.  In C the innermost layer tells what the name stands for.  So for declarators that C
allows the views agree on everything that is no function, and on functions exactly where there are
neither parentheses nor an initial value: `int (f)(int)` and `int (*f(int))[3]` declare functions by
their types, and variables by the kinds of their cursors.
-/

namespace DeclScope

/-- The unit of `int (f)(int); int *g(int);`, which declares two functions. -/
def TranslationUnit.functions : TranslationUnit where
  filename := "functions.cpp"
  language := .cpp
  source := .ofString "int (f)(int); int *g(int);"
  arguments := []
  tree := .named .translationUnit none 0 26 [
    .named .declaration none 0 13 [
      .named .primitiveType (some .type) 0 3 [],
      .named (.declarator .function false) (some .declarator) 4 12 [
        .named (.declarator .parenthesized false) (some .declarator) 4 7 [
          .token "(" 4,
          .named (.name .plain) none 5 6 [],
          .token ")" 6],
        .named (.other "parameter_list") (some .parameters) 7 12 [
          .token "(" 7,
          .named (.parameter .plain) none 8 11 [.named .primitiveType (some .type) 8 11 []],
          .token ")" 11]],
      .token ";" 12],
    .named .declaration none 14 26 [
      .named .primitiveType (some .type) 14 17 [],
      .named (.declarator .pointer false) (some .declarator) 18 25 [
        .token "*" 18,
        .named (.declarator .function false) (some .declarator) 19 25 [
          .named (.name .plain) (some .declarator) 19 20 [],
          .named (.other "parameter_list") (some .parameters) 20 25 [
            .token "(" 20,
            .named (.parameter .plain) none 21 24 [.named .primitiveType (some .type) 21 24 []],
            .token ")" 24]]],
      .token ";" 25]]

/-- Whether a node is a name, possibly one that wraps others. -/
def Kind.isName : Kind → Bool
  | name _ => true
  | scopedName _ => true
  | _ => false

namespace Layer

/-- Whether the layer is written in front of what it holds: a pointer or a reference. -/
def standsInFront : Layer → Bool
  | part .pointer => true
  | part .reference => true
  | _ => false

/-- Whether the layer is written behind what it holds: an array or a function. -/
def standsBehind : Layer → Bool
  | part .array => true
  | part .function => true
  | _ => false

/-- Whether the layer adds to the type. -/
def isTyped (layer : Layer) : Bool := layer.standsInFront || layer.standsBehind

/-- The layers begin, behind pointers and references, with a function and no parenthesis in it. -/
def ReadsAsFunction (layers : List Layer) : Prop :=
  ∃ wrappers rest, layers = wrappers ++ .part .function :: rest ∧
    (∀ layer ∈ wrappers, layer.standsInFront = true) ∧
    rest.head? ≠ some (.part .parenthesized)

/-- The innermost layer that adds to the type. -/
def innermost? (layers : List Layer) : Option Layer := (layers.filter isTyped).getLast?

/-- The layers, from the outside in, of a declarator that C allows.  An initial value is outermost;
a pointer or reference inside an array or function is in parentheses; and no function returns an
array or a function, and no array consists of functions.  Which things may have an initial value is
not asked. -/
structure Lawful (layers : List Layer) : Prop where
  initOutermost : .init ∉ layers.tail
  guarded : layers.IsChain fun outer inner =>
    outer.standsBehind = true → inner.standsInFront = false
  composed : (layers.filter isTyped).IsChain fun outer inner =>
    (outer = .part .function → inner.standsBehind = false) ∧
      (outer = .part .array → inner ≠ .part .function)

/-- How the outermost layer decides whether layers read as a function. -/
theorem readsAsFunction_cons {layer : Layer} {layers : List Layer} :
    ReadsAsFunction (layer :: layers) ↔
      (layer = .part .function ∧ layers.head? ≠ some (.part .parenthesized)) ∨
        (layer.standsInFront = true ∧ ReadsAsFunction layers) := by
  constructor
  · rintro ⟨wrappers, rest, same, inFront, outside⟩
    cases wrappers with
    | nil =>
      obtain ⟨rfl, rfl⟩ := List.cons.inj same
      exact .inl ⟨rfl, outside⟩
    | cons first others =>
      obtain ⟨rfl, rfl⟩ := List.cons.inj same
      obtain ⟨here, behind⟩ := List.forall_mem_cons.mp inFront
      exact .inr ⟨here, others, rest, rfl, behind, outside⟩
  · rintro (⟨rfl, outside⟩ | ⟨here, wrappers, rest, rfl, inFront, outside⟩)
    · exact ⟨[], layers, rfl, by simp, outside⟩
    · exact ⟨layer :: wrappers, rest, rfl, List.forall_mem_cons.mpr ⟨here, inFront⟩, outside⟩

/-- No layers read as no function. -/
theorem not_readsAsFunction_nil : ¬ ReadsAsFunction [] := by
  rintro ⟨wrappers, rest, same, -, -⟩
  simp at same

/-- The innermost layer is that of the inner layers, if they have one, and otherwise the outermost
layer. -/
theorem innermost?_cons (layer : Layer) (layers : List Layer) :
    innermost? (layer :: layers) =
      (innermost? layers).or (if layer.isTyped then some layer else none) := by
  unfold innermost?
  rw [List.filter_cons]
  cases layer.isTyped with
  | false => simp
  | true => simp [List.getLast?_cons]

/-- What is inside the outermost layer is lawful too. -/
theorem Lawful.tail {layer : Layer} {layers : List Layer} (lawful : Lawful (layer :: layers)) :
    Lawful layers where
  initOutermost within := lawful.initOutermost (List.mem_of_mem_tail within)
  guarded := lawful.guarded.of_cons
  composed := by
    have composed := lawful.composed
    rw [List.filter_cons] at composed
    split at composed
    · exact composed.of_cons
    · exact composed

/-- What may stand right inside a layer, when both add to the type. -/
theorem Lawful.neighbours {outer inner : Layer} {layers : List Layer}
    (lawful : Lawful (outer :: inner :: layers)) (outerTyped : outer.isTyped = true)
    (innerTyped : inner.isTyped = true) :
    (outer = .part .function → inner.standsBehind = false) ∧
      (outer = .part .array → inner ≠ .part .function) := by
  have composed := lawful.composed
  rw [List.filter_cons_of_pos outerTyped, List.filter_cons_of_pos innerTyped] at composed
  exact (List.isChain_cons_cons.mp composed).1

/-- Right inside a function, where no attributes stand, there is nothing or a parenthesis. -/
theorem Lawful.inside_function {layers : List Layer} (lawful : Lawful (.part .function :: layers))
    (plain : .attributed ∉ layers) :
    layers = [] ∨ layers.head? = some (.part .parenthesized) := by
  cases layers with
  | nil => exact .inl rfl
  | cons inner rest =>
    right
    have notInit : inner ≠ .init := by
      rintro rfl
      exact lawful.initOutermost List.mem_cons_self
    have notAttributed : inner ≠ .attributed := by
      rintro rfl
      exact plain List.mem_cons_self
    have notInFront : inner.standsInFront = false :=
      (List.isChain_cons_cons.mp lawful.guarded).1 rfl
    have notBehind : inner.standsBehind = false := by
      by_contra behind
      have isTyped : inner.isTyped = true := by simp_all [isTyped]
      exact behind ((lawful.neighbours rfl isTyped).1 rfl)
    rcases inner with _ | _ | (_ | _ | _ | _ | _) <;>
      simp_all [standsInFront, standsBehind]

/-- A layer around one that reads as a function stands in front, if it adds to the type. -/
theorem Lawful.around_function {layer : Layer} {layers : List Layer}
    (lawful : Lawful (layer :: layers)) (isTyped : layer.isTyped = true)
    (reads : ReadsAsFunction layers) : layer.standsInFront = true := by
  cases layers with
  | nil => exact absurd reads not_readsAsFunction_nil
  | cons inner rest =>
    by_contra notInFront
    have behind : layer.standsBehind = true := by simp_all [Layer.isTyped]
    have notGuarded : inner.standsInFront = false :=
      (List.isChain_cons_cons.mp lawful.guarded).1 behind
    obtain ⟨rfl, -⟩ : inner = .part .function ∧ _ := by
      rcases readsAsFunction_cons.mp reads with here | ⟨inFront, -⟩
      · exact here
      · rw [notGuarded] at inFront
        cases inFront
    obtain ⟨notFunction, notArray⟩ := lawful.neighbours isTyped rfl
    rcases layer with _ | _ | (_ | _ | _ | _ | _) <;> simp_all [standsBehind]

/-- Layers that C allows, without attributes, read as a function exactly when the innermost of them
is a function and there are neither parentheses nor an initial value.

By induction on the layers: behind a pointer or reference both sides go on with what is inside, and
a function that is not innermost has a parenthesis inside it. -/
theorem Lawful.readsAsFunction_iff {layers : List Layer} (lawful : Lawful layers)
    (plain : .attributed ∉ layers) :
    ReadsAsFunction layers ↔ innermost? layers = some (.part .function) ∧
      .init ∉ layers ∧ .part .parenthesized ∉ layers := by
  induction layers with
  | nil => simp [not_readsAsFunction_nil, innermost?]
  | cons layer layers inductionHypothesis =>
    have plainInside : .attributed ∉ layers := fun within => plain (List.mem_cons_of_mem _ within)
    have inside := inductionHypothesis lawful.tail plainInside
    constructor
    · intro reads
      rcases readsAsFunction_cons.mp reads with ⟨rfl, outside⟩ | ⟨inFront, within⟩
      · obtain rfl : layers = [] := (lawful.inside_function plainInside).resolve_right outside
        decide
      · obtain ⟨innermost, noInit, noParentheses⟩ := inside.mp within
        refine ⟨?_, ?_, ?_⟩
        · rw [innermost?_cons, innermost, Option.some_or]
        · rintro (_ | _)
          · cases inFront
          · contradiction
        · rintro (_ | _)
          · cases inFront
          · contradiction
    · rintro ⟨innermost, noInit, noParentheses⟩
      rw [List.mem_cons, not_or] at noInit noParentheses plain
      have isTyped : layer.isTyped = true := by
        rcases layer with _ | _ | (_ | _ | _ | _ | _) <;> simp_all [Layer.isTyped, standsInFront,
          standsBehind]
      rw [innermost?_cons, if_pos isTyped] at innermost
      apply readsAsFunction_cons.mpr
      cases found : innermost? layers with
      | none =>
        rw [found, Option.none_or] at innermost
        refine .inl ⟨Option.some.inj innermost, ?_⟩
        intro first
        exact noParentheses.2 (List.mem_of_mem_head? first)
      | some last =>
        rw [found, Option.some_or] at innermost
        have within : ReadsAsFunction layers :=
          inside.mpr ⟨found.trans innermost, noInit.2, noParentheses.2⟩
        exact .inr ⟨lawful.around_function isTyped within, within⟩

end Layer

namespace TypeKind

/-- The kinds of types that are derived from another. -/
def isDerived : TypeKind → Bool
  | pointer | lvalueReference | rvalueReference | constantArray | incompleteArray | function => true
  | _ => false

/-- Words spell no derived type. -/
theorem isDerived_ofWords (words : List String) : (ofWords words).isDerived = false := by
  have either {choice : Prop} [Decidable choice] {first second : TypeKind}
      (left : first.isDerived = false) (right : second.isDerived = false) :
      (if choice then first else second).isDerived = false := by
    split
    · exact left
    · exact right
  unfold ofWords
  dsimp only
  repeat' apply either
  all_goals rfl

end TypeKind

namespace CType

/-- The kind of a wrapped type, by the layer that wraps it. -/
theorem kind_wrap_iff {part : Node} {layer : Layer} (isKind : part.kind = layer.kind)
    (source : Source) (parameters : List CType) (type : CType) :
    (wrap source part parameters type).kind = .function ↔
      layer = .part .function ∨ (layer.isTyped = false ∧ type.kind = .function) := by
  unfold wrap
  rw [isKind]
  rcases layer with _ | _ | (_ | _ | _ | _ | _)
  case part.reference =>
    cases form : referenceForm part <;> simp [Layer.kind, Layer.isTyped, Layer.standsInFront, kind]
  case part.array =>
    cases size : (part.childIn? .size).map (squeezedText source) <;>
      simp [Layer.kind, Layer.isTyped, Layer.standsInFront, Layer.standsBehind, kind]
  all_goals simp [Layer.kind, Layer.isTyped, Layer.standsInFront, Layer.standsBehind, kind]

/-- A specifier names no derived type. -/
theorem isDerived_specified (source : Source) (specifier : Node) :
    (specified source specifier).1.isDerived = false := by
  unfold specified
  dsimp only
  split
  case h_1 | h_2 => simp only [TypeKind.isDerived_ofWords]
  case h_3 | h_4 =>
    dsimp only
    repeat' split
    all_goals rfl
  all_goals rfl

/-- A declaration names a type that is no function. -/
theorem kind_base?_ne_function {source : Source} {declaration : Node} {base : CType}
    (found : base? source declaration = some base) : base.kind ≠ .function := by
  obtain ⟨specifier, -, rfl⟩ := Option.map_eq_some_iff.mp found
  rintro (isFunction : (specified source specifier).1 = .function)
  have underived := isDerived_specified source specifier
  rw [isFunction] at underived
  cases underived

end CType

namespace Node

/-- The type goes on with the declarator inside a layer, also where that has attributes. -/
theorem Holds.nextPart?_eq {outer inner : Node} {layer : Layer} (holds : outer.Holds inner layer) :
    CType.nextPart? outer = some inner := by
  unfold CType.nextPart?
  cases holds with
  | marked isMarked isKind found =>
    rw [isKind]
    rcases layer with _ | _ | (_ | _ | _ | _ | _) <;> first | exact found | cases isMarked
  | sole isSole isKind only _ =>
    rw [isKind]
    rcases isSole with rfl | rfl <;> simp [only]
  | attributed _ isKind inFront _ _ _ =>
    rw [isKind]
    simp [inFront]

/-- The type goes on with nothing inside a name. -/
theorem nextPart?_of_name {node : Node} (isName : node.kind.isName = true) :
    CType.nextPart? node = none := by
  unfold CType.nextPart?
  split <;> simp_all [Kind.isName]

/-- A name adds nothing to the type. -/
theorem derive_of_name {node : Node} (isName : node.kind.isName = true) (source : Source)
    (type : CType) : CType.derive source type node = type := by
  rw [CType.derive_eq, nextPart?_of_name isName]
  simp only [Option.map_none, Option.getD_none]
  unfold CType.wrap
  split <;> simp_all [Kind.isName]

/-- A declarator derives a function exactly when the innermost of its layers that add to the type is
one, or when there is none and it starts from a function. -/
theorem Wraps.kind_derive_iff {layers : List Layer} {outer name : Node}
    (wraps : Wraps layers outer name) (isName : name.kind.isName = true) (source : Source)
    (type : CType) :
    (CType.derive source type outer).kind = .function ↔
      Layer.innermost? layers = some (.part .function) ∨
        (Layer.innermost? layers = none ∧ type.kind = .function) := by
  induction wraps generalizing type with
  | bare node => simp [derive_of_name isName, Layer.innermost?]
  | @layer layer layers outer inner name holds rest inductionHypothesis =>
    rw [CType.derive_eq, holds.nextPart?_eq]
    simp only [Option.map_some, Option.getD_some]
    rw [inductionHypothesis isName, CType.kind_wrap_iff holds.kind_eq, Layer.innermost?_cons]
    cases Layer.innermost? layers with
    | some last => simp
    | none =>
      cases isTyped : layer.isTyped with
      | true => simp
      | false =>
        have other : layer ≠ .part .function := by
          rintro rfl
          cases isTyped
        simp [other]

/-- A name is no function. -/
theorem functionDeclarator?_of_name {node : Node} (isName : node.kind.isName = true) :
    node.functionDeclarator? = none := by
  have notFunction : node.kind ≠ .declarator .function false := by
    intro isKind
    rw [isKind] at isName
    cases isName
  have notWrapper : node.kind.wrapsResult = false := by
    cases isKind : node.kind <;> simp_all [Kind.isName, Kind.wrapsResult]
  rw [functionDeclarator?, if_neg notFunction, if_neg (by simp [notWrapper])]

/-- What a layer without attributes decides about being a function: a function layer by the
parenthesis inside it, a pointer or reference by what is inside it, and other layers by
themselves. -/
theorem Holds.functionDeclarator?_isSome {outer inner : Node} {layer : Layer}
    (holds : outer.Holds inner layer) (plain : layer ≠ .attributed) :
    outer.functionDeclarator?.isSome ↔
      (layer = .part .function ∧ inner.kind ≠ .declarator .parenthesized false) ∨
        (layer.standsInFront = true ∧ inner.functionDeclarator?.isSome) := by
  rw [functionDeclarator?, holds.kind_eq]
  rcases layer with _ | _ | (_ | _ | _ | _ | _)
  case attributed => exact absurd rfl plain
  case part.function =>
    have found : outer.childIn? .declarator = some inner := by
      cases holds with
      | marked _ _ found => exact found
      | sole isSole => simp at isSole
    simp only [Layer.kind, if_true, found, Option.bind_some]
    split <;> simp_all [Layer.standsInFront]
  case part.pointer | part.reference =>
    have step : outer.inner? = some inner := holds.inner?_eq plain
    simp only [Layer.kind, Kind.wrapsResult, if_true]
    split
    · simp_all
    · split <;> simp_all [Layer.standsInFront]
  all_goals simp [Layer.kind, Layer.standsInFront, Kind.wrapsResult]

/-- A declarator begins with a parenthesis exactly when its outermost layer is one. -/
theorem Wraps.kind_eq_parenthesized_iff {layers : List Layer} {outer name : Node}
    (wraps : Wraps layers outer name) (isName : name.kind.isName = true) :
    outer.kind = .declarator .parenthesized false ↔
      layers.head? = some (.part .parenthesized) := by
  cases wraps with
  | bare =>
    constructor
    · intro isKind
      rw [isKind] at isName
      cases isName
    · simp
  | @layer layer layers outer inner name holds rest =>
    rw [holds.kind_eq, List.head?_cons]
    rcases layer with _ | _ | (_ | _ | _ | _ | _) <;> simp [Layer.kind]

/-- The kind finds a function exactly where the layers read as one. -/
theorem Wraps.functionDeclarator?_isSome_iff {layers : List Layer} {outer name : Node}
    (wraps : Wraps layers outer name) (isName : name.kind.isName = true)
    (plain : .attributed ∉ layers) :
    outer.functionDeclarator?.isSome ↔ Layer.ReadsAsFunction layers := by
  induction wraps with
  | bare node =>
    rw [functionDeclarator?_of_name isName]
    simp [Layer.not_readsAsFunction_nil]
  | @layer layer layers outer inner name holds rest inductionHypothesis =>
    rw [List.mem_cons, not_or] at plain
    rw [holds.functionDeclarator?_isSome (Ne.symm plain.1), Layer.readsAsFunction_cons,
      inductionHypothesis isName plain.2, ne_eq, rest.kind_eq_parenthesized_iff isName]

end Node

namespace Cursor

/-- The kind of a declaration looks for a function declarator. -/
theorem isFunction_iff {cursor : Cursor} {declarator : Node}
    (declares : cursor.node.kind = .declaration ∨ cursor.node.kind = .memberDeclaration)
    (seen : cursor.declarator? = some declarator) :
    cursor.kind.isFunction = true ↔ declarator.functionDeclarator?.isSome := by
  rw [kind, Item.kind, seen]
  simp only [Item.kindOfDeclarator, Item.functionKind]
  rcases declares with isKind | isKind <;> rw [isKind] <;> dsimp only <;> repeat' split
  all_goals simp_all [CursorKind.isFunction]

/-- The type of a declaration is derived by its declarator from what the specifier names. -/
theorem type_of_declarator {cursor : Cursor} {declarator : Node} {base : CType}
    (declares : cursor.node.kind = .declaration ∨ cursor.node.kind = .memberDeclaration)
    (seen : cursor.declarator? = some declarator)
    (isBase : CType.base? cursor.unit.source cursor.node = some base) :
    cursor.type = .derive cursor.unit.source base declarator := by
  have derived : CType.ofDeclaration cursor.unit.source cursor.node
      (cursor.declarator?.or (cursor.node.childIn? .declarator)) =
        .derive cursor.unit.source base declarator := by
    rw [seen, Option.some_or, CType.ofDeclaration_of_base? isBase]
    rfl
  have declared : cursor.kind ∈ [CursorKind.varDecl, .fieldDecl, .functionDecl, .method] := by
    rw [kind, Item.kind, seen]
    simp only [Item.kindOfDeclarator, Item.functionKind]
    rcases declares with isKind | isKind <;> rw [isKind] <;> dsimp only <;> repeat' split
    all_goals decide
  simp only [List.mem_cons, List.not_mem_nil, or_false] at declared
  rcases declared with isKind | isKind | isKind | isKind <;>
  · rw [type, typeSource, isKind]
    exact derived

/-- Let a declaration or member declaration with a type be seen through a declarator that wraps a
name in layers without attributes.  Its cursor is a function exactly when the layers begin, behind
pointers and references, with a function and no parenthesis in it; its type is a function exactly
when the innermost layer that adds to the type is one.  For layers that C allows, the two differ
exactly on the functions with parentheses or an initial value in their declarators. -/
theorem function_kind_and_type {cursor : Cursor} {layers : List Layer} {declarator name : Node}
    (declares : cursor.node.kind = .declaration ∨ cursor.node.kind = .memberDeclaration)
    (typed : (cursor.node.childIn? .type).isSome = true)
    (seen : cursor.declarator? = some declarator)
    (wraps : Node.Wraps layers declarator name) (isName : name.kind.isName = true)
    (plain : .attributed ∉ layers) :
    (cursor.kind.isFunction = true ↔ Layer.ReadsAsFunction layers) ∧
      (cursor.type.kind = .function ↔ Layer.innermost? layers = some (.part .function)) ∧
      (Layer.Lawful layers →
        ((cursor.kind.isFunction = true ↔ cursor.type.kind = .function) ↔
          ¬ (Layer.innermost? layers = some (.part .function) ∧
            (.init ∈ layers ∨ .part .parenthesized ∈ layers)))) := by
  have byKind : cursor.kind.isFunction = true ↔ Layer.ReadsAsFunction layers := by
    rw [← wraps.functionDeclarator?_isSome_iff isName plain]
    exact isFunction_iff declares seen
  have byType :
      cursor.type.kind = .function ↔ Layer.innermost? layers = some (.part .function) := by
    obtain ⟨specifier, found⟩ := Option.isSome_iff_exists.mp typed
    obtain ⟨base, isBase⟩ : ∃ base, CType.base? cursor.unit.source cursor.node = some base := by
      rw [CType.base?, found, Option.map_some]
      exact ⟨_, rfl⟩
    rw [type_of_declarator declares seen isBase, wraps.kind_derive_iff isName]
    simp [CType.kind_base?_ne_function isBase]
  refine ⟨byKind, byType, ?_⟩
  intro lawful
  rw [byKind, byType, lawful.readsAsFunction_iff plain]
  tauto

/-- In `int *g(int)` both views see a function. -/
theorem function_kind_and_type_pointer :
    ∃ item ∈ TranslationUnit.functions.root.children,
      ∃ declarator ∈ item.childrenIn .declarator, ∃ name,
        Node.Wraps [.part .pointer, .part .function] declarator name ∧
        Layer.Lawful [.part .pointer, .part .function] ∧
        (kind ⟨⟨item, some declarator⟩, .functions⟩).isFunction = true ∧
        (type ⟨⟨item, some declarator⟩, .functions⟩).kind = .function := by
  have wrapped : ∃ item ∈ TranslationUnit.functions.root.children,
      ∃ declarator ∈ item.childrenIn .declarator, ∃ name,
        Node.Wraps [.part .pointer, .part .function] declarator name ∧
        (item.kind, (item.childIn? .type).isSome, name.kind) =
          (.declaration, true, .name .plain) := by
    refine ⟨_, List.mem_cons_of_mem _ List.mem_cons_self, _, List.mem_cons_self, ?name, ?wraps,
      ?facts⟩
    case wraps =>
      refine .layer (.marked rfl rfl rfl) ?_
      refine .layer (.marked rfl rfl rfl) ?_
      exact .bare _
    case facts => decide +kernel
  obtain ⟨item, isItem, declarator, isDeclarator, name, wraps, facts⟩ := wrapped
  simp only [Prod.mk.injEq] at facts
  obtain ⟨declares, typed, isName⟩ := facts
  obtain ⟨byKind, byType, -⟩ :=
    @function_kind_and_type ⟨⟨item, some declarator⟩, .functions⟩ _ _ _ (.inl declares) typed rfl
      wraps (by rw [isName]; rfl) (by decide)
  refine ⟨item, isItem, declarator, isDeclarator, name, wraps, ⟨by decide, by decide, by decide⟩,
    byKind.mpr ?_, byType.mpr (by decide)⟩
  exact ⟨[.part .pointer], [], rfl, by decide, by decide⟩

/-- In `int (f)(int)`, which C allows, the cursor is a variable and its type a function. -/
theorem function_kind_and_type_differ :
    ∃ item ∈ TranslationUnit.functions.root.children,
      ∃ declarator ∈ item.childrenIn .declarator, ∃ name,
        Node.Wraps [.part .function, .part .parenthesized] declarator name ∧
        Layer.Lawful [.part .function, .part .parenthesized] ∧
        item.kind = .declaration ∧ (item.childIn? .type).isSome ∧ name.kind = .name .plain ∧
        kind ⟨⟨item, some declarator⟩, .functions⟩ = .varDecl ∧
        (type ⟨⟨item, some declarator⟩, .functions⟩).kind = .function := by
  refine ⟨_, List.mem_cons_self, _, List.mem_cons_self, ?name, ?wraps,
    ⟨by decide, by decide, by decide⟩, ?facts⟩
  case wraps =>
    refine .layer (.marked rfl rfl rfl) ?_
    refine .layer (.sole (.inr rfl) rfl rfl (by decide)) ?_
    exact .bare _
  case facts => decide +kernel

end Cursor

end DeclScope
