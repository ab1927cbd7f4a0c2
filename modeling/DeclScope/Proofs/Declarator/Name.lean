import DeclScope.Proofs.Cursor.Extent

/-!
# The name in a declarator

A declarator is a name inside layers: an initial value, pointers, references, arrays, parameter
lists, parentheses and attributes.  The grammars put the declarator inside a layer in one of three
places: as the child that is marked as the declarator, as the only named child, or in front of the
attributes.  The step inwards takes the marked child or else the last named one, which is right in
the first two places and wrong in the third: there it goes to the last attribute.

So the declared name is the name inside the layers exactly when no layer holds attributes.  With
attributes it is some node of an attribute, or none; what that node is, is not said here.
-/

namespace DeclScope

/-- The unit of `int (&(*p[2])(int))[3] = q;`, whose declarator has every layer but attributes. -/
def TranslationUnit.layered : TranslationUnit where
  filename := "layered.cpp"
  language := .cpp
  source := .ofString "int (&(*p[2])(int))[3] = q;"
  arguments := []
  tree := .named .translationUnit none 0 27 [
    .named .declaration none 0 27 [
      .named .primitiveType (some .type) 0 3 [],
      .named .initDeclarator (some .declarator) 4 26 [
        .named (.declarator .array false) (some .declarator) 4 22 [
          .named (.declarator .parenthesized false) (some .declarator) 4 19 [
            .token "(" 4,
            .named (.declarator .reference false) none 5 18 [
              .token "&" 5,
              .named (.declarator .function false) none 6 18 [
                .named (.declarator .parenthesized false) (some .declarator) 6 13 [
                  .token "(" 6,
                  .named (.declarator .pointer false) none 7 12 [
                    .token "*" 7,
                    .named (.declarator .array false) (some .declarator) 8 12 [
                      .named (.name .plain) (some .declarator) 8 9 [],
                      .token "[" 9,
                      .named (.other "number_literal") (some .size) 10 11 [],
                      .token "]" 11]],
                  .token ")" 12],
                .named (.other "parameter_list") (some .parameters) 13 18 [
                  .token "(" 13,
                  .named (.parameter .plain) none 14 17 [
                    .named .primitiveType (some .type) 14 17 []],
                  .token ")" 17]]],
            .token ")" 18],
          .token "[" 19,
          .named (.other "number_literal") (some .size) 20 21 [],
          .token "]" 21],
        .token "=" 23,
        .named (.name .plain) none 25 26 []],
      .token ";" 26]]

/-- The unit of `int y [[deprecated]];`. -/
def TranslationUnit.deprecated : TranslationUnit where
  filename := "deprecated.c"
  language := .c
  source := .ofString "int y [[deprecated]];"
  arguments := []
  tree := .named .translationUnit none 0 21 [
    .named .declaration none 0 21 [
      .named .primitiveType (some .type) 0 3 [],
      .named .attributedDeclarator (some .declarator) 4 20 [
        .named (.name .plain) none 4 5 [],
        .named (.attributes .declaration) none 6 20 [
          .token "[[" 6,
          .named (.attributes .single) none 8 18 [.named (.name .plain) (some .name) 8 18 []],
          .token "]]" 18]],
      .token ";" 20]]

/-- One layer of a declarator. -/
inductive Layer where
  /-- An initial value. -/
  | init
  /-- Attributes behind the declarator. -/
  | attributed
  /-- A part of the type, or parentheses. -/
  | part (shape : DeclaratorShape)
deriving DecidableEq

namespace Layer

/-- The kind of the nodes that form a layer around a name. -/
def kind : Layer → Kind
  | init => .initDeclarator
  | attributed => .attributedDeclarator
  | part shape => .declarator shape false

/-- Whether the grammars mark the declarator inside the layer. -/
def isMarked : Layer → Bool
  | init => true
  | part .pointer => true
  | part .array => true
  | part .function => true
  | _ => false

end Layer

namespace Node

/-- The inner node is the declarator inside a layer, in the place where the grammars put it. -/
inductive Holds (outer inner : Node) : Layer → Prop where
  /-- Initial values, pointers, arrays and functions mark the declarator inside them. -/
  | marked {layer : Layer} (isMarked : layer.isMarked = true) (isKind : outer.kind = layer.kind)
      (found : outer.childIn? .declarator = some inner) : Holds outer inner layer
  /-- References and parentheses have no other named child, and no sign in them is marked. -/
  | sole {shape : DeclaratorShape} (isSole : shape = .reference ∨ shape = .parenthesized)
      (isKind : outer.kind = .declarator shape false) (only : outer.namedChildren = [inner])
      (signs : ∀ child ∈ outer.children, child.role = some .declarator → child.label.named) :
      Holds outer inner (.part shape)
  /-- Attributes stand behind the declarator, which is not marked. -/
  | attributed (attributes : List Node) (isKind : outer.kind = .attributedDeclarator)
      (inFront : outer.namedChildren = inner :: attributes) (present : attributes ≠ [])
      (areAttributes : ∀ node ∈ attributes, node.kind = .attributes .declaration)
      (unmarked : outer.childIn? .declarator = none) : Holds outer inner .attributed

/-- The outer node wraps the inner one in the given layers, from the outside in. -/
inductive Wraps : List Layer → Node → Node → Prop where
  | bare (node : Node) : Wraps [] node node
  | layer {layer : Layer} {layers : List Layer} {outer inner name : Node}
      (holds : outer.Holds inner layer) (rest : Wraps layers inner name) :
      Wraps (layer :: layers) outer name

/-- A layer is told by the kind of its node. -/
theorem Holds.kind_eq {outer inner : Node} {layer : Layer} (holds : outer.Holds inner layer) :
    outer.kind = layer.kind := by
  cases holds with
  | marked _ isKind _ => exact isKind
  | sole _ isKind _ _ => exact isKind
  | attributed _ isKind _ _ _ _ => exact isKind

/-- The declarator inside a layer is a child. -/
theorem Holds.mem_children {outer inner : Node} {layer : Layer}
    (holds : outer.Holds inner layer) : inner ∈ outer.children := by
  have named {others : List Node} (inFront : outer.namedChildren = inner :: others) :
      inner ∈ outer.children := by
    apply mem_children_of_mem_namedChildren
    rw [inFront]
    exact List.mem_cons_self
  cases holds with
  | marked _ _ found => exact mem_children_of_childIn? found
  | sole _ _ only _ => exact named only
  | attributed _ _ inFront _ _ _ => exact named inFront

/-- The step inwards goes to the declarator inside, if the layer is not one of attributes. -/
theorem Holds.inner?_eq {outer inner : Node} {layer : Layer} (holds : outer.Holds inner layer)
    (plain : layer ≠ .attributed) : outer.inner? = some inner := by
  cases holds with
  | marked _ _ found => rw [inner?, found, Option.some_or]
  | sole _ _ only signs =>
    rw [inner?, only]
    cases found : outer.childIn? .declarator with
    | none => rfl
    | some child =>
      have isChild : child ∈ outer.children := mem_children_of_childIn? found
      have isMarked : child.role = some .declarator := by
        simpa using List.find?_some found
      have isNamed : child ∈ outer.namedChildren :=
        List.mem_filter.mpr ⟨isChild, signs child isChild isMarked⟩
      rw [only, List.mem_singleton] at isNamed
      rw [isNamed, Option.some_or]
  | attributed => exact absurd rfl plain

/-- The step inwards goes from a layer of attributes to the last of them, which stands behind the
declarator. -/
theorem Holds.inner?_of_attributed {outer inner : Node} (holds : outer.Holds inner .attributed) :
    ∃ last ∈ outer.children, outer.inner? = some last ∧ inner.StandsBefore last := by
  cases holds with
  | marked isMarked => cases isMarked
  | attributed attributes _ inFront present _ unmarked =>
    have inOrder : (inner :: attributes).Pairwise StandsBefore := by
      rw [← inFront]
      exact (pairwise_children outer).filter _
    have isLast : attributes.getLast present ∈ attributes := List.getLast_mem present
    refine ⟨attributes.getLast present, ?_, ?_, (List.pairwise_cons.mp inOrder).1 _ isLast⟩
    · apply mem_children_of_mem_namedChildren
      rw [inFront]
      exact List.mem_cons_of_mem _ isLast
    · rw [inner?, unmarked, inFront, Option.none_or, List.getLast?_cons,
        List.getLast?_eq_getLast_of_ne_nil present, Option.getD_some]

/-- What is wrapped stands inside. -/
theorem Wraps.contains {layers : List Layer} {outer name : Node} (wraps : Wraps layers outer name) :
    outer.Contains name := by
  induction wraps with
  | bare node => exact .refl
  | layer holds _ inductionHypothesis => exact .head holds.mem_children inductionHypothesis

/-- A name declares itself. -/
theorem declaredName?_of_name {node : Node} {form : NameForm} (isName : node.kind = .name form) :
    node.declaredName? = some node := by
  rw [declaredName?, isName]

/-- A layer declares what the step inwards leads to. -/
theorem declaredName?_of_layer {node : Node} {layer : Layer} (isKind : node.kind = layer.kind) :
    node.declaredName? = node.inner?.bind declaredName? := by
  rw [declaredName?, isKind]
  cases layer with
  | init | attributed | part shape =>
    dsimp only [Layer.kind]
    split <;> rename_i step <;> rw [step] <;> rfl

/-- The declared name is the wrapped one exactly when no layer holds attributes.

By induction on the layers.  At a layer without attributes the step inwards and the wrapping go to
the same node.  At one with attributes they part for good: whatever is declared from there stands in
the last attribute, behind the declarator that the wrapped name stands in. -/
theorem Wraps.declaredName?_eq_iff {layers : List Layer} {outer name : Node} {form : NameForm}
    (wraps : Wraps layers outer name) (isName : name.kind = .name form) :
    outer.declaredName? = some name ↔ .attributed ∉ layers := by
  induction wraps with
  | bare node => simp [declaredName?_of_name isName]
  | @layer layer layers outer inner name holds rest inductionHypothesis =>
    rw [declaredName?_of_layer holds.kind_eq]
    by_cases plain : layer = .attributed
    · subst plain
      obtain ⟨last, -, step, before⟩ := holds.inner?_of_attributed
      have elsewhere : last.declaredName? ≠ some name := by
        intro declared
        have behind : last.Contains name := contains_of_declaredName? declared
        exact not_precedes_self name (before name name rest.contains behind)
      simp [step, elsewhere]
    · rw [holds.inner?_eq plain, Option.bind_some, inductionHypothesis isName, List.mem_cons,
        not_or]
      exact (and_iff_right fun same => plain same.symm).symm

end Node

/-- The segment that a declared name adds to a USR, for what is declared through declarators. -/
def CursorKind.declaratorSegment (kind : CursorKind) (name : String) : String :=
  match kind with
  | .fieldDecl => "@FI@" ++ name
  | .functionDecl | .method => "@F@" ++ name ++ "#"
  | .typedefDecl => "@T@" ++ name
  | _ => "@" ++ name

namespace Cursor

/-- A cursor that is seen through a declarator is spelled and placed by the declared name, and adds
it to its USR; the name is also the key of a field. -/
theorem spelling_of_declaredName? {cursor : Cursor} {declarator name : Node}
    (seen : cursor.declarator? = some declarator)
    (declared : declarator.declaredName? = some name) :
    cursor.spelling = cursor.unit.text name ∧
      cursor.location = cursor.unit.location name.start ∧
      cursor.usr = "c:" ++ cursor.unit.scopeSegments cursor.node ++
        cursor.kind.declaratorSegment (cursor.unit.text name) ∧
      (cursor.kind = .fieldDecl →
        (Declaration.ofCursor cursor).name = cursor.unit.text name) := by
  have isNamed : cursor.nameNode? = some name := by rw [nameNode?, seen, ← declared]
  have declares : cursor.kind ∈
      [CursorKind.typedefDecl, .varDecl, .fieldDecl, .functionDecl, .method] := by
    rw [kind, Item.kind, seen]
    exact Item.kindOfDeclarator_mem cursor.node declarator
  have isSpelled : cursor.spelling = cursor.unit.text name := by
    have inUnit : cursor.kind ≠ .translationUnit := by
      intro isUnit
      rw [isUnit] at declares
      simp at declares
    rw [spelling, if_neg inUnit, isNamed, Option.map_some, Option.getD_some]
  refine ⟨isSpelled, ?_, ?_, ?_⟩
  · rw [location, isNamed, Option.getD_some]
  · have ownSegment : cursor.segment? =
        some (cursor.kind.declaratorSegment (cursor.unit.text name)) := by
      simp only [List.mem_cons, List.not_mem_nil, or_false] at declares
      rcases declares with isKind | isKind | isKind | isKind | isKind <;>
        simp [segment?, CursorKind.declaratorSegment, isKind, isSpelled]
    rw [usr, ownSegment]
  · intro isField
    show cursor.displayName = cursor.unit.text name
    rw [displayName, isField, isSpelled]
    rfl

/-- Let a declarator wrap a name in layers, each being built as the grammars build it.  The declared
name is the wrapped one exactly when no layer holds attributes.  Without attributes a cursor that is
seen through the declarator has its spelling, its location, its own segment in its USR and, if it is
a field, its key from the wrapped name. -/
theorem declares_wrapped_name {layers : List Layer} {declarator name : Node} {form : NameForm}
    (wraps : Node.Wraps layers declarator name) (isName : name.kind = .name form) :
    (declarator.declaredName? = some name ↔ .attributed ∉ layers) ∧
      (.attributed ∉ layers → ∀ cursor : Cursor, cursor.declarator? = some declarator →
        cursor.spelling = cursor.unit.text name ∧
          cursor.location = cursor.unit.location name.start ∧
          cursor.usr = "c:" ++ cursor.unit.scopeSegments cursor.node ++
            cursor.kind.declaratorSegment (cursor.unit.text name) ∧
          (cursor.kind = .fieldDecl →
            (Declaration.ofCursor cursor).name = cursor.unit.text name)) := by
  have exact := wraps.declaredName?_eq_iff isName
  refine ⟨exact, ?_⟩
  intro plain cursor seen
  exact spelling_of_declaredName? seen (exact.mpr plain)

/-- Inside an initial value, arrays, parentheses, a reference, a function and a pointer the declared
name is `p`. -/
theorem declares_wrapped_name_layered :
    ∃ item ∈ TranslationUnit.layered.root.children, ∃ declarator ∈ item.childrenIn .declarator,
      ∃ name, Node.Wraps [.init, .part .array, .part .parenthesized, .part .reference,
          .part .function, .part .parenthesized, .part .pointer, .part .array] declarator name ∧
        name.kind = .name .plain ∧ declarator.declaredName? = some name ∧
        spelling ⟨⟨item, some declarator⟩, .layered⟩ = "p" := by
  have wrapped : ∃ item ∈ TranslationUnit.layered.root.children,
      ∃ declarator ∈ item.childrenIn .declarator, ∃ name,
        Node.Wraps [.init, .part .array, .part .parenthesized, .part .reference, .part .function,
          .part .parenthesized, .part .pointer, .part .array] declarator name ∧
        (name.kind, TranslationUnit.layered.text name) = (.name .plain, "p") := by
    refine ⟨_, List.mem_cons_self, _, List.mem_cons_self, ?name, ?wraps, ?facts⟩
    case wraps =>
      refine .layer (.marked rfl rfl rfl) ?_
      refine .layer (.marked rfl rfl rfl) ?_
      refine .layer (.sole (.inr rfl) rfl rfl (by decide)) ?_
      refine .layer (.sole (.inl rfl) rfl rfl (by decide)) ?_
      refine .layer (.marked rfl rfl rfl) ?_
      refine .layer (.sole (.inr rfl) rfl rfl (by decide)) ?_
      refine .layer (.marked rfl rfl rfl) ?_
      refine .layer (.marked rfl rfl rfl) ?_
      exact .bare _
    case facts => decide +kernel
  obtain ⟨item, isItem, declarator, isDeclarator, name, wraps, facts⟩ := wrapped
  obtain ⟨isName, text⟩ := Prod.mk.inj facts
  obtain ⟨exact, named⟩ := declares_wrapped_name wraps isName
  refine ⟨item, isItem, declarator, isDeclarator, name, wraps, isName, ?_, ?_⟩
  · exact exact.mpr (by decide)
  · rw [(named (by decide) ⟨⟨item, some declarator⟩, .layered⟩ rfl).1]
    exact text

/-- Attributes take the place of the name: in `int y [[deprecated]];` the declarator wraps `y`, but
the declared name is `deprecated`, and so the variable is called. -/
theorem declares_attribute :
    (∃ item ∈ TranslationUnit.deprecated.root.children,
      ∃ declarator ∈ item.childrenIn .declarator, ∃ name,
        Node.Wraps [.attributed] declarator name ∧ name.kind = .name .plain ∧
        TranslationUnit.deprecated.text name = "y" ∧
        declarator.declaredName?.map TranslationUnit.deprecated.text = some "deprecated") ∧
      TranslationUnit.deprecated.cursor.children.map (fun cursor =>
        (cursor.spelling, cursor.usr)) = [("deprecated", "c:@deprecated")] := by
  refine ⟨⟨_, List.mem_cons_self, _, List.mem_cons_self, ?name, ?wraps, ?isName, ?text, ?other⟩,
    by decide +kernel⟩
  case wraps =>
    refine .layer (.attributed _ rfl rfl (List.cons_ne_nil _ _) (by decide) rfl) ?_
    exact .bare _
  case isName => rfl
  case text => decide +kernel
  case other => decide +kernel

end Cursor

end DeclScope
