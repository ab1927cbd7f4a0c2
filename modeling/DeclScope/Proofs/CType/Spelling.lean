import DeclScope.CType.Spelling
import DeclScope.Proofs.Declarator.Function
import DeclScope.Proofs.Text.Words

/-!
# A type is spelled as its declarator without the name

A type is read off a declarator from the outside in, and spelled from its outermost part back to the
named type, with parentheses put where the type needs them and not where the declarator has them.
Here the two are put together: a declarator is first described as C writes it, then its text without
the name is said in one recursion over that description, and the spelling of the derived type is
shown to be that text behind the named type.

Pointers and references inside arrays and functions have to be in parentheses in C, and these are
the only parentheses that the text keeps: those around a name, around an array or function, around
other parentheses, and around a pointer that nothing stands behind are left out.

The parameters of a function are its parameter declarations with a type.  An ellipsis is none, and
is not in the text.
-/

namespace DeclScope

/-- The unit of `char *(*const *t[1  + 1])(const int *p, int (&&)[]);`. -/
def TranslationUnit.table : TranslationUnit where
  filename := "table.cpp"
  language := .cpp
  source := .ofString "char *(*const *t[1  + 1])(const int *p, int (&&)[]);"
  arguments := []
  tree := .named .translationUnit none 0 52 [
    .named .declaration none 0 52 [
      .named .primitiveType (some .type) 0 4 [],
      .named (.declarator .pointer false) (some .declarator) 5 51 [
        .token "*" 5,
        .named (.declarator .function false) (some .declarator) 6 51 [
          .named (.declarator .parenthesized false) (some .declarator) 6 25 [
            .token "(" 6,
            .named (.declarator .pointer false) none 7 24 [
              .token "*" 7,
              .named .typeQualifier none 8 13 [.token "const" 8],
              .named (.declarator .pointer false) (some .declarator) 14 24 [
                .token "*" 14,
                .named (.declarator .array false) (some .declarator) 15 24 [
                  .named (.name .plain) (some .declarator) 15 16 [],
                  .token "[" 16,
                  .named (.other "binary_expression") (some .size) 17 23 [
                    .named (.other "number_literal") none 17 18 [],
                    .token "+" 20,
                    .named (.other "number_literal") none 22 23 []],
                  .token "]" 23]]],
            .token ")" 24],
          .named (.other "parameter_list") (some .parameters) 25 51 [
            .token "(" 25,
            .named (.parameter .plain) none 26 38 [
              .named .typeQualifier none 26 31 [.token "const" 26],
              .named .primitiveType (some .type) 32 35 [],
              .named (.declarator .pointer false) (some .declarator) 36 38 [
                .token "*" 36,
                .named (.name .plain) (some .declarator) 37 38 []]],
            .token "," 38,
            .named (.parameter .plain) none 40 50 [
              .named .primitiveType (some .type) 40 43 [],
              .named (.declarator .array true) (some .declarator) 44 50 [
                .named (.declarator .parenthesized true) (some .declarator) 44 48 [
                  .token "(" 44,
                  .named (.declarator .reference true) none 45 47 [.token "&&" 45],
                  .token ")" 47],
                .token "[" 48,
                .token "]" 49]],
            .token ")" 50]]],
      .token ";" 51]]

/-- The sign of a reference. -/
def ReferenceForm.sign : ReferenceForm → String
  | lvalue => "&"
  | rvalue => "&&"

mutual

/-- A declarator as it is written, with a name or without. -/
inductive Declarator where
  | name
  | pointer (quals : Qualifiers) (inner : Declarator)
  | reference (form : ReferenceForm) (inner : Declarator)
  | array (size? : Option String) (inner : Declarator)
  | function (parameters : List TypeName) (inner : Declarator)
  | parenthesized (inner : Declarator)

/-- A type as it is written: a named type before a declarator. -/
inductive TypeName where
  | declared (base : CType) (declarator : Declarator)

end

namespace Declarator

/-- Whether a declarator begins with the sign of a pointer or reference. -/
def isSigned : Declarator → Bool
  | pointer _ _ => true
  | reference _ _ => true
  | _ => false

end Declarator

mutual

/-- The text of a declarator without its name.  It is *tight* when an array or function stands
behind it, possibly outside parentheses: then parentheses around a pointer or reference are
kept. -/
def Declarator.text (tight : Bool) : Declarator → String
  | .name => ""
  | .pointer quals inner =>
    let rest := inner.text false
    "*" ++ " ".intercalate quals.keywords ++
      (if quals.keywords = [] ∨ rest = "" then "" else " ") ++ rest
  | .reference form inner => form.sign ++ inner.text false
  | .array size? inner => inner.text true ++ "[" ++ size?.getD "" ++ "]"
  | .function parameters inner =>
    inner.text true ++ "(" ++ ", ".intercalate (TypeName.texts parameters) ++ ")"
  | .parenthesized inner =>
    if tight && inner.isSigned then "(" ++ inner.text tight ++ ")" else inner.text tight

/-- The text of a type: the spelling of the named type, and behind a space the declarator without
its name, if anything is left of it. -/
def TypeName.text : TypeName → String
  | .declared base declarator =>
    let rest := declarator.text false
    if rest = "" then base.spelling else base.spelling ++ " " ++ rest

/-- The texts of several types. -/
def TypeName.texts : List TypeName → List String
  | [] => []
  | type :: others => type.text :: TypeName.texts others

end

/-- A node has one of the given words as a qualifier. -/
def Node.HasQualifier (source : Source) (words : List String) (node : Node) : Prop :=
  ∃ child ∈ node.namedChildren, child.kind = .typeQualifier ∧
    Text.trim (source.slice child.start child.stop) ∈ words

instance (source : Source) (words : List String) (node : Node) :
    Decidable (node.HasQualifier source words) :=
  inferInstanceAs (Decidable (∃ child ∈ node.namedChildren, _))

/-- The size of an array, if there is one, is the normalized text of the node that is marked as
such. -/
def Node.Sized (source : Source) (node : Node) (size? : Option String) : Prop :=
  Option.Rel (fun marked size => Text.Normalizes (source.slice marked.start marked.stop) size)
    (node.childIn? .size) size?

/-- The qualifiers are those that stand in a node. -/
structure Node.Qualified (source : Source) (node : Node) (quals : Qualifiers) : Prop where
  isConst : quals.isConst = true ↔ node.HasQualifier source ["const"]
  isVolatile : quals.isVolatile = true ↔ node.HasQualifier source ["volatile"]
  isRestrict : quals.isRestrict = true ↔
    node.HasQualifier source ["restrict", "__restrict", "__restrict__"]

namespace Declarator

mutual

/-- A node, or none where the name is left out, is written as a declarator.  Pointers, arrays and
functions mark the declarator inside them; references and parentheses have no other named child. -/
inductive Written (source : Source) : Option Node → Declarator → Prop where
  | nothing : Written source none .name
  | name {node : Node} (isName : node.kind.isName = true) : Written source (some node) .name
  | pointer {node : Node} {abstract : Bool} {quals : Qualifiers} {inner? : Option Node}
      {inner : Declarator} (isKind : node.kind = .declarator .pointer abstract)
      (qualified : node.Qualified source quals) (inside : node.childIn? .declarator = inner?)
      (written : Written source inner? inner) : Written source (some node) (.pointer quals inner)
  | reference {node : Node} {abstract : Bool} {form : ReferenceForm} {inner? : Option Node}
      {inner : Declarator} (isKind : node.kind = .declarator .reference abstract)
      (sign : node.children.head?.map (·.kind.text) = some form.sign)
      (only : node.namedChildren.length ≤ 1) (inside : node.namedChildren.head? = inner?)
      (written : Written source inner? inner) : Written source (some node) (.reference form inner)
  | array {node : Node} {abstract : Bool} {size? : Option String} {inner? : Option Node}
      {inner : Declarator} (isKind : node.kind = .declarator .array abstract)
      (sized : node.Sized source size?) (inside : node.childIn? .declarator = inner?)
      (written : Written source inner? inner) (unsigned : inner.isSigned = false) :
      Written source (some node) (.array size? inner)
  | function {node : Node} {abstract : Bool} {parameters : List TypeName} {inner? : Option Node}
      {inner : Declarator} (isKind : node.kind = .declarator .function abstract)
      (taken : WrittenAll source node.parameters parameters)
      (inside : node.childIn? .declarator = inner?) (written : Written source inner? inner)
      (unsigned : inner.isSigned = false) : Written source (some node) (.function parameters inner)
  | parenthesized {node : Node} {abstract : Bool} {inner? : Option Node} {inner : Declarator}
      (isKind : node.kind = .declarator .parenthesized abstract)
      (only : node.namedChildren.length ≤ 1) (inside : node.namedChildren.head? = inner?)
      (written : Written source inner? inner) : Written source (some node) (.parenthesized inner)

/-- Parameter declarations are written as types. -/
inductive WrittenAll (source : Source) : List Node → List TypeName → Prop where
  | nil : WrittenAll source [] []
  | cons {parameter : Node} {base : CType} {declarator : Declarator} {parameters : List Node}
      {others : List TypeName} (single : parameter.kind ≠ .parameter .variadic)
      (named : CType.base? source parameter = some base)
      (written : Written source (parameter.childIn? .declarator) declarator)
      (rest : WrittenAll source parameters others) :
      WrittenAll source (parameter :: parameters) (.declared base declarator :: others)

end

end Declarator

namespace Qualifiers

/-- Each flag is set by its own words alone. -/
theorem adding_flags (quals : Qualifiers) (word : String) :
    ((quals.adding word).isConst = true ↔
      quals.isConst = true ∨ Text.trim word ∈ ["const"]) ∧
    ((quals.adding word).isVolatile = true ↔
      quals.isVolatile = true ∨ Text.trim word ∈ ["volatile"]) ∧
    ((quals.adding word).isRestrict = true ↔
      quals.isRestrict = true ∨ Text.trim word ∈ ["restrict", "__restrict", "__restrict__"]) := by
  unfold adding
  grind

/-- A flag that is set by given words is set by a list of them exactly when one of them occurs. -/
theorem foldl_adding {flag : Qualifiers → Bool} {words : List String}
    (step : ∀ quals word, flag (adding quals word) = true ↔
      flag quals = true ∨ Text.trim word ∈ words) (given : List String) (quals : Qualifiers) :
    flag (given.foldl adding quals) = true ↔
      flag quals = true ∨ ∃ word ∈ given, Text.trim word ∈ words := by
  induction given generalizing quals with
  | nil => simp
  | cons word given inductionHypothesis =>
    rw [List.foldl_cons, inductionHypothesis, step, List.exists_mem_cons_iff, or_assoc]

end Qualifiers

namespace CType

/-- The qualifiers that are read off a node are those that stand in it. -/
theorem qualifiersOf_eq {source : Source} {node : Node} {quals : Qualifiers}
    (qualified : node.Qualified source quals) : qualifiersOf source node .none = quals := by
  have reads (flag : Qualifiers → Bool) (words : List String) (clear : flag .none = false)
      (step : ∀ quals word, flag (Qualifiers.adding quals word) = true ↔
        flag quals = true ∨ Text.trim word ∈ words) :
      flag (qualifiersOf source node .none) = true ↔ node.HasQualifier source words := by
    rw [qualifiersOf, ← List.foldl_map, Qualifiers.foldl_adding step, clear]
    simp [Node.HasQualifier, and_assoc]
  have isConst := reads (·.isConst) _ rfl fun quals word => (quals.adding_flags word).1
  have isVolatile := reads (·.isVolatile) _ rfl fun quals word => (quals.adding_flags word).2.1
  have isRestrict := reads (·.isRestrict) _ rfl fun quals word => (quals.adding_flags word).2.2
  rw [← qualified.isConst, ← Bool.eq_iff_iff] at isConst
  rw [← qualified.isVolatile, ← Bool.eq_iff_iff] at isVolatile
  rw [← qualified.isRestrict, ← Bool.eq_iff_iff] at isRestrict
  cases quals
  cases read : qualifiersOf source node .none
  simp_all

/-- A pointer puts its qualifiers in front of the rest, with a space between if there are both. -/
theorem pointerQualifiers_eq (quals : Qualifiers) (rest : String) :
    pointerQualifiers quals rest = " ".intercalate quals.keywords ++
      (if quals.keywords = [] ∨ rest = "" then "" else " ") ++ rest := by
  unfold pointerQualifiers
  cases quals.keywords with
  | nil => simp
  | cons first others => by_cases empty : rest = "" <;> simp [empty, String.append_assoc]

/-- A declaration names its type. -/
theorem base?_eq_named {source : Source} {declaration : Node} {base : CType}
    (found : base? source declaration = some base) :
    ∃ kind name quals, base = .named kind name quals := by
  obtain ⟨specifier, -, rfl⟩ := Option.map_eq_some_iff.mp found
  exact ⟨_, _, _, rfl⟩

/-- The form of a reference is read off its sign. -/
theorem referenceForm_eq {node : Node} {form : ReferenceForm}
    (sign : node.children.head?.map (·.kind.text) = some form.sign) :
    referenceForm node = form := by
  obtain ⟨first, found, text⟩ := Option.map_eq_some_iff.mp sign
  cases form <;> simp [referenceForm, found, text, ReferenceForm.sign]

/-- The size of an array is the squeezed text of the node that is marked as such. -/
theorem sized_iff {source : Source} {node : Node} {size? : Option String} :
    node.Sized source size? ↔ (node.childIn? .size).map (squeezedText source) = size? := by
  unfold Node.Sized
  cases node.childIn? .size with
  | none => cases size? <;> simp
  | some marked =>
    cases size? with
    | none => simp
    | some size =>
      rw [Option.map_some, Option.some_inj, Option.rel_some_some, ← Text.squeeze_eq_iff]
      rfl

/-- A named type is spelled before a declarator. -/
theorem render_named (kind : TypeKind) (name : String) (quals : Qualifiers) (declarator : String) :
    (named kind name quals).render declarator =
      if declarator = "" then (named kind name quals).spelling
      else (named kind name quals).spelling ++ " " ++ declarator := by
  simp only [spelling, render, namedSpelling, if_true]

end CType

namespace Declarator

/-- The text of a declarator inside a type that may bind behind it: there a pointer or reference is
put in parentheses. -/
def grouped (tight : Bool) (declarator : Declarator) : String :=
  if tight && declarator.isSigned then "(" ++ declarator.text tight ++ ")"
  else declarator.text tight

/-- Where nothing binds behind, there are no parentheses. -/
theorem grouped_false (declarator : Declarator) :
    declarator.grouped false = declarator.text false := by
  simp [grouped]

/-- What is no pointer or reference needs no parentheses. -/
theorem grouped_of_unsigned {declarator : Declarator} (unsigned : declarator.isSigned = false)
    (tight : Bool) : declarator.grouped tight = declarator.text tight := by
  simp [grouped, unsigned]

/-- A pointer or reference gets its parentheses from the type that it refers to. -/
theorem grouped_of_signed {declarator : Declarator} (signed : declarator.isSigned = true)
    (type : CType) :
    declarator.grouped type.bindsBehind = type.guarded (declarator.text type.bindsBehind) := by
  simp [grouped, CType.guarded, signed]

section Render

variable (type : CType) {inner : Declarator}

/-- A pointer around the rest is the rest behind the sign. -/
theorem render_pointer (quals : Qualifiers) :
    (CType.pointer quals type).render (inner.grouped (CType.pointer quals type).bindsBehind) =
      type.render ((pointer quals inner).grouped type.bindsBehind) := by
  show (CType.pointer quals type).render (inner.grouped false) = _
  rw [grouped_false, grouped_of_signed rfl, CType.render, CType.pointerQualifiers_eq, text]
  simp only [String.append_assoc]

/-- A reference around the rest is the rest behind the sign. -/
theorem render_reference (form : ReferenceForm) :
    (CType.reference form type).render (inner.grouped (CType.reference form type).bindsBehind) =
      type.render ((reference form inner).grouped type.bindsBehind) := by
  show (CType.reference form type).render (inner.grouped false) = _
  rw [grouped_false, grouped_of_signed rfl, text]
  cases form <;> rw [CType.render] <;> rfl

/-- An array around the rest is the rest before the size. -/
theorem render_array (size? : Option String) (unsigned : inner.isSigned = false) :
    (CType.array size? type).render (inner.grouped (CType.array size? type).bindsBehind) =
      type.render ((array size? inner).grouped type.bindsBehind) := by
  rw [grouped_of_unsigned unsigned, grouped_of_unsigned rfl, CType.render, CType.bindsBehind, text]

/-- A function around the rest is the rest before the parameters. -/
theorem render_function {parameters : List CType} {types : List TypeName}
    (taken : CType.spellings parameters = TypeName.texts types)
    (unsigned : inner.isSigned = false) :
    (CType.function type parameters).render
        (inner.grouped (CType.function type parameters).bindsBehind) =
      type.render ((function types inner).grouped type.bindsBehind) := by
  rw [grouped_of_unsigned unsigned, grouped_of_unsigned rfl, CType.render, CType.bindsBehind, text,
    taken]

/-- Parentheses are kept where the type inside them needs them. -/
theorem grouped_parenthesized (tight : Bool) :
    (parenthesized inner).grouped tight = inner.grouped tight := by
  rw [grouped_of_unsigned rfl, text, grouped]

/-- A named type stands before the declarator, which needs no parentheses there. -/
theorem render_declared (kind : TypeKind) (name : String) (quals : Qualifiers) :
    (CType.named kind name quals).render
        (inner.grouped (CType.named kind name quals).bindsBehind) =
      (TypeName.declared (.named kind name quals) inner).text := by
  rw [CType.render_named, TypeName.text, ← grouped_false]
  rfl

end Render

/-- One part of a declarator wraps the type; what is inside goes on from there. -/
theorem derive_step {source : Source} {node : Node} {inner? : Option Node} {type wrapped : CType}
    (step : CType.nextPart? node = inner?)
    (wraps : CType.wrap source node
      ((CType.typedParameters node).map (CType.parameterType source)) type = wrapped) :
    CType.derive source type node = (inner?.map (CType.derive source wrapped)).getD wrapped := by
  rw [CType.derive_eq, step, wraps]

/-- A function whose parameters are written as types takes all of them. -/
theorem WrittenAll.typedParameters_eq {source : Source} {node : Node} {abstract : Bool}
    {types : List TypeName} (isKind : node.kind = .declarator .function abstract)
    (taken : WrittenAll source node.parameters types) :
    CType.typedParameters node = node.parameters := by
  have single : ∀ {parameters : List Node} {types : List TypeName},
      WrittenAll source parameters types →
        ∀ parameter ∈ parameters, parameter.kind ≠ .parameter .variadic := by
    intro parameters types taken
    induction parameters generalizing types with
    | nil => simp
    | cons parameter parameters inductionHypothesis =>
      cases taken with
      | cons single named written rest =>
        exact List.forall_mem_cons.mpr ⟨single, inductionHypothesis rest⟩
  have isFunction : CType.isFunctionPart node = true := by rw [CType.isFunctionPart, isKind]
  rw [CType.typedParameters, if_pos isFunction, List.filter_eq_self]
  intro parameter isParameter
  simpa using single taken parameter isParameter

mutual

/-- The type that a written declarator derives is spelled as the type that it is derived from,
around the text of the declarator.

By induction on the declarator, for every type: each part wraps the type from outside, and what is
inside goes on with the wrapped type.  Whether parentheses are needed there is told by that type. -/
theorem Written.spelling_derive {source : Source} : ∀ {declarator : Declarator}
    {node? : Option Node} (_ : Written source node? declarator) (type : CType),
    ((node?.map (CType.derive source type)).getD type).spelling =
      type.render (declarator.grouped type.bindsBehind)
  | .name, _, written, type => by
    rw [grouped_of_unsigned rfl, text]
    cases written with
    | nothing => rfl
    | name isName =>
      rw [Option.map_some, Option.getD_some, Node.derive_of_name isName]
      rfl
  | .pointer quals inner, _, written, type => by
    cases written with
    | pointer isKind qualified inside within =>
      rw [Option.map_some, Option.getD_some, ← render_pointer,
        ← within.spelling_derive (.pointer quals type)]
      congr 1
      apply derive_step
      · rw [← inside, CType.nextPart?, isKind]
      · rw [CType.wrap, isKind]
        simp only [CType.qualifiersOf_eq qualified]
  | .reference form inner, _, written, type => by
    cases written with
    | reference isKind sign only inside within =>
      rw [Option.map_some, Option.getD_some, ← render_reference,
        ← within.spelling_derive (.reference form type)]
      congr 1
      apply derive_step
      · rw [← inside, CType.nextPart?, isKind]
      · rw [CType.wrap, isKind]
        simp only [CType.referenceForm_eq sign]
  | .array size? inner, _, written, type => by
    cases written with
    | array isKind sized inside within unsigned =>
      rw [Option.map_some, Option.getD_some, ← render_array type size? unsigned,
        ← within.spelling_derive (.array size? type)]
      congr 1
      apply derive_step
      · rw [← inside, CType.nextPart?, isKind]
      · rw [CType.wrap, isKind, ← CType.sized_iff.mp sized]
  | .function types inner, _, written, type => by
    cases written with
    | function isKind taken inside within unsigned =>
      rw [Option.map_some, Option.getD_some, ← render_function type taken.spellings_eq unsigned,
        ← within.spelling_derive (.function type _)]
      congr 1
      apply derive_step
      · rw [← inside, CType.nextPart?, isKind]
      · rw [CType.wrap, isKind, taken.typedParameters_eq isKind]
  | .parenthesized inner, _, written, type => by
    cases written with
    | parenthesized isKind only inside within =>
      rw [Option.map_some, Option.getD_some, grouped_parenthesized, ← within.spelling_derive type]
      congr 1
      apply derive_step
      · rw [← inside, CType.nextPart?, isKind]
      · rw [CType.wrap, isKind]

/-- Parameters that are written as types are spelled as these. -/
theorem WrittenAll.spellings_eq {source : Source} : ∀ {types : List TypeName}
    {parameters : List Node} (_ : WrittenAll source parameters types),
    CType.spellings (parameters.map (CType.parameterType source)) = TypeName.texts types
  | [], _, written => by
    cases written
    rfl
  | .declared base declarator :: others, _, written => by
    cases written with
    | @cons parameter _ _ parameters _ single named within rest =>
      rw [List.map_cons, CType.spellings, TypeName.texts, rest.spellings_eq]
      congr 1
      obtain ⟨kind, name, quals, rfl⟩ := CType.base?_eq_named named
      rw [CType.parameterType_eq, CType.ofDeclaration_of_base? named]
      show CType.spelling _ = _
      rw [within.spelling_derive, render_declared]

end

end Declarator

namespace CType

/-- Whatever a declarator is built of, the type that it derives from a named type is spelled as the
named type and, if anything is left of it, a space and the declarator without its name. -/
theorem spelling_of_declarator {source : Source} {node : Node} {declarator : Declarator}
    (written : Declarator.Written source (some node) declarator) (kind : TypeKind) (name : String)
    (quals : Qualifiers) :
    (derive source (.named kind name quals) node).spelling =
      (TypeName.declared (.named kind name quals) declarator).text := by
  have spelled := written.spelling_derive (.named kind name quals)
  rw [Declarator.render_declared, Option.map_some, Option.getD_some] at spelled
  exact spelled

/-- The type of `t` is spelled as its declarator without `t` and `p`. -/
theorem spelling_of_declarator_table :
    ∃ item ∈ TranslationUnit.table.root.children, ∃ node ∈ item.childrenIn .declarator,
      ∃ declarator, Declarator.Written TranslationUnit.table.source (some node) declarator ∧
        (derive TranslationUnit.table.source (.named .plainChar "char" .none) node).spelling =
          "char *(*const *[1 + 1])(const int *, int (&&)[])" := by
  have written : ∃ item ∈ TranslationUnit.table.root.children,
      ∃ node ∈ item.childrenIn .declarator,
        Declarator.Written TranslationUnit.table.source (some node) <|
          .pointer .none <| .function
            [.declared (.named .int "int" ⟨true, false, false⟩) (.pointer .none .name),
              .declared (.named .int "int" .none)
                (.array none (.parenthesized (.reference .rvalue .name)))]
            (.parenthesized (.pointer ⟨true, false, false⟩
              (.pointer .none (.array (some "1 + 1") .name)))) := by
    refine ⟨_, List.mem_cons_self, _, List.mem_cons_self, ?_⟩
    refine .pointer rfl ⟨by decide, by decide, by decide⟩ rfl ?_
    refine .function rfl ?_ rfl ?_ rfl
    · refine .cons (by decide) rfl ?_ ?_
      · exact .pointer rfl ⟨by decide, by decide, by decide⟩ rfl (.name rfl)
      · refine .cons (by decide) rfl ?_ .nil
        refine .array rfl (sized_iff.mpr rfl) rfl ?_ rfl
        refine .parenthesized rfl (by decide) rfl ?_
        exact .reference rfl rfl (by decide) rfl .nothing
    · refine .parenthesized rfl (by decide) rfl ?_
      refine .pointer rfl ⟨by decide +kernel, by decide +kernel, by decide +kernel⟩ rfl ?_
      refine .pointer rfl ⟨by decide, by decide, by decide⟩ rfl ?_
      exact .array rfl (sized_iff.mpr (by decide +kernel)) rfl (.name rfl) rfl
  obtain ⟨item, isItem, node, isNode, written⟩ := written
  refine ⟨item, isItem, node, isNode, _, written, ?_⟩
  rw [spelling_of_declarator written]
  decide +kernel

end CType

end DeclScope
