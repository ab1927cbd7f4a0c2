import DeclScope.Proofs.CType.Record
import DeclScope.Proofs.Declarator.Function
import Mathlib.Logic.Relation

/-!
# Types are coherent

The kind of a type says what else its record holds.  Pointers, references, arrays and functions have
an inner type, which exactly one of the three views shows; of the other types only a typedef has
one, and no view shows it.  Only functions have parameters, only arrays of constant size have a
number of elements, and of the derived types only pointers are qualified.

A record can hold anything, so this is no matter of course: it holds of the records that are read
off declarations, and of all types inside them.  It is carried along a declarator part by part, and
through the parameters of functions, which are declarations of their own.  So spelling never meets a
derived type that has no inner type, and spells what the type is.

Two sorts of type count as typedefs.  A name of the standard library is one and stands for nothing.
The type of a typedef declaration stands for the declared type; it is never inside another type.
-/

namespace DeclScope

/-- The unit of `typedef int (*(*X)(int))[2];`, a pointer to a function that returns a pointer to an
array. -/
def TranslationUnit.synonyms : TranslationUnit where
  filename := "synonyms.c"
  language := .c
  source := .ofString "typedef int (*(*X)(int))[2];"
  arguments := []
  tree := .named .translationUnit none 0 28 [
    .named .typeDefinition none 0 28 [
      .token "typedef" 0,
      .named .primitiveType (some .type) 8 11 [],
      .named (.declarator .array false) (some .declarator) 12 27 [
        .named (.declarator .parenthesized false) (some .declarator) 12 24 [
          .token "(" 12,
          .named (.declarator .pointer false) none 13 23 [
            .token "*" 13,
            .named (.declarator .function false) (some .declarator) 14 23 [
              .named (.declarator .parenthesized false) (some .declarator) 14 18 [
                .token "(" 14,
                .named (.declarator .pointer false) none 15 17 [
                  .token "*" 15,
                  .named (.name .type) (some .declarator) 16 17 []],
                .token ")" 17],
              .named (.other "parameter_list") (some .parameters) 18 23 [
                .token "(" 18,
                .named (.parameter .plain) none 19 22 [
                  .named .primitiveType (some .type) 19 22 []],
                .token ")" 22]]],
          .token ")" 23],
        .token "[" 24,
        .named (.other "number_literal") (some .size) 25 26 [],
        .token "]" 26],
      .token ";" 27]]

namespace TypeRecord

/-- What the three views of a type show. -/
def views (type : TypeRecord) : List TypeRecord :=
  type.pointee?.toList ++ type.elementType?.toList ++ type.resultType?.toList

/-- What a record holds is as its kind says. -/
structure Coherent (type : TypeRecord) : Prop where
  /-- A type of a derived kind has an inner type, and one view shows it. -/
  derived : type.kind.isDerived = true → ∃ inner, type.inner? = some inner ∧ type.views = [inner]
  /-- Any other type has none unless it is a typedef, and no view shows anything. -/
  leaf : type.kind.isDerived = false →
    (type.inner? = none ∨ type.kind = .synonym) ∧ type.views = []
  /-- Only functions have parameters. -/
  parameters : type.parameters ≠ [] → type.kind = .function
  /-- Only arrays of constant size have a number of elements, which is the value of what is
  written. -/
  size : type.arraySize? = if type.kind = .constantArray then Size.read? type.name else none
  /-- References, arrays and functions are not qualified. -/
  unqualified : type.kind.isDerived = true → type.kind ≠ .pointer → type.quals = .none

/-- The inner type of a type and the types of its parameters are its parts. -/
def HasPart (type part : TypeRecord) : Prop :=
  type.inner? = some part ∨ part ∈ type.parameters

/-- What a derived type without an inner type is spelled as makes no difference, so that none is met
where the type is spelled. -/
def SpelledWhole (type : TypeRecord) : Prop :=
  ∀ missing declarator, type.renderWith missing declarator = type.render declarator

/-- A type is sound if it is coherent, spelled whole and stands for no other type, and so are all
types inside it. -/
structure Sound (type : TypeRecord) : Prop where
  coherent : ∀ part, Relation.ReflTransGen HasPart type part → part.Coherent
  spelledWhole : ∀ part, Relation.ReflTransGen HasPart type part → part.SpelledWhole
  bare : ∀ part, Relation.ReflTransGen HasPart type part → part.kind = .synonym →
    part.inner? = none

/-! ### Coherence of each form -/

/-- One view shows the inner type of a derived type. -/
theorem views_of_derived {type inner : TypeRecord} (isDerived : type.kind.isDerived = true)
    (found : type.inner? = some inner) : type.views = [inner] := by
  obtain ⟨kind, name, quals, inner?, size?, parameters⟩ := type
  cases found
  cases kind <;> first | rfl | cases isDerived

/-- No view shows anything of a type that is not derived. -/
theorem views_of_underived {type : TypeRecord} (underived : type.kind.isDerived = false) :
    type.views = [] := by
  obtain ⟨kind, name, quals, inner?, size?, parameters⟩ := type
  cases kind <;> first | rfl | cases underived

/-- A named type is coherent if its kind is not a derived one. -/
theorem coherent_leaf {kind : TypeKind} (underived : kind.isDerived = false) (name : String)
    (quals : Qualifiers) : Coherent { leaf kind name with quals } where
  derived isDerived := absurd isDerived (Bool.eq_false_iff.mp underived)
  leaf _ := ⟨.inl rfl, views_of_underived underived⟩
  parameters present := absurd rfl present
  size := by
    rw [if_neg]
    · rfl
    · rintro (rfl : kind = .constantArray)
      cases underived
  unqualified isDerived := absurd isDerived (Bool.eq_false_iff.mp underived)

/-- A typedef is coherent. -/
theorem coherent_synonym (name : String) (target : TypeRecord) :
    Coherent (synonym name target) where
  derived isDerived := nomatch isDerived
  leaf _ := ⟨.inr rfl, views_of_underived rfl⟩
  parameters present := absurd rfl present
  size := rfl
  unqualified isDerived := nomatch isDerived

/-- One part of a declarator makes a coherent type of a coherent type. -/
theorem Coherent.wrapPart {type : TypeRecord} (coherent : type.Coherent) (source : Source)
    (part : Node) (parameters : List TypeRecord) :
    (type.wrapPart source part parameters).Coherent := by
  have wraps {record : TypeRecord} (isDerived : record.kind.isDerived = true)
      (found : record.inner? = some type) (taken : record.parameters ≠ [] → record.kind = .function)
      (size : record.arraySize? =
        if record.kind = .constantArray then Size.read? record.name else none)
      (unqualified : record.kind ≠ .pointer → record.quals = .none) : record.Coherent :=
    { derived := fun _ => ⟨type, found, views_of_derived isDerived found⟩
      leaf := fun underived => absurd isDerived (Bool.eq_false_iff.mp underived)
      parameters := taken
      size := size
      unqualified := fun _ => unqualified }
  unfold TypeRecord.wrapPart
  split
  · rw [qualifiedBy_eq]
    exact wraps rfl rfl (absurd rfl) rfl (absurd rfl)
  · split <;> exact wraps rfl rfl (absurd rfl) rfl fun _ => rfl
  · split
    · refine wraps rfl rfl (absurd rfl) ?_ fun _ => rfl
      rw [if_pos (by rfl)]
    · exact wraps rfl rfl (absurd rfl) rfl fun _ => rfl
  · exact wraps rfl rfl (fun _ => rfl) rfl fun _ => rfl
  · exact coherent

/-! ### Spelling -/

/-- A coherent type without an inner type is spelled by its name. -/
theorem Coherent.isDerived_eq {type : TypeRecord} (coherent : type.Coherent)
    (missing : type.inner? = none) : type.kind.isDerived = false := by
  apply Bool.eq_false_iff.mpr
  intro isDerived
  obtain ⟨inner, found, -⟩ := coherent.derived isDerived
  rw [missing] at found
  cases found

mutual

/-- If all types inside a type are coherent, no derived type without an inner type is met where it
is spelled.  By induction on the type: only the inner type of a derived type and the parameters of a
function are spelled. -/
theorem spelledWhole_of_coherent : ∀ (type : TypeRecord)
    (_ : ∀ part, Relation.ReflTransGen HasPart type part → part.Coherent), type.SpelledWhole
  | ⟨kind, name, quals, none, size?, parameters⟩, coherent => by
    have underived : kind.isDerived = false := (coherent _ .refl).isDerived_eq rfl
    intro missing declarator
    cases kind <;> first | rfl | cases underived
  | ⟨kind, name, quals, some inner, size?, parameters⟩, coherent => by
    have within := spelledWhole_of_coherent inner fun part inside =>
      coherent part (.head (.inl rfl) inside)
    have taken := spellingsWith_of_coherent parameters fun parameter listed part inside =>
      coherent part (.head (.inr listed) inside)
    intro missing declarator
    cases kind <;> simp only [render, renderWith, taken missing, within missing]

/-- Types whose parts are all coherent are spelled whole. -/
theorem spellingsWith_of_coherent : ∀ (types : List TypeRecord)
    (_ : ∀ type ∈ types, ∀ part, Relation.ReflTransGen HasPart type part → part.Coherent)
    (missing : String → String), spellingsWith missing types = spellingsWith id types
  | [], _, _ => rfl
  | type :: rest, coherent, missing => by
    have first := spelledWhole_of_coherent type (coherent type List.mem_cons_self) missing ""
    have others := spellingsWith_of_coherent rest
      (fun other listed => coherent other (List.mem_cons_of_mem type listed)) missing
    rw [spellingsWith, spellingsWith, others, first]
    rfl

end

/-! ### Soundness along a declarator -/

/-- A coherent type of sound parts is sound, unless it stands for one of them. -/
theorem sound_of_parts {type : TypeRecord} (coherent : type.Coherent)
    (bare : type.kind = .synonym → type.inner? = none)
    (parts : ∀ part, type.HasPart part → part.Sound) : type.Sound := by
  have all : ∀ part, Relation.ReflTransGen HasPart type part → part.Coherent := by
    intro part inside
    rcases inside.cases_head with rfl | ⟨next, isPart, rest⟩
    · exact coherent
    · exact (parts next isPart).coherent part rest
  refine ⟨all, ?_, ?_⟩
  · intro part inside
    exact spelledWhole_of_coherent part fun deeper below => all deeper (inside.trans below)
  · intro part inside
    rcases inside.cases_head with rfl | ⟨next, isPart, rest⟩
    · exact bare
    · exact (parts next isPart).bare part rest

/-- A named type is sound if its kind is not a derived one. -/
theorem sound_leaf {kind : TypeKind} (underived : kind.isDerived = false) (name : String)
    (quals : Qualifiers) : Sound { leaf kind name with quals } := by
  apply sound_of_parts (coherent_leaf underived name quals)
  · intro _
    rfl
  · rintro part (found | taken)
    · cases found
    · cases taken

/-- The invalid type is sound. -/
theorem sound_invalid : invalid.Sound := sound_leaf rfl "" .none

/-- The type that a specifier names is sound, also with the qualifiers of a declaration. -/
theorem sound_qualifiedBy (source : Source) (specifier declaration : Node) :
    ((ofSpecifier source specifier).qualifiedBy source declaration).Sound := by
  rw [qualifiedBy_eq]
  exact sound_leaf (CType.isDerived_specified source specifier) _ _

/-- The type that a specifier names is sound. -/
theorem sound_ofSpecifier (source : Source) (specifier : Node) :
    (ofSpecifier source specifier).Sound :=
  sound_leaf (CType.isDerived_specified source specifier) _ .none

/-- What one part of a declarator puts around a type: the type is inside, the parameters are those
that are given, and the result stands for no other type unless the type did. -/
theorem hasPart_wrapPart {source : Source} {part : Node} {parameters : List TypeRecord}
    {type : TypeRecord} :
    type.wrapPart source part parameters = type ∨
      (type.wrapPart source part parameters).kind ≠ .synonym ∧
        ∀ inside, (type.wrapPart source part parameters).HasPart inside →
          inside = type ∨ inside ∈ parameters := by
  have wraps {record : TypeRecord} (kind : TypeKind) (isKind : record.kind = kind)
      (other : kind ≠ .synonym) (found : record.inner? = some type)
      (taken : record.parameters ⊆ parameters) :
      record.kind ≠ .synonym ∧
        ∀ inside, record.HasPart inside → inside = type ∨ inside ∈ parameters := by
    refine ⟨isKind ▸ other, ?_⟩
    rintro inside (isInner | isParameter)
    · exact .inl (Option.some.inj (isInner.symm.trans found))
    · exact .inr (taken isParameter)
  unfold wrapPart
  split
  · rw [qualifiedBy_eq]
    exact .inr (wraps .pointer rfl (by decide) rfl (List.nil_subset _))
  · split
    · exact .inr (wraps .lvalueReference rfl (by decide) rfl (List.nil_subset _))
    · exact .inr (wraps .rvalueReference rfl (by decide) rfl (List.nil_subset _))
  · split
    · exact .inr (wraps .constantArray rfl (by decide) rfl (List.nil_subset _))
    · exact .inr (wraps .incompleteArray rfl (by decide) rfl (List.nil_subset _))
  · exact .inr (wraps .function rfl (by decide) rfl (List.Subset.refl _))
  · exact .inl rfl

/-- One part of a declarator makes a sound type of a sound type, if its parameters have sound
types. -/
theorem Sound.wrapPart {type : TypeRecord} (sound : type.Sound) (source : Source) (part : Node)
    {parameters : List TypeRecord} (taken : ∀ parameter ∈ parameters, parameter.Sound) :
    (type.wrapPart source part parameters).Sound := by
  have coherent := (sound.coherent type .refl).wrapPart source part parameters
  rcases hasPart_wrapPart with same | ⟨other, parts⟩
  · rw [same]
    exact sound
  · apply sound_of_parts coherent (absurd · other)
    intro inside isPart
    rcases parts inside isPart with rfl | isParameter
    · exact sound
    · exact taken inside isParameter

mutual

/-- A declarator makes a sound type of a sound type.  By induction on the size of the tree: each
part wraps the type and hands it to the next, and the declarators of its parameters are smaller as
well. -/
theorem Sound.derive {type : TypeRecord} (sound : type.Sound) (source : Source) (part : Node) :
    (derive source type part).Sound := by
  have taken : ∀ parameter ∈ (CType.typedParameters part).map fun parameter =>
      ofDeclaration source parameter (parameter.childIn? .declarator), parameter.Sound := by
    intro parameter listed
    obtain ⟨node, isTyped, rfl⟩ := List.mem_map.mp listed
    have smaller := declaratorSize_lt isTyped
    exact sound_ofDeclaration source node _
  have wrapped := sound.wrapPart source part taken
  rw [derive_eq]
  cases found : CType.nextPart? part with
  | none => exact wrapped
  | some next =>
    have smaller := CType.size_lt_of_nextPart? found
    exact wrapped.derive source next
termination_by 2 * part.tree.size

/-- A declaration has a sound type, whichever declarator it is seen through. -/
theorem sound_ofDeclaration (source : Source) (declaration : Node) (declarator? : Option Node) :
    (ofDeclaration source declaration declarator?).Sound := by
  rw [ofDeclaration]
  split
  · exact sound_invalid
  · rename_i specifier _
    have named := sound_qualifiedBy source specifier declaration
    cases declarator? with
    | none => exact named
    | some declarator => exact named.derive source declarator
termination_by 2 * (declarator?.map (·.tree.size)).getD 0 + 1

end

end TypeRecord

/-! ### The spelling of a type and of its record -/

namespace CType

/-- Whether a type binds behind can be told by its kind, if its record is coherent. -/
theorem bindsBehind_eq {type : CType} (coherent : type.toRecord.Coherent) :
    TypeRecord.bindsBehind type.toRecord.kind = type.bindsBehind := by
  cases type with
  | named kind name quals =>
    have underived : kind.isDerived = false := coherent.isDerived_eq rfl
    cases kind <;> first | rfl | cases underived
  | pointer | function | synonym => rfl
  | reference form => cases form <;> rfl
  | array size? => cases size? <;> rfl

/-- A declarator is put in parentheses as the record of the type says, if that is coherent. -/
theorem guarded_eq {type : CType} (coherent : type.toRecord.Coherent) (declarator : String) :
    (if TypeRecord.bindsBehind type.toRecord.kind then "(" ++ declarator ++ ")" else declarator) =
      type.guarded declarator := by
  rw [bindsBehind_eq coherent, guarded]

mutual

/-- The record of a type is spelled as the type, if all types inside it are coherent.  By induction
on the type. -/
theorem render_toRecord : ∀ (type : CType)
    (_ : ∀ part, Relation.ReflTransGen TypeRecord.HasPart type.toRecord part → part.Coherent)
    (declarator : String), type.toRecord.renderWith id declarator = type.render declarator
  | named kind name quals, coherent, declarator => by
    have underived : kind.isDerived = false := (coherent _ .refl).isDerived_eq rfl
    cases kind <;> first | rfl | cases underived
  | pointer quals pointee, coherent, declarator => by
    have within := render_toRecord pointee fun part inside =>
      coherent part (.head (.inl rfl) inside)
    rw [render, ← guarded_eq (coherent _ (.single (.inl rfl))), ← within]
    rfl
  | reference .lvalue pointee, coherent, declarator => by
    have within := render_toRecord pointee fun part inside =>
      coherent part (.head (.inl rfl) inside)
    rw [render, ← guarded_eq (coherent _ (.single (.inl rfl))), ← within]
    rfl
  | reference .rvalue pointee, coherent, declarator => by
    have within := render_toRecord pointee fun part inside =>
      coherent part (.head (.inl rfl) inside)
    rw [render, ← guarded_eq (coherent _ (.single (.inl rfl))), ← within]
    rfl
  | array (some size) element, coherent, declarator => by
    rw [render, ← render_toRecord element fun part inside =>
      coherent part (.head (.inl rfl) inside)]
    rfl
  | array none element, coherent, declarator => by
    rw [render, ← render_toRecord element fun part inside =>
      coherent part (.head (.inl rfl) inside)]
    rfl
  | function result parameters, coherent, declarator => by
    have taken := spellingsWith_toRecords parameters fun parameter listed part inside =>
      coherent part (.head (.inr listed) inside)
    rw [render, ← taken, ← render_toRecord result fun part inside =>
      coherent part (.head (.inl rfl) inside)]
    rfl
  | synonym name target, coherent, declarator => rfl

/-- The records of several types are spelled as the types. -/
theorem spellingsWith_toRecords : ∀ (types : List CType)
    (_ : ∀ record ∈ toRecords types, ∀ part,
      Relation.ReflTransGen TypeRecord.HasPart record part → part.Coherent),
    TypeRecord.spellingsWith id (toRecords types) = spellings types
  | [], _ => rfl
  | type :: rest, coherent => by
    have first := render_toRecord type (coherent _ List.mem_cons_self) ""
    have others := spellingsWith_toRecords rest fun record listed =>
      coherent record (List.mem_cons_of_mem _ listed)
    rw [toRecords, TypeRecord.spellingsWith, spellings, first, others]

end

end CType

namespace Cursor

/-- The type of a cursor is that of a typedef exactly if the cursor is one. -/
theorem typeSource_eq_synonym_iff (cursor : Cursor) :
    cursor.typeSource = .synonym ↔ cursor.kind = .typedefDecl := by
  unfold typeSource
  constructor
  · intro written
    repeat' split at written
    all_goals first | assumption | cases written
  · intro isTypedef
    rw [isTypedef]

/-- The type of a cursor is sound, or it is the typedef for a sound type.  The latter is so exactly
if the cursor is a typedef. -/
theorem typeRecord_cases (cursor : Cursor) :
    (cursor.kind ≠ .typedefDecl ∧ cursor.typeRecord.Sound) ∨
      cursor.kind = .typedefDecl ∧
        ∃ target, target.Sound ∧ cursor.typeRecord = .synonym cursor.spelling target := by
  have isTypedef := cursor.typeSource_eq_synonym_iff
  unfold typeRecord
  cases written : cursor.typeSource with
  | synonym =>
    exact .inr ⟨isTypedef.mp written, _, TypeRecord.sound_ofDeclaration _ _ _, rfl⟩
  | declaration declarator? =>
    refine .inl ⟨fun found => ?_, TypeRecord.sound_ofDeclaration _ _ _⟩
    exact nomatch written.symm.trans (isTypedef.mpr found)
  | specifier node =>
    refine .inl ⟨fun found => ?_, TypeRecord.sound_ofSpecifier _ _⟩
    exact nomatch written.symm.trans (isTypedef.mpr found)
  | nowhere =>
    refine .inl ⟨fun found => ?_, TypeRecord.sound_invalid⟩
    exact nomatch written.symm.trans (isTypedef.mpr found)

end Cursor

namespace TypeRecord

/-- Only the target is inside a typedef. -/
theorem HasPart.eq_target {name : String} {target part : TypeRecord}
    (isPart : (synonym name target).HasPart part) : part = target := by
  rcases isPart with isInner | isParameter
  · exact (Option.some.inj isInner).symm
  · cases isParameter

/-- All types inside the type of a cursor are coherent, and none of those inside it stands for
another type. -/
theorem coherent_typeRecord (cursor : Cursor) :
    (∀ part, Relation.ReflTransGen HasPart cursor.typeRecord part → part.Coherent) ∧
      ∀ part, Relation.TransGen HasPart cursor.typeRecord part → part.kind = .synonym →
        part.inner? = none := by
  rcases cursor.typeRecord_cases with ⟨-, sound⟩ | ⟨-, target, sound, same⟩
  · exact ⟨sound.coherent, fun part inside => sound.bare part inside.to_reflTransGen⟩
  · rw [same]
    constructor
    · intro part inside
      rcases inside.cases_head with rfl | ⟨next, isPart, rest⟩
      · exact coherent_synonym _ _
      · rw [isPart.eq_target] at rest
        exact sound.coherent part rest
    · intro part inside
      obtain ⟨next, isPart, rest⟩ := Relation.TransGen.head'_iff.mp inside
      rw [isPart.eq_target] at rest
      exact sound.bare part rest

/-- Types are coherent.  Whatever the tree and the text, the records of specifiers and declarations
are sound.  The type of a cursor and all types inside it are coherent and spelled whole, none of
those inside it stands for another type, and it does so itself exactly if the cursor is a typedef.

All these records are those of the types, which can be asked for the same and are spelled alike. -/
theorem types_are_coherent :
    (∀ (source : Source) (specifier : Node), (ofSpecifier source specifier).Sound ∧
      ofSpecifier source specifier = (CType.ofSpecifier source specifier).toRecord) ∧
    (∀ (source : Source) (declaration : Node) (declarator? : Option Node),
      (ofDeclaration source declaration declarator?).Sound ∧
      ofDeclaration source declaration declarator? =
        (CType.ofDeclaration source declaration declarator?).toRecord) ∧
    ∀ cursor : Cursor,
      (∀ part, Relation.ReflTransGen HasPart cursor.typeRecord part →
        part.Coherent ∧ part.SpelledWhole) ∧
      (∀ part, Relation.TransGen HasPart cursor.typeRecord part → part.kind = .synonym →
        part.inner? = none) ∧
      ((cursor.typeRecord.kind = .synonym ∧ cursor.typeRecord.inner? ≠ none) ↔
        cursor.kind = .typedefDecl) ∧
      cursor.typeRecord = cursor.type.toRecord ∧ cursor.type.Answers cursor.typeRecord ∧
      ∀ declarator, cursor.typeRecord.render declarator = cursor.type.render declarator := by
  refine ⟨fun source specifier => ⟨sound_ofSpecifier source specifier, rfl⟩,
    fun source declaration declarator? =>
      ⟨sound_ofDeclaration source declaration declarator?, ofDeclaration_eq _ _ _⟩, ?_⟩
  intro cursor
  obtain ⟨coherent, bare⟩ := coherent_typeRecord cursor
  have same := cursor.typeRecord_eq
  refine ⟨?_, bare, ?_, same, same ▸ cursor.type.answers_toRecord, ?_⟩
  · intro part inside
    exact ⟨coherent part inside,
      spelledWhole_of_coherent part fun deeper below => coherent deeper (inside.trans below)⟩
  · rcases cursor.typeRecord_cases with ⟨other, sound⟩ | ⟨isTypedef, target, -, isSynonym⟩
    · refine ⟨?_, fun isTypedef => absurd isTypedef other⟩
      rintro ⟨isSynonym, present⟩
      exact absurd (sound.bare _ .refl isSynonym) present
    · rw [isSynonym]
      exact ⟨fun _ => isTypedef, fun _ => ⟨rfl, nofun⟩⟩
  · rw [same] at coherent ⊢
    exact CType.render_toRecord cursor.type coherent

/-- In the unit with a typedef, the typedef stands for a type.  Four steps inside it is the array of
two elements, which is coherent, has the number of its elements and is spelled whole. -/
theorem types_are_coherent_synonyms :
    ∃ cursor array, TranslationUnit.synonyms.cursor.descend? [0] = some cursor ∧
      cursor.kind = .typedefDecl ∧ cursor.typeRecord.kind = .synonym ∧
      cursor.typeRecord.inner? ≠ none ∧ Relation.TransGen HasPart cursor.typeRecord array ∧
      array.kind = .constantArray ∧ array.Coherent ∧ array.arraySize? = some 2 ∧
      array.SpelledWhole ∧ array.spelling = "int [2]" := by
  have facts : (TranslationUnit.synonyms.cursor.descend? [0]).any (fun cursor =>
      cursor.kind == .typedefDecl && ((((cursor.typeRecord.inner?.bind inner?).bind inner?).bind
        inner?).any fun array => array.kind == .constantArray && array.name == "2" &&
          array.spelling == "int [2]")) = true := by
    decide +kernel
  simp only [Option.any_eq_true, Bool.and_eq_true, beq_iff_eq, Option.bind_eq_some_iff] at facts
  obtain ⟨cursor, isCursor, isTypedef, array, ⟨pointer, ⟨function, ⟨target, first, second⟩, third⟩,
    fourth⟩, ⟨isArray, isSize⟩, spelled⟩ := facts
  have inside : Relation.TransGen HasPart cursor.typeRecord array :=
    .tail (.tail (.tail (.single (.inl first)) (.inl second)) (.inl third)) (.inl fourth)
  obtain ⟨all, -, standsFor, -⟩ := types_are_coherent.2.2 cursor
  obtain ⟨coherent, whole⟩ := all array inside.to_reflTransGen
  obtain ⟨isSynonym, present⟩ := standsFor.mpr isTypedef
  refine ⟨cursor, array, isCursor, isTypedef, isSynonym, present, inside, isArray, coherent, ?_,
    whole, spelled⟩
  rw [coherent.size, if_pos isArray, isSize]
  decide

end TypeRecord

end DeclScope
