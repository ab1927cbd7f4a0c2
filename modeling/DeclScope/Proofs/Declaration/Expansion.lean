import DeclScope.Proofs.Cursor.Usr
import DeclScope.Proofs.Declaration.Fields
import DeclScope.Proofs.Walk.Levels
import DeclScope.Proofs.Walk.Toplevel

/-!
# An expanded class has the data members of the class and no others

A class is expanded by walking through everything below it and inserting what is visited at level
zero and is a field.  What the walk visits there are the children of the class, so the interior of
nested records, parameters and function bodies have no part in the result.

Two data members can have the same name, for example in two branches of a conditional group.  Then
the name stands where it came up first and leads to the member that came last, and each member that
meets its name is worth one warning, which tells of the member that it replaces.

All data members of a class add their names to the same scope, so the fields that are left differ in
their USRs as they differ in their names.
-/

namespace DeclScope

/-- The unit of a class that declares `v` in both branches of a group, a struct with members `v` and
`w` together with a member `b`, and a method with a parameter `w`. -/
def TranslationUnit.redeclared : TranslationUnit where
  filename := "redeclared.cpp"
  language := .cpp
  source := .ofString ("class A \x7b\n#if X\n int v;\n#else\n long v;\n#endif\n" ++
    " struct B \x7b int v; int w; \x7d b;\n int f(int w);\n\x7d;")
  arguments := []
  tree := .named .translationUnit none 0 94 [
    .named (.record .classKey) none 0 93 [
      .token "class" 0,
      .named (.name .type) (some .name) 6 7 [],
      .named .memberList (some .body) 8 93 [
        .token "\x7b" 8,
        .named (.conditional .ifTrue) none 10 45 [
          .token "#if" 10,
          .named (.name .plain) (some .condition) 14 15 [],
          .named .memberDeclaration none 17 23 [
            .named .primitiveType (some .type) 17 20 [],
            .named (.name .field) (some .declarator) 21 22 [],
            .token ";" 22],
          .named (.conditional .otherwise) none 24 38 [
            .token "#else" 24,
            .named .memberDeclaration none 31 38 [
              .named .sizedType (some .type) 31 35 [],
              .named (.name .field) (some .declarator) 36 37 [],
              .token ";" 37]],
          .token "#endif" 39],
        .named .memberDeclaration none 47 76 [
          .named (.record .structKey) (some .type) 47 73 [
            .token "struct" 47,
            .named (.name .type) (some .name) 54 55 [],
            .named .memberList (some .body) 56 73 [
              .token "\x7b" 56,
              .named .memberDeclaration none 58 64 [
                .named .primitiveType (some .type) 58 61 [],
                .named (.name .field) (some .declarator) 62 63 [],
                .token ";" 63],
              .named .memberDeclaration none 65 71 [
                .named .primitiveType (some .type) 65 68 [],
                .named (.name .field) (some .declarator) 69 70 [],
                .token ";" 70],
              .token "\x7d" 72]],
          .named (.name .field) (some .declarator) 74 75 [],
          .token ";" 75],
        .named .memberDeclaration none 78 91 [
          .named .primitiveType (some .type) 78 81 [],
          .named (.declarator .function false) (some .declarator) 82 90 [
            .named (.name .field) (some .declarator) 82 83 [],
            .named (.other "parameter_list") (some .parameters) 83 90 [
              .token "(" 83,
              .named (.parameter .plain) none 84 89 [
                .named .primitiveType (some .type) 84 87 [],
                .named (.name .plain) (some .declarator) 88 89 []],
              .token ")" 89]],
          .token ";" 90],
        .token "\x7d" 92]],
    .token ";" 93]

namespace Cursor

/-- The data members among the children of a cursor, in order. -/
def dataMembers (cursor : Cursor) : List Cursor :=
  cursor.children.filter (·.kind == .fieldDecl)

/-- For each cursor that is spelled like an earlier one, the last such earlier one. -/
def overridden (cursors : List Cursor) : List Cursor :=
  cursors.zipIdx.filterMap fun (cursor, place) =>
    (cursors.take place).reverse.find? (·.spelling == cursor.spelling)

/-- One more cursor overrides the last earlier one that is spelled alike. -/
theorem overridden_concat (cursors : List Cursor) (cursor : Cursor) :
    overridden (cursors ++ [cursor]) =
      overridden cursors ++ (cursors.reverse.find? (·.spelling == cursor.spelling)).toList := by
  rw [overridden, List.zipIdx_append, List.filterMap_append, overridden]
  congr 1
  · apply List.filterMap_congr
    rintro ⟨other, place⟩ listed
    have inside : place < cursors.length := by
      simpa using List.snd_lt_add_of_mem_zipIdx listed
    dsimp only
    rw [List.take_append_of_le_length (Nat.le_of_lt inside)]
  · rw [List.zipIdx_singleton, List.filterMap_cons]
    cases found : cursors.reverse.find? (·.spelling == cursor.spelling) <;> simp [found]

/-- The name of a data member is its spelling. -/
theorem displayName_of_field {cursor : Cursor} (isField : cursor.kind = .fieldDecl) :
    cursor.displayName = cursor.spelling := by
  rw [displayName, isField]
  rfl

end Cursor

/-- The nearest scope around an item of a body depends on the body only. -/
theorem Node.scope?_eq_of_mem_contents {item : Item} {body : Node} (mem : item ∈ body.contents) :
    item.node.scope? = if body.kind.opensScope then some body else body.scope? := by
  obtain ⟨child, inside, below⟩ := List.mem_flatMap.mp mem
  rw [scope?_of_mem_items below]
  exact scope?_of_mem_children (mem_children_of_mem_unguarded inside)

/-- A data member of a record stands in its body. -/
theorem Item.mem_contents_of_field {field : Item} {record : Node} {key : RecordKey}
    (isRecord : record.kind = .record key) (mem : field ∈ childrenOfNode record)
    (isField : field.kind = .fieldDecl) :
    ∃ body, record.childIn? .body = some body ∧ field ∈ body.contents := by
  simp only [childrenOfNode, isRecord] at mem
  rcases List.mem_append.mp mem with base | member
  · obtain ⟨clause, listed, rfl⟩ := List.mem_map.mp base
    have isBase : clause.kind = .baseClause := beq_iff_eq.mp (List.mem_filter.mp listed).2
    rw [kind, kindOfNode, isBase] at isField
    cases isField
  · cases found : record.childIn? .body with
    | none => simp [found] at member
    | some body => exact ⟨body, rfl, by simpa [found] using member⟩

namespace Cursor

/-- The data members of a class add their spellings to one and the same scope. -/
theorem exists_usr_of_dataMembers {cursor : Cursor} (isClass : cursor.kind = .classDecl) :
    ∃ scope : String, ∀ field ∈ cursor.dataMembers, field.usr = scope ++ field.spelling := by
  obtain ⟨whole, isRecord⟩ := (Item.kind_scope cursor.toItem).2.2.mp isClass
  let around : Option Node := (cursor.node.childIn? .body).bind fun body =>
    if body.kind.opensScope then some body else body.scope?
  refine ⟨?scope, ?extended⟩
  case extended =>
    intro field isMember
    obtain ⟨isChild, fieldKind⟩ := List.mem_filter.mp isMember
    have isField : field.kind = .fieldDecl := beq_iff_eq.mp fieldKind
    have own : field.segment? = some ("@FI@" ++ field.spelling) := by rw [segment?, isField]
    have inScope : field.scope? =
        around.map fun scope => (⟨⟨scope, none⟩, cursor.unit⟩ : Cursor) := by
      obtain ⟨item, listed, rfl⟩ := List.mem_map.mp isChild
      rw [Item.children, whole] at listed
      obtain ⟨body, found, inBody⟩ := Item.mem_contents_of_field isRecord listed isField
      simp only [scope?, around, found, Option.bind_some, Node.scope?_eq_of_mem_contents inBody]
    rw [usr_of_segment? own, inScope]
    exact String.append_assoc.symm

end Cursor

namespace ClassDefinition

open Cursor

/-- The fields that an expansion inserts are the data members among the children. -/
theorem fieldCursors_childWalk (cursor : Cursor) :
    fieldCursors cursor.childWalk = cursor.dataMembers := by
  have direct := outline_filter_level cursor.children 0
  rw [fieldCursors, childWalk_eq, descendants, dataMembers]
  conv_rhs => rw [← direct, List.filter_map, List.filter_filter]
  congr 2
  funext visit
  exact Bool.and_comm _ _

/-- The warning for a data member of a class that is overridden. -/
def overrideWarning (cursor member : Cursor) : LogRecord :=
  ⟨.warn, "Duplicate field name, keeping the last declaration",
    [("class", cursor.usr), ("field", member.spelling),
      ("previous", member.extent.1.describe)]⟩

/-- What an expansion has come to once some data members are inserted: each name leads to the last
of them, each overridden one has a warning, and there are as many fields and warnings as members. -/
structure Expanded (cursor : Cursor) (members : List Cursor)
    (state : ClassDefinition × List LogRecord) : Prop where
  areFields : ∀ member ∈ members, member.kind = .fieldDecl
  gathered : Gathers cursor (members.map .ofCursor) state.1
  stored : ∀ name, state.1.fields.get? name =
    (members.reverse.find? (·.spelling == name)).map .ofCursor
  warned : state.2 = (overridden members).map (overrideWarning cursor)
  counted : state.2.length + state.1.fields.size = members.length

/-- Before any data member is inserted. -/
theorem expanded_ofCursor (cursor : Cursor) : Expanded cursor [] (ofCursor cursor, []) where
  areFields := by simp
  gathered := gathers_ofCursor cursor
  stored name := by simp [ofCursor, Fields.empty, Fields.get?]
  warned := rfl
  counted := rfl

/-- Inserting a field leaves the warnings so far, and adds one for a field that it replaces. -/
theorem addField_snd (state : ClassDefinition × List LogRecord) (field : Declaration) :
    (addField state field).2 =
      state.2 ++ (state.1.fields.insert field).1.toList.map state.1.duplicateWarning :=
  rfl

/-- One more data member. -/
theorem Expanded.addField {cursor member : Cursor} {members : List Cursor}
    {state : ClassDefinition × List LogRecord} (expanded : Expanded cursor members state)
    (isField : member.kind = .fieldDecl) :
    Expanded cursor (members ++ [member]) (addField state (.ofCursor member)) := by
  have indexed : state.1.fields.Indexed := expanded.gathered.indexed
  have name : (Declaration.ofCursor member).name = member.spelling := displayName_of_field isField
  refine ⟨?_, ?_, ?_, ?_, ?_⟩
  · exact List.forall_mem_append.mpr ⟨expanded.areFields, by simpa using isField⟩
  · rw [List.map_append]
    exact expanded.gathered.addField _
  · intro other
    show (state.1.fields.insert (.ofCursor member)).2.get? other = _
    rw [indexed.get?_insert, name, expanded.stored, List.reverse_concat, List.find?_cons]
    by_cases same : member.spelling = other
    · simp [same]
    · simp [same, beq_eq_false_iff_ne.mpr same]
  · rw [addField_snd, expanded.warned, overridden_concat, List.map_append, Fields.insert_fst, name,
      expanded.stored]
    congr 1
    cases found : members.reverse.find? (·.spelling == member.spelling) with
    | none => rfl
    | some earlier =>
      have among : earlier ∈ members := List.mem_reverse.mp (List.mem_of_find?_eq_some found)
      have earlierName := displayName_of_field (expanded.areFields earlier among)
      simp [duplicateWarning, overrideWarning, expanded.gathered.declaration, Declaration.ofCursor,
        earlierName]
  · have one := indexed.size_insert (.ofCursor member)
    have soFar := expanded.counted
    rw [addField_snd, List.length_append, List.length_append, List.length_map]
    show _ + (state.1.fields.insert (.ofCursor member)).2.size = _
    simp only [List.length_singleton]
    omega

/-- Data members one after the other. -/
theorem Expanded.foldl_addField {cursor : Cursor} {before members : List Cursor}
    {state : ClassDefinition × List LogRecord} (expanded : Expanded cursor before state)
    (areFields : ∀ member ∈ members, member.kind = .fieldDecl) :
    Expanded cursor (before ++ members)
      ((members.map .ofCursor).foldl ClassDefinition.addField state) := by
  induction members generalizing before state with
  | nil => simpa using expanded
  | cons member rest inductionHypothesis =>
    obtain ⟨isField, others⟩ := List.forall_mem_cons.mp areFields
    have next := inductionHypothesis (expanded.addField isField) others
    rwa [List.append_assoc, List.singleton_append] at next

/-- The expansion of a cursor inserts its data members. -/
theorem expanded_expand (cursor : Cursor) :
    Expanded cursor cursor.dataMembers (expand cursor) := by
  have areFields : ∀ member ∈ cursor.dataMembers, member.kind = .fieldDecl := by
    intro member isMember
    exact beq_iff_eq.mp (List.mem_filter.mp isMember).2
  rw [expand, fieldCursors_childWalk]
  exact (expanded_ofCursor cursor).foldl_addField areFields

/-- Each field that is left is the one of some data member. -/
theorem Expanded.exists_of_mem {cursor : Cursor} {members : List Cursor}
    {state : ClassDefinition × List LogRecord} (expanded : Expanded cursor members state)
    {field : Declaration} (stored : field ∈ state.1.fields.toList) :
    ∃ member ∈ members, field = .ofCursor member := by
  have found := expanded.gathered.indexed.get?_of_mem stored
  rw [expanded.stored] at found
  obtain ⟨member, isLast, rfl⟩ := Option.map_eq_some_iff.mp found
  exact ⟨member, List.mem_reverse.mp (List.mem_of_find?_eq_some isLast), rfl⟩

/-- The fields that are left differ in their USRs, if these are made from the names alike. -/
theorem Expanded.nodup_usr {cursor : Cursor} {members : List Cursor}
    {state : ClassDefinition × List LogRecord} (expanded : Expanded cursor members state)
    {scope : String} (made : ∀ member ∈ members, member.usr = scope ++ member.spelling) :
    (state.1.fields.toList.map (·.usr)).Nodup := by
  have ofNames : state.1.fields.toList.map (·.usr) = state.1.fields.names.map (scope ++ ·) := by
    rw [Fields.names, List.map_map]
    apply List.map_congr_left
    intro field stored
    obtain ⟨member, among, rfl⟩ := expanded.exists_of_mem stored
    show member.usr = scope ++ member.displayName
    rw [displayName_of_field (expanded.areFields member among), made member among]
  rw [ofNames]
  apply List.Nodup.map _ expanded.gathered.indexed.nodup_names
  intro first second same
  exact (String.append_right_inj scope).mp same

/-- An expanded class has as its field names the spellings of the data members of the class, each
where it came up first.  A name leads to the field of the last member that is spelled so.  There is
one warning for each member that is spelled like an earlier one, and so as many as there are members
more than fields.  No two fields have the same USR.  Nothing but the declarations of the class and
of its data members matters: whatever is below these may be different. -/
theorem expand_keeps_data_members {cursor : Cursor} (isClass : cursor.kind = .classDecl) :
    let members := cursor.dataMembers
    let fields := (expand cursor).1.fields
    let warnings := (expand cursor).2
    (expand cursor).1.declaration = .ofCursor cursor ∧
      fields.names = (members.map (·.spelling)).eraseDups ∧
      (∀ name, fields.get? name =
        (members.reverse.find? (·.spelling == name)).map .ofCursor) ∧
      warnings = (overridden members).map (overrideWarning cursor) ∧
      warnings.length + fields.size = members.length ∧
      (fields.toList.map (·.usr)).Nodup ∧
      ∀ other : Cursor, Declaration.ofCursor other = .ofCursor cursor →
        other.dataMembers.map Declaration.ofCursor = members.map .ofCursor →
        expand other = expand cursor := by
  intro members fields warnings
  have expanded : Expanded cursor members (expand cursor) := expanded_expand cursor
  obtain ⟨scope, made⟩ := exists_usr_of_dataMembers isClass
  refine ⟨expanded.gathered.declaration, ?_, expanded.stored, expanded.warned, expanded.counted,
    expanded.nodup_usr made, ?_⟩
  · rw [expanded.gathered.names, List.map_map]
    congr 1
    apply List.map_congr_left
    intro member among
    exact displayName_of_field (expanded.areFields member among)
  · intro other sameClass sameMembers
    rw [expand, expand, fieldCursors_childWalk, fieldCursors_childWalk, sameMembers, ofCursor,
      sameClass, ofCursor]

/-- The class of the unit has two fields.  The one named `v` is that of the second branch, about
which there is a warning, and the struct and the method add none. -/
theorem expand_keeps_data_members_redeclared :
    let record := (TranslationUnit.redeclared.cursor.descend? [0]).getD default
    record.kind = .classDecl ∧ record.dataMembers.map (·.spelling) = ["v", "v", "b"] ∧
      (expand record).1.fields.names = ["v", "b"] ∧
      ((expand record).1.fields.get? "v").map (·.start.line) = some 5 ∧
      (expand record).1.fields.get? "w" = none ∧
      (expand record).2.map (·.values) = [[("class", "c:@S@A"), ("field", "v"),
        ("previous", "redeclared.cpp:3[2] (17)")]] ∧
      (expand record).1.fields.size = 2 := by
  intro record
  have isClass : record.kind = .classDecl := by decide +kernel
  have spellings : record.dataMembers.map (·.spelling) = ["v", "v", "b"] := by decide +kernel
  obtain ⟨-, names, stored, warned, counted, -, -⟩ := expand_keeps_data_members isClass
  have warnings : (expand record).2.map (·.values) = [[("class", "c:@S@A"), ("field", "v"),
      ("previous", "redeclared.cpp:3[2] (17)")]] := by
    rw [warned]
    decide +kernel
  refine ⟨isClass, spellings, ?_, ?_, ?_, warnings, ?_⟩
  · rw [names, spellings]
    decide
  · rw [stored]
    decide +kernel
  · rw [stored]
    decide +kernel
  · have members := congrArg List.length spellings
    have warningCount := congrArg List.length warnings
    simp only [List.length_map, List.length_cons, List.length_nil] at members warningCount
    omega

end ClassDefinition

end DeclScope
