import DeclScope.Cursor.Usr
import DeclScope.Proofs.Scope.Containment

/-!
# The USR of a declaration extends that of its scope

The segment of a namespace, a record or an enumeration is computed in two ways: from its name when
the cursor stands at it, and from its node when it encloses the cursor.  Both agree, so the USR of a
cursor is that of the nearest scope around it, followed by its own segment.  What else lies between
the two does not matter, be it bodies, conditional groups, declarations or templates.

The nearest scope around the children of a record or of an enumeration is the record or enumeration
itself, through any depth of conditional groups.  This asks of the tree that a body is a list of
members and not a scope of its own, as in every tree that a grammar builds.
-/

namespace DeclScope

/-- The unit of a namespace with a class, whose only field is inside two conditional groups, and
with an enumeration of one enumerator. -/
def TranslationUnit.guarded : TranslationUnit where
  filename := "guarded.cpp"
  language := .cpp
  source := .ofString ("namespace n \x7b\nclass A \x7b\n#ifdef X\n#ifndef Y\n int b;\n" ++
    "#endif\n#endif\n\x7d;\nenum E \x7b P \x7d;\n\x7d")
  arguments := []
  tree := .named .translationUnit none 0 83 [
    .named .namespaceDefinition none 0 83 [
      .token "namespace" 0,
      .named (.name .scope) (some .name) 10 11 [],
      .named .declarationList (some .body) 12 83 [
        .token "\x7b" 12,
        .named (.record .classKey) none 14 66 [
          .token "class" 14,
          .named (.name .type) (some .name) 20 21 [],
          .named .memberList (some .body) 22 66 [
            .token "\x7b" 22,
            .named (.conditional .ifDefined) none 24 64 [
              .token "#ifdef" 24,
              .named (.name .plain) (some .name) 31 32 [],
              .named (.conditional .ifDefined) none 33 57 [
                .token "#ifndef" 33,
                .named (.name .plain) (some .name) 41 42 [],
                .named .memberDeclaration none 44 50 [
                  .named .primitiveType (some .type) 44 47 [],
                  .named (.name .field) (some .declarator) 48 49 [],
                  .token ";" 49],
                .token "#endif" 51],
              .token "#endif" 58],
            .token "\x7d" 65]],
        .token ";" 66,
        .named .enumSpecifier none 68 80 [
          .token "enum" 68,
          .named (.name .type) (some .name) 73 74 [],
          .named (.other "enumerator_list") (some .body) 75 80 [
            .token "\x7b" 75,
            .named .enumerator none 77 78 [.named (.name .plain) (some .name) 77 78 []],
            .token "\x7d" 79]],
        .token ";" 80,
        .token "\x7d" 82]]]

/-- Whether a node adds a segment to the USR of what it encloses. -/
def Kind.opensScope : Kind → Bool
  | namespaceDefinition => true
  | record _ => true
  | enumSpecifier => true
  | _ => false

namespace Node

/-- The nearest namespace, record or enumeration around a node. -/
def scope? (node : Node) : Option Node := node.ancestors.find? (·.kind.opensScope)

/-- A scope around a node opens one. -/
theorem opensScope_of_scope? {scope node : Node} (found : node.scope? = some scope) :
    scope.kind.opensScope = true := by
  have holds := List.find?_some (p := fun other : Node => other.kind.opensScope) found
  exact holds

/-- Around a child are its parent and what is around that. -/
theorem ancestors_of_mem_children {child node : Node} (mem : child ∈ node.children) :
    child.ancestors = node :: node.ancestors := by
  obtain ⟨⟨tree, index⟩, -, rfl⟩ := List.mem_map.mp mem
  rfl

/-- The nearest scope around a child is its parent, if that is one, and otherwise the nearest scope
around the parent. -/
theorem scope?_of_mem_children {child node : Node} (mem : child ∈ node.children) :
    child.scope? = if node.kind.opensScope then some node else node.scope? := by
  rw [scope?, ancestors_of_mem_children mem, List.find?_cons]
  cases node.kind.opensScope <;> rfl

/-- A node that opens no scope is looked through. -/
theorem scope?_of_closed {child node : Node} (mem : child ∈ node.children)
    (closed : node.kind.opensScope = false) : child.scope? = node.scope? := by
  rw [scope?_of_mem_children mem, closed]
  rfl

/-- The items of a node are in the scope of the node: declarations and conditional groups are looked
through. -/
theorem scope?_of_mem_items {item : Item} {node : Node} (mem : item ∈ node.items) :
    item.node.scope? = node.scope? := by
  fun_induction items node with
  | case1 => cases mem
  | case2 node isKind | case3 node isKind | case4 node isKind =>
    simp only [declared, List.mem_append, List.mem_map, Option.mem_toList] at mem
    rcases mem with ⟨specifier, found, rfl⟩ | ⟨declarator, inside, rfl⟩
    · apply scope?_of_closed (mem_children_of_hoisted? found)
      rw [isKind]
      rfl
    · rfl
  | case5 node form isGroup inductionHypothesis =>
    obtain ⟨⟨child, inside⟩, -, below⟩ := List.mem_flatMap.mp mem
    rw [inductionHypothesis child inside below]
    apply scope?_of_closed (mem_children_of_mem_unguarded inside)
    rw [isGroup]
    rfl
  | case6 node =>
    rw [List.mem_singleton.mp mem]

/-- The items in a body that opens no scope are in the scope of the body. -/
theorem scope?_of_mem_contents {item : Item} {body : Node} (mem : item ∈ body.contents)
    (closed : body.kind.opensScope = false) : item.node.scope? = body.scope? := by
  obtain ⟨child, inside, below⟩ := List.mem_flatMap.mp mem
  rw [scope?_of_mem_items below]
  exact scope?_of_closed (mem_children_of_mem_unguarded inside) closed

/-- The body of a node, if it has any, opens no scope of its own. -/
def HasPlainBody (node : Node) : Prop :=
  ∀ body ∈ node.childIn? .body, body.kind.opensScope = false

instance (node : Node) : Decidable node.HasPlainBody :=
  inferInstanceAs (Decidable (∀ body ∈ _, _))

end Node

namespace Item

/-- The children of a record are in the scope of the record. -/
theorem scope?_of_mem_record {child : Item} {node : Node} {key : RecordKey}
    (isRecord : node.kind = .record key) (plain : node.HasPlainBody)
    (mem : child ∈ childrenOfNode node) : child.node.scope? = some node := by
  have opens : node.kind.opensScope = true := by rw [isRecord]; rfl
  simp only [childrenOfNode, isRecord] at mem
  rcases List.mem_append.mp mem with base | member
  · obtain ⟨inner, listed, rfl⟩ := List.mem_map.mp base
    have inside := Node.mem_children_of_mem_namedChildren (List.mem_filter.mp listed).1
    rw [Node.scope?_of_mem_children inside, if_pos opens]
  · cases found : node.childIn? .body with
    | none => simp [found] at member
    | some body =>
      have listed : child ∈ body.contents := by simpa [found] using member
      rw [Node.scope?_of_mem_contents listed (plain body found),
        Node.scope?_of_mem_children (Node.mem_children_of_childIn? found), if_pos opens]

/-- The children of an enumeration are its enumerators, in the scope of the enumeration. -/
theorem scope?_of_mem_enum {child : Item} {node : Node} (isEnum : node.kind = .enumSpecifier)
    (plain : node.HasPlainBody) (mem : child ∈ childrenOfNode node) :
    child.node.scope? = some node ∧ child.kind = .enumConstant := by
  have opens : node.kind.opensScope = true := by rw [isEnum]; rfl
  simp only [childrenOfNode, isEnum] at mem
  split at mem
  · rename_i body found
    obtain ⟨inner, listed, rfl⟩ := List.mem_map.mp mem
    obtain ⟨named, isEnumerator⟩ := List.mem_filter.mp listed
    refine ⟨?_, ?_⟩
    · rw [Node.scope?_of_closed (Node.mem_children_of_mem_namedChildren named) (plain body found),
        Node.scope?_of_mem_children (Node.mem_children_of_childIn? found), if_pos opens]
    · show kindOfNode inner = .enumConstant
      rw [kindOfNode, beq_iff_eq.mp isEnumerator]
  · cases mem

/-- Records and enumerations are told by the kind of their node alone. -/
theorem kindOfNode_specifier (node : Node) :
    ((kindOfNode node).isRecord = true → ∃ key, node.kind = .record key) ∧
      (kindOfNode node = .enumDecl → node.kind = .enumSpecifier) := by
  unfold kindOfNode
  cases node.kind with
  | functionDefinition =>
    simp only [functionKind]
    split <;> simp [CursorKind.isRecord]
  | record key => cases key <;> simp [RecordKey.cursorKind]
  | name form => cases form <;> simp [CursorKind.isRecord]
  | other text =>
    have family := kindByEnding_mem text
    simp only [List.mem_cons, List.not_mem_nil, or_false] at family
    rcases family with same | same | same <;> simp [same, CursorKind.isRecord]
  | _ => simp [CursorKind.isRecord]

/-- A record or an enumeration is seen as a whole node. -/
theorem kind_specifier {item : Item}
    (specifies : item.kind.isRecord = true ∨ item.kind = .enumDecl) :
    item.declarator? = none ∧ item.kind = kindOfNode item.node := by
  cases isDeclarator : item.declarator? with
  | none => exact ⟨rfl, by rw [kind, isDeclarator]⟩
  | some declarator =>
    have declares := kindOfDeclarator_mem item.node declarator
    rw [kind, isDeclarator] at specifies
    simp only [List.mem_cons, List.not_mem_nil, or_false] at declares
    rcases declares with same | same | same | same | same <;>
      simp [same, CursorKind.isRecord] at specifies

end Item

namespace TranslationUnit

/-- A node that opens no scope adds no segment. -/
theorem scopeSegment_of_closed (unit : TranslationUnit) {node : Node}
    (closed : node.kind.opensScope = false) : unit.scopeSegment node = "" := by
  unfold scopeSegment
  split <;> simp_all [Kind.opensScope]

/-- The segments around a node: those around the nearest scope, and the segment of that scope. -/
theorem scopeSegments_eq (unit : TranslationUnit) (node : Node) :
    unit.scopeSegments node = match node.scope? with
      | some scope => unit.scopeSegments scope ++ unit.scopeSegment scope
      | none => "" := by
  obtain ⟨tree, above⟩ := node
  show String.join ((Node.enclosing above).reverse.map unit.scopeSegment) =
    match (Node.enclosing above).find? (·.kind.opensScope) with
      | some scope => unit.scopeSegments scope ++ unit.scopeSegment scope
      | none => ""
  induction above with
  | nil => rfl
  | cons step rest inductionHypothesis =>
    rw [Node.enclosing, List.reverse_cons, List.map_append, String.join_append, List.find?_cons]
    cases opens : Node.kind ⟨step.parent, rest⟩ |>.opensScope with
    | true => simp [scopeSegments, Node.ancestors]
    | false =>
      rw [inductionHypothesis]
      simp [scopeSegment_of_closed unit opens]

end TranslationUnit

namespace Cursor

/-- The cursor at the nearest scope around a cursor. -/
def scope? (cursor : Cursor) : Option Cursor :=
  cursor.node.scope?.map fun scope => ⟨⟨scope, none⟩, cursor.unit⟩

/-- A scope has the same segment as a cursor and as something that encloses cursors. -/
theorem segment?_of_opensScope (unit : TranslationUnit) {node : Node}
    (opens : node.kind.opensScope = true) :
    segment? ⟨⟨node, none⟩, unit⟩ = some (unit.scopeSegment node) := by
  cases isKind : node.kind with
  | namespaceDefinition =>
    simp [segment?, kind, Item.kind, Item.kindOfNode, spelling, nameNode?, isKind,
      TranslationUnit.scopeSegment]
  | record key =>
    cases key <;>
      simp [segment?, kind, Item.kind, Item.kindOfNode, spelling, nameNode?, isKind,
        TranslationUnit.scopeSegment, TranslationUnit.scopeName, RecordKey.cursorKind,
        RecordKey.tag]
  | enumSpecifier =>
    simp [segment?, kind, Item.kind, Item.kindOfNode, spelling, nameNode?, isKind,
      TranslationUnit.scopeSegment, TranslationUnit.scopeName]
  | _ => simp [isKind, Kind.opensScope] at opens

/-- A cursor with a segment has the USR of the nearest scope around it, followed by its segment. -/
theorem usr_of_segment? {cursor : Cursor} {segment : String}
    (own : cursor.segment? = some segment) :
    cursor.usr = (match cursor.scope? with
      | some scope => scope.usr
      | none => "c:") ++ segment := by
  have outer := cursor.unit.scopeSegments_eq cursor.node
  rw [usr, own, scope?]
  dsimp only
  cases found : cursor.node.scope? with
  | none =>
    rw [found] at outer
    rw [outer]
    rfl
  | some scope =>
    rw [found] at outer
    have opens := Node.opensScope_of_scope? found
    have scopeUsr : usr ⟨⟨scope, none⟩, cursor.unit⟩ =
        "c:" ++ cursor.unit.scopeSegments scope ++ cursor.unit.scopeSegment scope := by
      rw [usr, segment?_of_opensScope cursor.unit opens]
    rw [outer, Option.map_some]
    dsimp only
    rw [scopeUsr]
    simp only [String.append_assoc]

/-- A child in the scope of its parent's node is in the scope of the parent, if that is seen as a
whole node. -/
theorem scope?_of_mem_children {child cursor : Cursor} (mem : child ∈ cursor.children)
    (whole : cursor.declarator? = none) (inScope : child.node.scope? = some cursor.node) :
    child.scope? = some cursor := by
  obtain ⟨⟨node, declarator?⟩, unit⟩ := cursor
  cases whole
  obtain ⟨item, -, rfl⟩ := List.mem_map.mp mem
  rw [scope?, inScope]
  rfl

/-- The children of a record are in the scope of the record. -/
theorem scope?_of_record {child cursor : Cursor} (isRecord : cursor.kind.isRecord = true)
    (plain : cursor.node.HasPlainBody) (mem : child ∈ cursor.children) :
    child.scope? = some cursor := by
  obtain ⟨whole, sameKind⟩ := Item.kind_specifier (.inl isRecord)
  obtain ⟨key, isNode⟩ := (Item.kindOfNode_specifier cursor.node).1 (sameKind ▸ isRecord)
  apply scope?_of_mem_children mem whole
  obtain ⟨item, listed, rfl⟩ := List.mem_map.mp mem
  rw [Item.children, whole] at listed
  exact Item.scope?_of_mem_record isNode plain listed

/-- The children of an enumeration are enumerators in the scope of the enumeration. -/
theorem scope?_of_enum {child cursor : Cursor} (isEnum : cursor.kind = .enumDecl)
    (plain : cursor.node.HasPlainBody) (mem : child ∈ cursor.children) :
    child.scope? = some cursor ∧ child.kind = .enumConstant := by
  obtain ⟨whole, sameKind⟩ := Item.kind_specifier (.inr isEnum)
  have isNode := (Item.kindOfNode_specifier cursor.node).2 (sameKind ▸ isEnum)
  have both : child.node.scope? = some cursor.node ∧ child.kind = .enumConstant := by
    obtain ⟨item, listed, rfl⟩ := List.mem_map.mp mem
    rw [Item.children, whole] at listed
    exact Item.scope?_of_mem_enum isNode plain listed
  exact ⟨scope?_of_mem_children mem whole both.1, both.2⟩

/-- The USR of a cursor is that of the nearest scope around it, or `c:` if there is none, followed
by the cursor's own segment.  In particular the fields of a record and the enumerators of an
enumeration add their names to its USR, at any depth of conditional groups. -/
theorem usr_extends_scope (cursor : Cursor) :
    (cursor.usr ≠ "" → ∃ segment, cursor.segment? = some segment ∧
      cursor.usr = (match cursor.scope? with
        | some scope => scope.usr
        | none => "c:") ++ segment) ∧
    (cursor.kind.isRecord = true → cursor.node.HasPlainBody →
      ∀ field ∈ cursor.children, field.kind = .fieldDecl →
        field.usr = cursor.usr ++ "@FI@" ++ field.spelling) ∧
    (cursor.kind = .enumDecl → cursor.node.HasPlainBody →
      ∀ enumerator ∈ cursor.children,
        enumerator.usr = cursor.usr ++ "@" ++ enumerator.spelling) := by
  refine ⟨?_, ?_, ?_⟩
  · intro named
    cases own : cursor.segment? with
    | none => exact absurd (by rw [usr, own]) named
    | some segment => exact ⟨segment, rfl, usr_of_segment? own⟩
  · intro isRecord plain field mem isField
    have own : field.segment? = some ("@FI@" ++ field.spelling) := by rw [segment?, isField]
    rw [usr_of_segment? own, scope?_of_record isRecord plain mem, String.append_assoc]
  · intro isEnum plain enumerator mem
    obtain ⟨inScope, isConstant⟩ := scope?_of_enum isEnum plain mem
    have own : enumerator.segment? = some ("@" ++ enumerator.spelling) := by
      rw [segment?, isConstant]
    rw [usr_of_segment? own, inScope, String.append_assoc]

/-- The field of the guarded unit is inside two groups, and its USR goes on from that of the class;
the enumerator's goes on from that of the enumeration. -/
theorem usr_guarded :
    let root := TranslationUnit.guarded.cursor
    let record := (root.descend? [0, 0]).getD root
    let enumeration := (root.descend? [0, 1]).getD root
    record.kind.isRecord = true ∧ record.node.HasPlainBody ∧
      enumeration.kind = .enumDecl ∧ enumeration.node.HasPlainBody ∧
      (∃ field ∈ record.children, field.kind = .fieldDecl ∧ field.usr = "c:@N@n@S@A@FI@b" ∧
        field.usr = record.usr ++ "@FI@" ++ field.spelling) ∧
      (∃ enumerator ∈ enumeration.children, enumerator.usr = "c:@N@n@E@E@P" ∧
        enumerator.usr = enumeration.usr ++ "@" ++ enumerator.spelling) ∧
      record.usr = "c:@N@n@S@A" ∧ record.usr ≠ "" ∧
      ∃ segment, record.segment? = some segment ∧
        record.usr = (match record.scope? with
          | some scope => scope.usr
          | none => "c:") ++ segment := by
  intro root record enumeration
  have isRecord : record.kind.isRecord = true := by decide +kernel
  have recordPlain : record.node.HasPlainBody := by decide +kernel
  have isEnum : enumeration.kind = .enumDecl := by decide +kernel
  have enumPlain : enumeration.node.HasPlainBody := by decide +kernel
  have named : record.usr ≠ "" := by decide +kernel
  have fields : record.children.map (fun child => (child.kind, child.usr)) =
      [(.fieldDecl, "c:@N@n@S@A@FI@b")] := by decide +kernel
  have enumerators : enumeration.children.map usr = ["c:@N@n@E@E@P"] := by decide +kernel
  obtain ⟨field, onlyField, fieldFacts⟩ := List.map_eq_singleton_iff.mp fields
  obtain ⟨enumerator, onlyEnumerator, enumeratorUsr⟩ := List.map_eq_singleton_iff.mp enumerators
  have isField : field.kind = .fieldDecl := congrArg Prod.fst fieldFacts
  have fieldListed : field ∈ record.children := onlyField ▸ List.mem_cons_self
  have enumeratorListed : enumerator ∈ enumeration.children := onlyEnumerator ▸ List.mem_cons_self
  refine ⟨isRecord, recordPlain, isEnum, enumPlain, ?_, ?_, by decide +kernel, named, ?_⟩
  · exact ⟨field, fieldListed, isField, congrArg Prod.snd fieldFacts,
      (usr_extends_scope record).2.1 isRecord recordPlain field fieldListed isField⟩
  · exact ⟨enumerator, enumeratorListed, enumeratorUsr,
      (usr_extends_scope enumeration).2.2 isEnum enumPlain enumerator enumeratorListed⟩
  · exact (usr_extends_scope record).1 named

end Cursor

end DeclScope
