import DeclScope.Json
import DeclScope.Scope
import DeclScope.Text.Blank

/-!
# What a cursor stands for

The kind of an item says which part it plays in a program: a namespace, a class, a field, a
function, a statement, and so on.  It follows from the node, from the declarator through which the
node is seen, and from whether the node belongs to the body of a record.
-/

namespace DeclScope

/-- The part that an item plays in a program. -/
inductive CursorKind where
  | translationUnit
  | namespaceScope
  | classDecl
  | structDecl
  | unionDecl
  | enumDecl
  | enumConstant
  | fieldDecl
  | varDecl
  | functionDecl
  | method
  | parameter
  | typedefDecl
  | accessMarker
  | baseSpecifier
  | typeReference
  | expression
  | compoundStatement
  | statement
  | annotated
  | invalidCode
  | unexposed
deriving DecidableEq, Inhabited

namespace CursorKind

/-- All kinds. -/
def all : List CursorKind :=
  [translationUnit, namespaceScope, classDecl, structDecl, unionDecl, enumDecl, enumConstant,
    fieldDecl, varDecl, functionDecl, method, parameter, typedefDecl, accessMarker, baseSpecifier,
    typeReference, expression, compoundStatement, statement, annotated, invalidCode, unexposed]

/-- The name of a kind in data. -/
def name : CursorKind → String
  | translationUnit => "translation_unit"
  | namespaceScope => "namespace"
  | classDecl => "class_decl"
  | structDecl => "struct_decl"
  | unionDecl => "union_decl"
  | enumDecl => "enum_decl"
  | enumConstant => "enum_constant_decl"
  | fieldDecl => "field_decl"
  | varDecl => "var_decl"
  | functionDecl => "function_decl"
  | method => "cxx_method"
  | parameter => "parm_decl"
  | typedefDecl => "typedef_decl"
  | accessMarker => "access_spec_decl"
  | baseSpecifier => "cxx_base_specifier"
  | typeReference => "type_ref"
  | expression => "unexposed_expr"
  | compoundStatement => "compound_stmt"
  | statement => "unexposed_stmt"
  | annotated => "unexposed_attr"
  | invalidCode => "invalid_code"
  | unexposed => "unexposed"

/-- The kind with a given name in data. -/
def ofName? (text : String) : Option CursorKind :=
  all.find? (·.name == text)

/-- The kind that a value chooses by its name in data. -/
def ofJson? (value : Json) : Option CursorKind :=
  value.choice?.bind ofName?

/-- The name of a kind as it is shown to people. -/
def display : CursorKind → String
  | translationUnit => "TRANSLATION_UNIT"
  | namespaceScope => "NAMESPACE"
  | classDecl => "CLASS_DECL"
  | structDecl => "STRUCT_DECL"
  | unionDecl => "UNION_DECL"
  | enumDecl => "ENUM_DECL"
  | enumConstant => "ENUM_CONSTANT_DECL"
  | fieldDecl => "FIELD_DECL"
  | varDecl => "VAR_DECL"
  | functionDecl => "FUNCTION_DECL"
  | method => "CXX_METHOD"
  | parameter => "PARM_DECL"
  | typedefDecl => "TYPEDEF_DECL"
  | accessMarker => "CXX_ACCESS_SPEC_DECL"
  | baseSpecifier => "CXX_BASE_SPECIFIER"
  | typeReference => "TYPE_REF"
  | expression => "UNEXPOSED_EXPR"
  | compoundStatement => "COMPOUND_STMT"
  | statement => "UNEXPOSED_STMT"
  | annotated => "UNEXPOSED_ATTR"
  | invalidCode => "INVALID_CODE"
  | unexposed => "UNEXPOSED"

/-- The name of a kind in written-out values. -/
def constructorName : CursorKind → String
  | translationUnit => "TranslationUnit"
  | namespaceScope => "Namespace"
  | classDecl => "ClassDecl"
  | structDecl => "StructDecl"
  | unionDecl => "UnionDecl"
  | enumDecl => "EnumDecl"
  | enumConstant => "EnumConstantDecl"
  | fieldDecl => "FieldDecl"
  | varDecl => "VarDecl"
  | functionDecl => "FunctionDecl"
  | method => "CxxMethod"
  | parameter => "ParmDecl"
  | typedefDecl => "TypedefDecl"
  | accessMarker => "AccessSpecDecl"
  | baseSpecifier => "CxxBaseSpecifier"
  | typeReference => "TypeRef"
  | expression => "UnexposedExpr"
  | compoundStatement => "CompoundStmt"
  | statement => "UnexposedStmt"
  | annotated => "UnexposedAttr"
  | invalidCode => "InvalidCode"
  | unexposed => "Unexposed"

/-- Whether the kind introduces something into a scope. -/
def isDeclaration : CursorKind → Bool
  | namespaceScope | classDecl | structDecl | unionDecl | enumDecl | enumConstant | fieldDecl
  | varDecl | functionDecl | method | parameter | typedefDecl | accessMarker => true
  | _ => false

/-- Whether the kind refers to something declared elsewhere. -/
def isReference : CursorKind → Bool
  | typeReference => true
  | _ => false

/-- Whether the kind is an expression. -/
def isExpression : CursorKind → Bool
  | expression => true
  | _ => false

/-- Whether the kind is a statement. -/
def isStatement : CursorKind → Bool
  | compoundStatement | statement => true
  | _ => false

/-- Whether the kind is an attribute. -/
def isAttribute : CursorKind → Bool
  | annotated => true
  | _ => false

/-- Whether the kind is text that the grammar could not read. -/
def isInvalid : CursorKind → Bool
  | invalidCode => true
  | _ => false

/-- Whether the kind is a class, a struct or a union. -/
def isRecord : CursorKind → Bool
  | classDecl | structDecl | unionDecl => true
  | _ => false

/-- The names of the classes that a kind belongs to, in a fixed order. -/
def classes (kind : CursorKind) : List String :=
  [("declaration", kind.isDeclaration), ("reference", kind.isReference),
    ("expression", kind.isExpression), ("statement", kind.isStatement),
    ("attribute", kind.isAttribute), ("invalid", kind.isInvalid),
    ("record", kind.isRecord)].filterMap fun (name, holds) => if holds then some name else none

/-- Whether the top-level walk goes into cursors of this kind. -/
def isExpanded : CursorKind → Bool
  | translationUnit | namespaceScope => true
  | _ => false

/-- Whether the kind is a function, free or in a record. -/
def isFunction : CursorKind → Bool
  | functionDecl | method => true
  | _ => false

end CursorKind

/-- The kinds that an observer wants to see. -/
inductive KindFilter where
  | all
  | only (kinds : List CursorKind)
deriving DecidableEq, Inhabited

/-- Whether a filter lets a kind pass. -/
def KindFilter.admits : KindFilter → CursorKind → Bool
  | .all, _ => true
  | .only kinds, kind => kinds.contains kind

/-- The kind that a record keyword gives. -/
def RecordKey.cursorKind : RecordKey → CursorKind
  | .classKey => .classDecl
  | .structKey => .structDecl
  | .unionKey => .unionDecl

namespace Item

/-- The kind of a node whose name tells only to which family it belongs. -/
def kindByEnding (text : String) : CursorKind :=
  if Text.ends "_statement" text then .statement
  else if Text.ends "_expression" text || Text.ends "_literal" text then .expression
  else .unexposed

/-- The kind of a function, by whether it stands in the body of a record. -/
def functionKind (node : Node) : CursorKind :=
  if node.isMember then .method else .functionDecl

/-- The kind of a node by itself. -/
def kindOfNode (node : Node) : CursorKind :=
  match node.kind with
  | .translationUnit => .translationUnit
  | .namespaceDefinition => .namespaceScope
  | .record key => key.cursorKind
  | .enumSpecifier => .enumDecl
  | .enumerator => .enumConstant
  | .functionDefinition => functionKind node
  | .accessMarker => .accessMarker
  | .baseClause => .baseSpecifier
  | .compoundStatement => .compoundStatement
  | .name .type => .typeReference
  | .attributes _ => .annotated
  | .error => .invalidCode
  | .parameter _ => .parameter
  | .other text => kindByEnding text
  | _ => .unexposed

/-- The kind of a node seen through one of its declarators.  A static data member is a variable. -/
def kindOfDeclarator (node declarator : Node) : CursorKind :=
  match node.kind with
  | .typeDefinition => .typedefDecl
  | .declaration =>
    if declarator.functionDeclarator?.isSome then functionKind node else .varDecl
  | .memberDeclaration =>
    if declarator.functionDeclarator?.isSome then functionKind node
    else if node.hasStorageClass "static" then .varDecl
    else .fieldDecl
  | _ => .varDecl

/-- The kind of an item. -/
def kind (item : Item) : CursorKind :=
  match item.declarator? with
  | some declarator => kindOfDeclarator item.node declarator
  | none => kindOfNode item.node

/-- A family of node names gives no scope. -/
theorem kindByEnding_mem (text : String) :
    kindByEnding text ∈ [CursorKind.statement, .expression, .unexposed] := by
  unfold kindByEnding
  repeat' split
  all_goals decide

/-- A declarator declares a type name, a variable, a field or a function. -/
theorem kindOfDeclarator_mem (node declarator : Node) :
    kindOfDeclarator node declarator ∈
      [CursorKind.typedefDecl, .varDecl, .fieldDecl, .functionDecl, .method] := by
  unfold kindOfDeclarator functionKind
  repeat' split
  all_goals decide

/-- Translation units, namespaces and classes are told by the kind of their node alone. -/
theorem kindOfNode_scope (node : Node) :
    (kindOfNode node = .translationUnit ↔ node.kind = .translationUnit) ∧
    (kindOfNode node = .namespaceScope ↔ node.kind = .namespaceDefinition) ∧
    (kindOfNode node = .classDecl ↔ node.kind = .record .classKey) := by
  unfold kindOfNode
  cases node.kind with
  | record key => cases key <;> simp [RecordKey.cursorKind]
  | functionDefinition =>
    simp only [functionKind]
    split <;> simp
  | name form => cases form <;> simp
  | other text =>
    have family := kindByEnding_mem text
    simp only [List.mem_cons, List.not_mem_nil, or_false] at family
    rcases family with same | same | same <;> simp [same]
  | _ => simp

/-- An item is a translation unit, a namespace or a class only if it is seen as a whole node. -/
theorem kind_scope (item : Item) :
    (item.kind = .translationUnit ↔
      item.declarator? = none ∧ item.node.kind = .translationUnit) ∧
    (item.kind = .namespaceScope ↔
      item.declarator? = none ∧ item.node.kind = .namespaceDefinition) ∧
    (item.kind = .classDecl ↔
      item.declarator? = none ∧ item.node.kind = .record .classKey) := by
  unfold kind
  cases item.declarator? with
  | none => simpa using kindOfNode_scope item.node
  | some declarator =>
    have declares := kindOfDeclarator_mem item.node declarator
    simp only [List.mem_cons, List.not_mem_nil, or_false] at declares
    rcases declares with same | same | same | same | same <;> simp [same]

end Item

end DeclScope
