/-!
# Kinds of syntax nodes

The grammars of the C family name their nodes.  The names that decide how a declaration is read are
constructors here, grouped by what they have in common; every other name is kept as it is.  Names of
punctuation and keywords are among the others, because only their text is ever looked at.

Reading a name and writing it back gives the name again (`text_ofText`), so nothing is lost by
grouping.
-/

namespace DeclScope

/-- The keyword of a record. -/
inductive RecordKey where
  | classKey
  | structKey
  | unionKey
deriving DecidableEq, Inhabited

/-- The forms of a preprocessor conditional group. -/
inductive ConditionalForm where
  | ifTrue
  | ifDefined
  | otherwise
  | elseIf
  | elseIfDefined
deriving DecidableEq, Inhabited

/-- The forms of a parameter. -/
inductive ParameterForm where
  | plain
  /-- With a default value. -/
  | optional
  | variadic
deriving DecidableEq, Inhabited

/-- The forms of an attribute. -/
inductive AttributeForm where
  | specifier
  | declaration
  | single
deriving DecidableEq, Inhabited

/-- The names that stand for themselves. -/
inductive NameForm where
  | plain
  | field
  | type
  | scope
  | destructor
  | operator
deriving DecidableEq, Inhabited

/-- The names that wrap another name. -/
inductive ScopedNameForm where
  | qualified
  | qualifiedType
  | templateType
  | templateFunction
  | templateMethod
deriving DecidableEq, Inhabited

/-- The parts of a declarator that build a type around another. -/
inductive DeclaratorShape where
  | pointer
  | reference
  | array
  | function
  | parenthesized
deriving DecidableEq, Inhabited

/-- The kinds of syntax nodes. -/
inductive Kind where
  | translationUnit
  | namespaceDefinition
  | linkageSpecification
  /-- The body of a namespace or of a linkage block. -/
  | declarationList
  | record (key : RecordKey)
  /-- The body of a record. -/
  | memberList
  | baseClause
  | accessMarker
  | enumSpecifier
  | enumerator
  | functionDefinition
  | compoundStatement
  | declaration
  | memberDeclaration
  | typeDefinition
  | parameter (form : ParameterForm)
  | conditional (form : ConditionalForm)
  | attributes (form : AttributeForm)
  | comment
  /-- Text that the grammar could not read. -/
  | error
  /-- A declarator that adds to the type; an abstract one declares no name. -/
  | declarator (shape : DeclaratorShape) (abstract : Bool)
  /-- A declarator followed by attributes. -/
  | attributedDeclarator
  /-- A declarator with an initial value. -/
  | initDeclarator
  | name (form : NameForm)
  | scopedName (form : ScopedNameForm)
  | primitiveType
  | sizedType
  | dependentType
  | placeholderType
  | autoType
  | typeQualifier
  | storageClass
  | other (text : String)
deriving DecidableEq, Inhabited

namespace Kind

/-- The name that the grammars give to a kind. -/
def text : Kind → String
  | translationUnit => "translation_unit"
  | namespaceDefinition => "namespace_definition"
  | linkageSpecification => "linkage_specification"
  | declarationList => "declaration_list"
  | record .classKey => "class_specifier"
  | record .structKey => "struct_specifier"
  | record .unionKey => "union_specifier"
  | memberList => "field_declaration_list"
  | baseClause => "base_class_clause"
  | accessMarker => "access_specifier"
  | enumSpecifier => "enum_specifier"
  | enumerator => "enumerator"
  | functionDefinition => "function_definition"
  | compoundStatement => "compound_statement"
  | declaration => "declaration"
  | memberDeclaration => "field_declaration"
  | typeDefinition => "type_definition"
  | parameter .plain => "parameter_declaration"
  | parameter .optional => "optional_parameter_declaration"
  | parameter .variadic => "variadic_parameter_declaration"
  | conditional .ifTrue => "preproc_if"
  | conditional .ifDefined => "preproc_ifdef"
  | conditional .otherwise => "preproc_else"
  | conditional .elseIf => "preproc_elif"
  | conditional .elseIfDefined => "preproc_elifdef"
  | attributes .specifier => "attribute_specifier"
  | attributes .declaration => "attribute_declaration"
  | attributes .single => "attribute"
  | comment => "comment"
  | error => "ERROR"
  | declarator .pointer false => "pointer_declarator"
  | declarator .pointer true => "abstract_pointer_declarator"
  | declarator .reference false => "reference_declarator"
  | declarator .reference true => "abstract_reference_declarator"
  | declarator .array false => "array_declarator"
  | declarator .array true => "abstract_array_declarator"
  | declarator .function false => "function_declarator"
  | declarator .function true => "abstract_function_declarator"
  | declarator .parenthesized false => "parenthesized_declarator"
  | declarator .parenthesized true => "abstract_parenthesized_declarator"
  | attributedDeclarator => "attributed_declarator"
  | initDeclarator => "init_declarator"
  | name .plain => "identifier"
  | name .field => "field_identifier"
  | name .type => "type_identifier"
  | name .scope => "namespace_identifier"
  | name .destructor => "destructor_name"
  | name .operator => "operator_name"
  | scopedName .qualified => "qualified_identifier"
  | scopedName .qualifiedType => "qualified_type_identifier"
  | scopedName .templateType => "template_type"
  | scopedName .templateFunction => "template_function"
  | scopedName .templateMethod => "template_method"
  | primitiveType => "primitive_type"
  | sizedType => "sized_type_specifier"
  | dependentType => "dependent_type"
  | placeholderType => "placeholder_type_specifier"
  | autoType => "auto"
  | typeQualifier => "type_qualifier"
  | storageClass => "storage_class_specifier"
  | other text => text

/-- The kinds with a constructor of their own. -/
def known : List Kind :=
  [translationUnit, namespaceDefinition, linkageSpecification, declarationList,
    record .classKey, record .structKey, record .unionKey, memberList, baseClause, accessMarker,
    enumSpecifier, enumerator, functionDefinition, compoundStatement,
    declaration, memberDeclaration, typeDefinition,
    parameter .plain, parameter .optional, parameter .variadic,
    conditional .ifTrue, conditional .ifDefined, conditional .otherwise, conditional .elseIf,
    conditional .elseIfDefined,
    attributes .specifier, attributes .declaration, attributes .single, comment, error,
    declarator .pointer false, declarator .pointer true,
    declarator .reference false, declarator .reference true,
    declarator .array false, declarator .array true,
    declarator .function false, declarator .function true,
    declarator .parenthesized false, declarator .parenthesized true,
    attributedDeclarator, initDeclarator,
    name .plain, name .field, name .type, name .scope, name .destructor, name .operator,
    scopedName .qualified, scopedName .qualifiedType, scopedName .templateType,
    scopedName .templateFunction, scopedName .templateMethod,
    primitiveType, sizedType, dependentType, placeholderType, autoType,
    typeQualifier, storageClass]

/-- The kind with a given name. -/
def ofText (text : String) : Kind :=
  (known.find? (·.text == text)).getD (other text)

/-- A kind that was read from a name is written as that name. -/
@[simp] theorem text_ofText (text : String) : (ofText text).text = text := by
  unfold ofText
  cases found : known.find? (·.text == text) with
  | none => rfl
  | some kind => simpa using List.find?_some found

/-- Whether the node is a preprocessor conditional group. -/
def isConditional : Kind → Bool
  | conditional _ => true
  | _ => false

/-- Whether the node is a parameter. -/
def isParameter : Kind → Bool
  | parameter _ => true
  | _ => false

/-- Whether the node is a declarator that belongs to the result of a function inside it. -/
def wrapsResult : Kind → Bool
  | declarator .pointer false => true
  | declarator .reference false => true
  | attributedDeclarator => true
  | _ => false

/-- Whether the node specifies a type that opens a scope: a record or an enumeration. -/
def isScopedSpecifier : Kind → Bool
  | record _ => true
  | enumSpecifier => true
  | _ => false

end Kind

/-- The parts that a child plays in its parent, as far as they matter here. -/
inductive Role where
  | name
  | body
  | type
  | declarator
  | parameters
  | size
  | condition
deriving DecidableEq, Inhabited

namespace Role

/-- The name that the grammars give to a role. -/
def text : Role → String
  | name => "name"
  | body => "body"
  | type => "type"
  | declarator => "declarator"
  | parameters => "parameters"
  | size => "size"
  | condition => "condition"

/-- All roles. -/
def all : List Role := [name, body, type, declarator, parameters, size, condition]

/-- The role with a given name; names of other roles, and the empty one, stand for none. -/
def ofText? (text : String) : Option Role :=
  all.find? (·.text == text)

end Role

end DeclScope
