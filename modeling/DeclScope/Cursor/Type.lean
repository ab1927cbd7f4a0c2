import DeclScope.CType.Record
import DeclScope.Cursor.Name

/-!
# Types of cursors

A declaration has the type that it is written with, a typedef is a type of its own that stands for
one, a record or an enumeration names its own type, an enumerator has the type of its enumeration,
and a reference to a type has the type that it names.  Everything else has the invalid type.

The type is read as a tree or as a flat record; where it is written is the same for both.
-/

namespace DeclScope

/-- Where the type of a cursor is written. -/
inductive TypeSource where
  /-- In the declaration of a typedef, which stands for the declared type. -/
  | synonym
  /-- In the declaration, seen through a declarator. -/
  | declaration (declarator? : Option Node)
  | specifier (node : Node)
  | nowhere

namespace Cursor

/-- Where the type of what the cursor declares or names is written. -/
def typeSource (cursor : Cursor) : TypeSource :=
  match cursor.kind with
  | .typedefDecl => .synonym
  | .fieldDecl | .varDecl | .functionDecl | .method | .parameter =>
    .declaration (cursor.declarator?.or (cursor.node.childIn? .declarator))
  | .classDecl | .structDecl | .unionDecl | .enumDecl | .typeReference => .specifier cursor.node
  | .enumConstant =>
    match cursor.node.ancestors.find? (·.kind == .enumSpecifier) with
    | some enumeration => .specifier enumeration
    | none => .nowhere
  | _ => .nowhere

/-- The type of what the cursor declares or names. -/
def type (cursor : Cursor) : CType :=
  let source := cursor.unit.source
  match cursor.typeSource with
  | .synonym => .synonym cursor.spelling (.ofDeclaration source cursor.node cursor.declarator?)
  | .declaration declarator? => .ofDeclaration source cursor.node declarator?
  | .specifier node => .ofSpecifier source node
  | .nowhere => .invalid

/-- The type of what the cursor declares or names, as a flat record. -/
def typeRecord (cursor : Cursor) : TypeRecord :=
  let source := cursor.unit.source
  match cursor.typeSource with
  | .synonym => .synonym cursor.spelling (.ofDeclaration source cursor.node cursor.declarator?)
  | .declaration declarator? => .ofDeclaration source cursor.node declarator?
  | .specifier node => .ofSpecifier source node
  | .nowhere => .invalid

end Cursor

end DeclScope
