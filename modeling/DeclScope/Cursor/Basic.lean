import DeclScope.Cursor.Kind
import DeclScope.TranslationUnit

/-!
# Cursors

A cursor is an item of a translation unit.  Its children are the items right below it, in the same
unit.  Each child is anchored at a smaller tree, so every descent through children ends.
-/

namespace DeclScope

/-- An item of a translation unit. -/
structure Cursor extends Item where
  unit : TranslationUnit
deriving Inhabited

namespace TranslationUnit

/-- The cursor at the root of a unit. -/
def cursor (unit : TranslationUnit) : Cursor := ⟨⟨unit.root, none⟩, unit⟩

end TranslationUnit

namespace Cursor

/-- The part that the cursor plays in its program. -/
def kind (cursor : Cursor) : CursorKind := cursor.toItem.kind

/-- The cursors right below. -/
def children (cursor : Cursor) : List Cursor :=
  cursor.toItem.children.map (⟨·, cursor.unit⟩)

/-- The size of the tree at which a cursor is anchored. -/
def size (cursor : Cursor) : Nat := cursor.anchor.tree.size

/-- A child is anchored at a smaller tree. -/
theorem size_lt_of_mem_children {child cursor : Cursor} (mem : child ∈ cursor.children) :
    child.size < cursor.size := by
  obtain ⟨item, inside, rfl⟩ := List.mem_map.1 mem
  exact Item.size_lt_of_mem_children inside

/-- The cursor that is reached by following indices of children. -/
def descend? : Cursor → List Nat → Option Cursor
  | cursor, [] => some cursor
  | cursor, index :: rest => cursor.children[index]?.bind (·.descend? rest)

/-- The source text of a cursor: from the start of its node to the end of its anchor. -/
def text (cursor : Cursor) : String :=
  cursor.unit.source.slice cursor.node.start cursor.anchor.stop

/-- Where a cursor starts and where it ends. -/
def extent (cursor : Cursor) : Location × Location :=
  (cursor.unit.location cursor.node.start, cursor.unit.location cursor.anchor.stop)

/-- Whether an occurrence defines what it names in full.  A static data member is only declared in
the body of its class. -/
def isDefinition (cursor : Cursor) : Bool :=
  match cursor.kind with
  | .classDecl | .structDecl | .unionDecl | .enumDecl => (cursor.node.childIn? .body).isSome
  | .functionDecl | .method =>
    cursor.declarator?.isNone && cursor.node.kind == .functionDefinition
  | .namespaceScope | .fieldDecl | .enumConstant | .typedefDecl => true
  | .varDecl => cursor.node.kind != .memberDeclaration && !cursor.node.hasStorageClass "extern"
  | _ => false

end Cursor

end DeclScope
