import DeclScope.Declaration.Fields
import DeclScope.Log

/-!
# Class definitions

A class definition is the declaration of a class with its fields: the data members right in its
body, and not those of types nested in it.  A name that is declared twice keeps its first place
and its last declaration; each such case is worth a warning.
-/

namespace DeclScope

/-- A class and its fields. -/
structure ClassDefinition where
  declaration : Declaration
  fields : Fields
deriving Inhabited

namespace ClassDefinition

/-- The class that a cursor declares, without fields. -/
def ofCursor (cursor : Cursor) : ClassDefinition := ⟨.ofCursor cursor, .empty⟩

/-- Whether two definitions are of the same class. -/
def isSameEntity (a b : ClassDefinition) : Bool := a.declaration.isSameEntity b.declaration

/-- The warning for a field that is replaced. -/
def duplicateWarning (definition : ClassDefinition) (previous : Declaration) : LogRecord :=
  ⟨.warn, "Duplicate field name, keeping the last declaration",
    [("class", definition.declaration.usr), ("field", previous.name),
      ("previous", previous.start.describe)]⟩

/-- Add a field, with a warning if its name is taken. -/
def addField (state : ClassDefinition × List LogRecord) (field : Declaration) :
    ClassDefinition × List LogRecord :=
  let (previous?, fields) := state.1.fields.insert field
  ({ state.1 with fields }, state.2 ++ previous?.toList.map state.1.duplicateWarning)

/-- The data members among the cursors that a walk visits at level zero. -/
def fieldCursors (visits : List Visit) : List Cursor :=
  (visits.filter fun (cursor, level) => level == 0 && cursor.kind == .fieldDecl).map (·.1)

/-- The class that a cursor defines, with its fields, and the warnings on the way. -/
def expand (cursor : Cursor) : ClassDefinition × List LogRecord :=
  ((fieldCursors cursor.childWalk).map Declaration.ofCursor).foldl addField (ofCursor cursor, [])

/-- A class definition as JSON. -/
def toJson (definition : ClassDefinition) : Json :=
  .obj (("kind", .str "class") :: definition.declaration.members ++
    [("fields", definition.fields.toJson)])

end ClassDefinition

end DeclScope
