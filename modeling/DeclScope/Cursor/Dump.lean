import DeclScope.CType.Spelling
import DeclScope.Cursor.Access
import DeclScope.Cursor.Type
import DeclScope.Cursor.Usr

/-!
# Descriptions of cursors

A dump tells all that is known of a cursor, one fact a line.  It is written in fragments: the
label of a fact, its value in one or several parts, and the end of the line.  A sink with limited
room takes or refuses each fragment as a whole, so how a dump is cut into fragments can be
observed.
-/

namespace DeclScope.Cursor

/-- One line: a label and the parts of its value. -/
def dumpLine (label : String) (value : List String) : List String :=
  label :: value ++ ["\n"]

/-- The kind of a type, invalid for none. -/
def displayKind (type? : Option CType) : String :=
  ((type?.map CType.kind).getD .invalid).display

/-- The lines that say what the cursor is and is called. -/
def dumpIdentity (cursor : Cursor) : List (List String) :=
  let kind := cursor.kind
  [["CURSOR DUMP\n"],
    dumpLine "  Kind:          " [kind.display],
    dumpLine "    Declaration: " [Text.truth kind.isDeclaration],
    dumpLine "    Reference:   " [Text.truth kind.isReference],
    dumpLine "    Expression:  " [Text.truth kind.isExpression],
    dumpLine "    Statement:   " [Text.truth kind.isStatement],
    dumpLine "    Attribute:   " [Text.truth kind.isAttribute],
    dumpLine "    Invalid:     " [Text.truth kind.isInvalid],
    dumpLine "  Definition:    " [Text.truth cursor.isDefinition],
    dumpLine "  USR:           " [cursor.usr],
    dumpLine "  Spelling:      " [cursor.spelling],
    dumpLine "  Display Name:  " [cursor.displayName],
    dumpLine "  Location:      " cursor.location.fragments,
    dumpLine "  Access Level:  " [(cursor.access?.map AccessLevel.keyword).getD "none"]]

/-- The line that says how many elements an array has; a missing number is written in one part with
its label. -/
def dumpArraySize : Option Nat → List String
  | some size => dumpLine "    Array size:    " [size.repr]
  | none => ["    Array size:    -1\n"]

/-- The lines that say what type the cursor has. -/
def dumpType (type : CType) : List (List String) :=
  [["  Type:\n"],
    dumpLine "    Kind:          " [type.kind.display],
    dumpLine "    Spelling:      " [type.spelling],
    dumpLine "    Canonical:     " [type.canonical.kind.display],
    dumpLine "    Const:         " [Text.truth type.quals.isConst],
    dumpLine "    Volatile:      " [Text.truth type.quals.isVolatile],
    dumpLine "    Restrict:      " [Text.truth type.quals.isRestrict],
    dumpLine "    Pointee:       " [displayKind type.pointee?],
    dumpLine "    Result:        " [displayKind type.resultType?],
    dumpLine "    Array element: " [displayKind type.elementType?],
    dumpArraySize type.arraySize?]

/-- The fragments of the description of a cursor, in order. -/
def dumpFragments (cursor : Cursor) : List String :=
  (cursor.dumpIdentity ++ dumpType cursor.type ++
    [dumpLine "  # Children:    " [cursor.children.length.repr]]).flatten

/-- The description of a cursor. -/
def dump (cursor : Cursor) : String := String.join cursor.dumpFragments

end DeclScope.Cursor
