import DeclScope.Cursor.Usr
import DeclScope.Cursor.Walk

/-!
# Declarations

A declaration keeps what identifies an entity and where it stands, taken from one cursor.  Two
declarations are of the same entity when their USRs agree, wherever they stand and however they are
named.
-/

namespace DeclScope

/-- The identity and the extent of a declared entity. -/
structure Declaration where
  /-- The display name. -/
  name : String
  spelling : String
  usr : String
  start : Location
  stop : Location
deriving DecidableEq, Inhabited

namespace Declaration

/-- What a cursor declares. -/
def ofCursor (cursor : Cursor) : Declaration :=
  ⟨cursor.displayName, cursor.spelling, cursor.usr, cursor.extent.1, cursor.extent.2⟩

/-- Whether two declarations are of the same entity. -/
def isSameEntity (a b : Declaration) : Bool := a.usr == b.usr

/-- The members of a declaration as JSON. -/
def members (declaration : Declaration) : List (String × Json) :=
  [("name", .str declaration.name), ("spelling", .str declaration.spelling),
    ("usr", .str declaration.usr), ("start_location", declaration.start.toJson),
    ("end_location", declaration.stop.toJson)]

/-- A declaration as JSON. -/
def toJson (declaration : Declaration) : Json := .obj declaration.members

/-- All declarations of a unit, in the order of the child walk. -/
def ofUnit (unit : TranslationUnit) : List Declaration :=
  (unit.cursor.childWalk.filter fun (cursor, _) => cursor.kind.isDeclaration).map
    fun (cursor, _) => ofCursor cursor

/-- The number of different entities. -/
def countEntities (declarations : List Declaration) : Nat :=
  (declarations.map (·.usr)).eraseDups.length

/-- Two declarations of the same entity, given by their places in two lists. -/
structure Match where
  left : Nat
  right : Nat
  usr : String
  /-- Whether the display names agree as well. -/
  sameName : Bool
  /-- Whether the left one starts no later than the right one ends. -/
  startsBefore : Bool
deriving DecidableEq, Inhabited

/-- All pairs of declarations of the same entity, the left list being the outer loop. -/
def matchAll (left right : List Declaration) : List Match :=
  left.zipIdx.flatMap fun (a, i) =>
    right.zipIdx.filterMap fun (b, j) =>
      if a.isSameEntity b then
        some ⟨i, j, a.usr, a.name == b.name, a.start.isBefore b.stop⟩
      else none

end Declaration

end DeclScope
