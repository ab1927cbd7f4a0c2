import DeclScope.Declaration.Basic
import Std.Data.HashMap

/-!
# The fields of a class

Fields are kept in the order of their first declaration, with an index from names to places.
Inserting a field whose name is taken replaces the one in that place: the last write wins and the
place is kept.
-/

namespace DeclScope

/-- Fields by name, in order of first declaration. -/
structure Fields where
  entries : Array Declaration := #[]
  /-- The place of each name. -/
  index : Std.HashMap String Nat := {}
deriving Inhabited

namespace Fields

/-- No fields. -/
def empty : Fields := {}

/-- The field with a given name. -/
def get? (fields : Fields) (name : String) : Option Declaration :=
  fields.index[name]?.bind (fields.entries[·]?)

/-- Whether there is a field with a given name. -/
def contains (fields : Fields) (name : String) : Bool := fields.index.contains name

/-- Insert a field under its name, and return the field that it replaces. -/
def insert (fields : Fields) (field : Declaration) : Option Declaration × Fields :=
  match fields.index[field.name]? with
  | some place =>
    (fields.entries[place]?, { fields with entries := fields.entries.setIfInBounds place field })
  | none =>
    (none, ⟨fields.entries.push field, fields.index.insert field.name fields.entries.size⟩)

/-- The fields in order. -/
def toList (fields : Fields) : List Declaration := fields.entries.toList

/-- The number of fields. -/
def size (fields : Fields) : Nat := fields.entries.size

/-- The names in order. -/
def names (fields : Fields) : List String := fields.toList.map (·.name)

/-- The fields as JSON, under their names. -/
def toJson (fields : Fields) : Json :=
  .obj (fields.toList.map fun field => (field.name, field.toJson))

end Fields

end DeclScope
