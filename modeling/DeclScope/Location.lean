import DeclScope.Json
import DeclScope.Text.Source

/-!
# Places in a source file

A location names a file, a line and a column, both counted from one and the column in bytes, and the
offset in bytes.  Locations are ordered by file name, then line, then column, then offset.  File
names compare by code points, which is also the order of their UTF-8 bytes.
-/

namespace DeclScope

/-- A place in a source file. -/
structure Location where
  file : String
  line : Nat
  column : Nat
  offset : Nat
deriving DecidableEq, Inhabited

namespace Location

/-- The place of an offset in a source. -/
def ofOffset (file : String) (source : Source) (offset : Nat) : Location :=
  let position := source.position offset
  ⟨file, position.row + 1, position.column + 1, offset⟩

/-- The order of locations. -/
def order (a b : Location) : Ordering :=
  (compare a.file b.file).then <| (compare a.line b.line).then <|
    (compare a.column b.column).then (compare a.offset b.offset)

/-- Whether a location comes no later than another. -/
def isBefore (a b : Location) : Bool := order a b != .gt

/-- The parts in which a location is written out. -/
def fragments (location : Location) : List String :=
  [location.file, ":", location.line.repr, "[", location.column.repr, "] (",
    location.offset.repr, ")"]

/-- A location as it is shown to people. -/
def describe (location : Location) : String := String.join location.fragments

/-- A location as JSON. -/
def toJson (location : Location) : Json :=
  .obj [("file", .str location.file), ("line", .nat location.line),
    ("column", .nat location.column), ("offset", .nat location.offset)]

/-- A location from JSON: an object with all four members, or a list of the four values. -/
def ofJson? (value : Json) : Option Location :=
  match value.record? ["file", "line", "column", "offset"] with
  | some [file, line, column, offset] => do
    return ⟨← file.text?, ← line.word?, ← column.word?, ← offset.word?⟩
  | _ => none

/-- Several locations from a JSON list. -/
def listOfJson? : Json → Option (List Location)
  | .arr elements => elements.mapM ofJson?
  | _ => none

/-- Locations in increasing order. -/
def sort (locations : List Location) : List Location :=
  locations.mergeSort isBefore

/-- The order of each location and the one after it. -/
def neighbourOrders : List Location → List Ordering
  | a :: b :: rest => order a b :: neighbourOrders (b :: rest)
  | _ => []

/-- The number of different locations. -/
def countDistinct (locations : List Location) : Nat :=
  locations.eraseDups.length

end Location

end DeclScope
