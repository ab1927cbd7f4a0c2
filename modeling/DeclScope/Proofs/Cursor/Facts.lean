import DeclScope.Cursor.Dump

/-!
# The facts in the description of a cursor

The description of a cursor is a heading and one line for each fact.  Facts about the cursor are two
spaces deep and those about its kind and its type four; a label ends with a colon, and the values
begin in one column, those of the type two places further to the right.
-/

namespace DeclScope

/-- A label and a value in one line of a description. -/
structure Fact where
  depth : Nat
  /-- The column in which the value begins. -/
  column : Nat
  label : String
  value : String

namespace Fact

/-- What stands before the value: the label at its depth, filled up to the column. -/
def start (depth column : Nat) (label : String) : String :=
  String.ofList <|
    (List.replicate (2 * depth) ' ' ++ label.toList ++ [':']).rightpad column ' '

/-- The line that says the fact. -/
def line (fact : Fact) : String :=
  start fact.depth fact.column fact.label ++ fact.value ++ "\n"

end Fact

namespace Cursor

/-- What a description says of a cursor. -/
def facts (cursor : Cursor) : List Fact :=
  let kind := cursor.kind
  let location := cursor.location
  let type := cursor.type
  [⟨1, 17, "Kind", kind.display⟩,
    ⟨2, 17, "Declaration", Text.truth kind.isDeclaration⟩,
    ⟨2, 17, "Reference", Text.truth kind.isReference⟩,
    ⟨2, 17, "Expression", Text.truth kind.isExpression⟩,
    ⟨2, 17, "Statement", Text.truth kind.isStatement⟩,
    ⟨2, 17, "Attribute", Text.truth kind.isAttribute⟩,
    ⟨2, 17, "Invalid", Text.truth kind.isInvalid⟩,
    ⟨1, 17, "Definition", Text.truth cursor.isDefinition⟩,
    ⟨1, 17, "USR", cursor.usr⟩,
    ⟨1, 17, "Spelling", cursor.spelling⟩,
    ⟨1, 17, "Display Name", cursor.displayName⟩,
    ⟨1, 17, "Location", location.file ++ ":" ++ location.line.repr ++ "[" ++
      location.column.repr ++ "] (" ++ location.offset.repr ++ ")"⟩,
    ⟨1, 17, "Access Level", (cursor.access?.map AccessLevel.keyword).getD "none"⟩,
    ⟨1, 0, "Type", ""⟩,
    ⟨2, 19, "Kind", type.kind.display⟩,
    ⟨2, 19, "Spelling", type.spelling⟩,
    ⟨2, 19, "Canonical", type.canonical.kind.display⟩,
    ⟨2, 19, "Const", Text.truth type.quals.isConst⟩,
    ⟨2, 19, "Volatile", Text.truth type.quals.isVolatile⟩,
    ⟨2, 19, "Restrict", Text.truth type.quals.isRestrict⟩,
    ⟨2, 19, "Pointee", displayKind type.pointee?⟩,
    ⟨2, 19, "Result", displayKind type.resultType?⟩,
    ⟨2, 19, "Array element", displayKind type.elementType?⟩,
    ⟨2, 19, "Array size", (type.arraySize?.map Nat.repr).getD "-1"⟩,
    ⟨1, 17, "# Children", cursor.children.length.repr⟩]

/-- A text that is joined from parts in lines is joined from the lines. -/
theorem join_flatten (lines : List (List String)) :
    String.join lines.flatten = String.join (lines.map String.join) := by
  induction lines with
  | nil => rfl
  | cons line lines inductionHypothesis =>
    rw [List.flatten_cons, String.join_append, inductionHypothesis, List.map_cons, String.join_cons]

/-- A text that is joined from one part is this part. -/
theorem join_singleton (text : String) : String.join [text] = text := by
  rw [String.join_cons, String.join_nil, String.append_empty]

/-- A line of a description is its label, its value and the end of the line. -/
theorem join_dumpLine (label : String) (value : List String) :
    String.join (dumpLine label value) = label ++ String.join value ++ "\n" := by
  rw [dumpLine, List.cons_append, String.join_cons, String.join_append, join_singleton,
    String.append_assoc]

/-- The number of elements of an array is said in one way, whether it is known or not. -/
theorem join_dumpArraySize (size? : Option Nat) :
    String.join (dumpArraySize size?) =
      "    Array size:    " ++ (size?.map Nat.repr).getD "-1" ++ "\n" := by
  cases size? with
  | none => decide +kernel
  | some size =>
    rw [dumpArraySize, join_dumpLine, join_singleton]
    rfl

/-- A location is said by its file, its line, its column and its offset. -/
theorem join_fragments (location : Location) :
    String.join location.fragments =
      location.file ++ ":" ++ location.line.repr ++ "[" ++ location.column.repr ++ "] (" ++
        location.offset.repr ++ ")" := by
  simp only [Location.fragments, String.join_cons, String.join_nil, String.append_assoc,
    String.append_empty]

/-- What stands before the values in a description. -/
theorem starts_facts (cursor : Cursor) :
    cursor.facts.map (fun fact => Fact.start fact.depth fact.column fact.label) =
      ["  Kind:          ", "    Declaration: ", "    Reference:   ", "    Expression:  ",
        "    Statement:   ", "    Attribute:   ", "    Invalid:     ", "  Definition:    ",
        "  USR:           ", "  Spelling:      ", "  Display Name:  ", "  Location:      ",
        "  Access Level:  ", "  Type:", "    Kind:          ", "    Spelling:      ",
        "    Canonical:     ", "    Const:         ", "    Volatile:      ",
        "    Restrict:      ", "    Pointee:       ", "    Result:        ",
        "    Array element: ", "    Array size:    ", "  # Children:    "] := by
  simp only [facts, List.map_cons, List.map_nil]
  decide +kernel

/-- The description of a cursor is a heading and the lines of its facts. -/
theorem dump_eq (cursor : Cursor) :
    cursor.dump = "CURSOR DUMP\n" ++ String.join (cursor.facts.map Fact.line) := by
  have lines : cursor.facts.map Fact.line =
      List.zipWith (fun start value => start ++ value ++ "\n")
        (cursor.facts.map fun fact => Fact.start fact.depth fact.column fact.label)
        (cursor.facts.map Fact.value) := by
    rw [List.zipWith_map, List.zipWith_self]
    rfl
  rw [dump, dumpFragments, join_flatten, lines, starts_facts, ← String.join_cons]
  have heading : "  Type:" ++ "" ++ "\n" = "  Type:\n" := by decide +kernel
  congr 1
  simp only [facts, dumpIdentity, dumpType, List.map_cons, List.map_nil, join_dumpLine,
    join_singleton, join_dumpArraySize, List.cons_append, List.nil_append, List.zipWith_cons_cons,
    List.zipWith_nil_left, heading, join_fragments]

end Cursor

end DeclScope
