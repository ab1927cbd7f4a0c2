import DeclScope.Cursor.Name

/-!
# Unified symbol resolution

The USR of a cursor identifies what it declares across units: `c:`, then a segment for each
enclosing namespace, record and enumeration from the outside in, then the cursor's own segment.
Scopes without a name are told apart by where they start.  A namespace written `a::b` has a
segment for each part, so it is the same scope as `b` nested in `a`.

Cursors that do not declare anything with a name that others could use have the empty USR.
-/

namespace DeclScope

namespace Usr

/-- The parts of a name between double colons. -/
def scopeParts : List Char → List (List Char)
  | [] => [[]]
  | ':' :: ':' :: rest => [] :: scopeParts rest
  | c :: rest =>
    match scopeParts rest with
    | [] => [[c]]
    | part :: others => (c :: part) :: others

/-- The segment of a namespace. -/
def namespaceSegment (name : String) (start : Nat) : String :=
  if name = "" then "@aN@" ++ start.repr
  else String.join ((scopeParts name.toList).map fun part =>
    "@N@" ++ String.ofList (Text.trimmed part))

/-- The segment of a record or an enumeration. -/
def recordSegment (tag name : String) (start : Nat) : String :=
  if name = "" then "@" ++ tag ++ "a@" ++ start.repr else "@" ++ tag ++ "@" ++ name

end Usr

/-- The letter for a record. -/
def RecordKey.tag : RecordKey → String
  | .classKey => "S"
  | .structKey => "S"
  | .unionKey => "U"

namespace TranslationUnit

/-- The name of an enclosing record or enumeration. -/
def scopeName (unit : TranslationUnit) (scope : Node) : String :=
  (((scope.childIn? .name).bind Node.declaredName?).map unit.text).getD ""

/-- The segment that an enclosing node adds: only namespaces, records and enumerations add one. -/
def scopeSegment (unit : TranslationUnit) (scope : Node) : String :=
  match scope.kind with
  | .namespaceDefinition =>
    Usr.namespaceSegment (((scope.childIn? .name).map unit.text).getD "") scope.start
  | .record key => Usr.recordSegment key.tag (unit.scopeName scope) scope.start
  | .enumSpecifier => Usr.recordSegment "E" (unit.scopeName scope) scope.start
  | _ => ""

/-- The segments of the scopes around a node, from the outside in. -/
def scopeSegments (unit : TranslationUnit) (node : Node) : String :=
  String.join (node.ancestors.reverse.map unit.scopeSegment)

end TranslationUnit

namespace Cursor

/-- The segment of what the cursor itself declares. -/
def segment? (cursor : Cursor) : Option String :=
  match cursor.kind with
  | .namespaceScope => some (Usr.namespaceSegment cursor.spelling cursor.node.start)
  | .classDecl | .structDecl => some (Usr.recordSegment "S" cursor.spelling cursor.node.start)
  | .unionDecl => some (Usr.recordSegment "U" cursor.spelling cursor.node.start)
  | .enumDecl => some (Usr.recordSegment "E" cursor.spelling cursor.node.start)
  | .fieldDecl => some ("@FI@" ++ cursor.spelling)
  | .functionDecl | .method => some ("@F@" ++ cursor.spelling ++ "#")
  | .typedefDecl => some ("@T@" ++ cursor.spelling)
  | .varDecl | .enumConstant => some ("@" ++ cursor.spelling)
  | _ => none

/-- The USR of what the cursor declares, empty when it declares nothing of that sort. -/
def usr (cursor : Cursor) : String :=
  match cursor.segment? with
  | some segment => "c:" ++ cursor.unit.scopeSegments cursor.node ++ segment
  | none => ""

end Cursor

end DeclScope
