import DeclScope.Cursor.Basic

/-!
# Access to members

A member of a record has the access level of the closest marker before it in the body.  Without such
a marker the members of a class are private and those of a struct or union are public.  Outside
record bodies there is no access level.
-/

namespace DeclScope

/-- Who may use a member. -/
inductive AccessLevel where
  | everyone
  | derivedOnly
  | selfOnly
deriving DecidableEq, Inhabited

namespace AccessLevel

/-- The keyword of a level. -/
def keyword : AccessLevel → String
  | everyone => "public"
  | derivedOnly => "protected"
  | selfOnly => "private"

/-- The level that a marker names. -/
def ofKeyword? (text : String) : Option AccessLevel :=
  [everyone, derivedOnly, selfOnly].find? (·.keyword == Text.trim text)

/-- The level of members before the first marker. -/
def initial (record : Node) : AccessLevel :=
  if record.kind = .record .classKey then selfOnly else everyone

end AccessLevel

namespace Cursor

/-- The access level of a member; that of a marker is the one it names. -/
def access? (cursor : Cursor) : Option AccessLevel :=
  if cursor.node.kind = .accessMarker then
    AccessLevel.ofKeyword? (cursor.unit.text cursor.node)
  else
    cursor.node.member?.bind fun (member, list) =>
      match member.namedSiblingsBefore.find? (·.kind == .accessMarker) with
      | some marker => AccessLevel.ofKeyword? (cursor.unit.text marker)
      | none => list.parent?.map AccessLevel.initial

end Cursor

end DeclScope
