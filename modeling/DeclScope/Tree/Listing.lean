import DeclScope.Tree.Basic

/-!
# Listings of syntax trees

A front end can hand over a tree as a text: one node a line, in preorder.  A line holds the name
of the kind, the name of the role, the two offsets, the marks and the number of children,
separated by tabs.  The marks are one number: one for a named node, two for a missing one, four
for a damaged one. In the names a tab, a line feed and a backslash are written with a backslash in
front.
-/

namespace DeclScope.Tree

/-- A name in a listing, read back. -/
def unescaped : List Char → List Char
  | '\\' :: 'n' :: rest => '\n' :: unescaped rest
  | '\\' :: 't' :: rest => '\t' :: unescaped rest
  | '\\' :: '\\' :: rest => '\\' :: unescaped rest
  | c :: rest => c :: unescaped rest
  | [] => []

/-- The marks of a node as one number. -/
def marked (kind : Kind) (role : Option Role) (start stop marks : Nat) : Label :=
  ⟨kind, role, start, stop, marks % 2 == 1, marks / 2 % 2 == 1, marks / 4 % 2 == 1⟩

/-- One line of a listing. -/
def entryOfLine? (line : String) : Option Entry :=
  match line.splitOn "\t" with
  | [kind, role, start, stop, marks, count] => do
    return (marked (.ofText (String.ofList (unescaped kind.toList))) (Role.ofText? role)
      (← start.toNat?) (← stop.toNat?) (← marks.toNat?), ← count.toNat?)
  | _ => none

/-- The tree of a listing. -/
def ofListing? (text : String) : Option Tree :=
  (((text.splitOn "\n").filter (· != "")).mapM entryOfLine?).bind ofPreorder?

end DeclScope.Tree
