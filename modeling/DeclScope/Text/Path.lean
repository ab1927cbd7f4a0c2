/-!
# File paths

A path is cut at slashes.  Empty parts and single dots say nothing and are left out, so a trailing
slash or a trailing `/.` does not hide the name before it.  The file name is the last part, unless
that is the step to the parent.  The extension is what follows the last dot of the file name; a name
whose only dot comes first has none.
-/

namespace DeclScope.Path

/-- The parts of a path that name something, in order. -/
def parts (path : String) : List String :=
  (path.splitOn "/").filter fun part => part != "" && part != "."

/-- Whether a path starts at the root. -/
def isAbsolute (path : String) : Bool :=
  path.toList.head? == some '/'

/-- The last part of a path, unless it is the step to the parent. -/
def fileName? (path : String) : Option String :=
  (parts path).getLast?.filter (· != "..")

/-- The characters after the last dot, when something stands before that dot. -/
def extensionOf? (name : List Char) : Option (List Char) :=
  let back := name.reverse
  match back.dropWhile (· != '.') with
  | _ :: _ :: _ => some (back.takeWhile (· != '.')).reverse
  | _ => none

/-- The extension of the file name of a path. -/
def extension? (path : String) : Option String :=
  (fileName? path).bind fun name => (extensionOf? name.toList).map String.ofList

end DeclScope.Path
