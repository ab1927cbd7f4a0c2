import DeclScope.Input
import DeclScope.Text.Path

/-!
# A working directory

A directory is a set of files and directories, each under the names that lead to it from the top.
A directory also exists where something lies below it.

A path is followed name by name.  Only a directory can be left by a further step, even by the step
to the parent, so `a/../b` needs a directory `a`, and putting something there makes one.  The step
to the parent at the top leads outside, where there are directories, but none whose contents are
known; nothing is put there.
-/

namespace DeclScope

/-- What lies at a place. -/
inductive DirectoryEntry where
  | file (bytes : List UInt8)
  | directory
deriving DecidableEq, Inhabited

/-- The entries of a working directory by the names that lead to them. -/
structure Directory where
  entries : List (List String × DirectoryEntry) := []
deriving DecidableEq, Inhabited

namespace Directory

/-- What lies at a place that is given by the names that lead to it. -/
def entry? (directory : Directory) (names : List String) : Option DirectoryEntry :=
  match directory.entries.find? (·.1 == names) with
  | some (_, entry) => some entry
  | none =>
    if names.isEmpty || directory.entries.any (names.isPrefixOf ·.1) then some .directory else none

/-- Where a path can lead. -/
inductive Place where
  /-- Below the top; the names are those that lead there, the last one first. -/
  | inside (names : List String)
  | outside
deriving DecidableEq, Inhabited

/-- The place that a name leads to, whatever lies there. -/
def Place.next (place : Place) (name : String) : Place :=
  match place with
  | .outside => .outside
  | .inside names =>
    if name = ".." then
      match names with
      | [] => .outside
      | _ :: above => .inside above
    else .inside (name :: names)

/-- The place where a path starts. -/
def Place.start (path : String) : Place :=
  if Path.isAbsolute path then .outside else .inside []

/-- Take one step of a path, if a directory lies at the place. -/
def step? (directory : Directory) (place : Place) (name : String) : Option Place :=
  match place with
  | .outside => if name = ".." then some .outside else none
  | .inside names =>
    if directory.entry? names.reverse = some .directory then some (place.next name) else none

/-- Whether a path can lead only to a directory: it ends in a slash or in a single dot. -/
def namesDirectory (path : String) : Bool :=
  match path.toList.reverse with
  | '/' :: _ => true
  | '.' :: '/' :: _ => true
  | ['.'] => true
  | _ => false

/-- What there is at a path. -/
def status (directory : Directory) : Files := fun path =>
  if path = "" || path.toList.any (·.toNat == 0) then .missing
  else
    match (Path.parts path).foldlM directory.step? (Place.start path) with
    | none => .missing
    | some .outside => .directory
    | some (.inside names) =>
      match directory.entry? names.reverse with
      | none => .missing
      | some .directory => .directory
      | some (.file bytes) => if namesDirectory path then .missing else .file bytes

/-- Make a directory at a place below the top where nothing lies yet. -/
def makeAt (directory : Directory) : Place → Directory
  | .outside => directory
  | .inside names =>
    if (directory.entry? names.reverse).isSome then directory
    else ⟨directory.entries ++ [(names.reverse, .directory)]⟩

/-- Follow a path and make a directory wherever it leads: the directory then, and the place where
the path ends.  A directory that the path leaves again is made all the same. -/
def follow (directory : Directory) (place : Place) : List String → Directory × Place
  | [] => (directory, place)
  | name :: rest => follow (directory.makeAt (place.next name)) (place.next name) rest

/-- Put a file at a place below the top, instead of what is there. -/
def putAt (directory : Directory) (bytes : List UInt8) : Place → Directory
  | .outside => directory
  | .inside names =>
    ⟨directory.entries.filter (·.1 != names.reverse) ++ [(names.reverse, .file bytes)]⟩

/-- Put an entry at a path, with all directories on the way. -/
def put (directory : Directory) (path : String) (entry : DirectoryEntry) : Directory :=
  let parts := Path.parts path
  match entry with
  | .directory => (directory.follow (Place.start path) parts).1
  | .file bytes =>
    let (directory, place) := directory.follow (Place.start path) parts.dropLast
    match parts.getLast? with
    | some name => directory.putAt bytes (place.next name)
    | none => directory

end Directory

end DeclScope
