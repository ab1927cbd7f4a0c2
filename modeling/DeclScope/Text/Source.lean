/-!
# Source text addressed by byte offsets

A syntax tree points into its source by byte offsets of the UTF-8 form.  The source itself is kept
as a list of characters, and offsets are followed by walking that list, so that every cut falls
between two characters: an offset inside a character, or past the end, cuts nothing.

Positions count from zero.  The row of an offset is the number of line feeds before it, its column
the number of bytes since the last of them.  A carriage return is an ordinary character.
-/

namespace DeclScope

/-- The text of one source, character by character. -/
structure Source where
  /-- The characters in order. -/
  chars : List Char
deriving DecidableEq, Inhabited

/-- A row and a column, both counted from zero, the column in bytes. -/
structure Position where
  row : Nat
  column : Nat
deriving DecidableEq, Inhabited

namespace Text

/-- The number of bytes of the UTF-8 form. -/
def byteSize : List Char → Nat
  | [] => 0
  | c :: cs => c.utf8Size + byteSize cs

/-- What is left after the first `n` bytes, when they are whole characters. -/
def dropBytes? : Nat → List Char → Option (List Char)
  | 0, cs => some cs
  | _ + 1, [] => none
  | n + 1, c :: cs => if c.utf8Size ≤ n + 1 then dropBytes? (n + 1 - c.utf8Size) cs else none

/-- The first `n` bytes, when they are whole characters. -/
def takeBytes? : Nat → List Char → Option (List Char)
  | 0, _ => some []
  | _ + 1, [] => none
  | n + 1, c :: cs =>
    if c.utf8Size ≤ n + 1 then (takeBytes? (n + 1 - c.utf8Size) cs).map (c :: ·) else none

/-- The bytes from `start` up to `stop`, when both fall between characters. -/
def slice? (cs : List Char) (start stop : Nat) : Option (List Char) :=
  if start ≤ stop then (dropBytes? start cs).bind (takeBytes? (stop - start)) else none

/-- Follow an offset from a position, one character at a time. -/
def advance (here : Position) : Nat → List Char → Position
  | offset, [] => ⟨here.row, here.column + offset⟩
  | offset, c :: cs =>
    if offset < c.utf8Size then ⟨here.row, here.column + offset⟩
    else if c = '\n' then advance ⟨here.row + 1, 0⟩ (offset - c.utf8Size) cs
    else advance ⟨here.row, here.column + c.utf8Size⟩ (offset - c.utf8Size) cs

end Text

namespace Source

/-- The source with the given text. -/
def ofString (text : String) : Source := ⟨text.toList⟩

/-- The number of bytes of the source. -/
def byteSize (source : Source) : Nat := Text.byteSize source.chars

/-- The text between two offsets; empty when they do not cut whole characters. -/
def slice (source : Source) (start stop : Nat) : String :=
  String.ofList ((Text.slice? source.chars start stop).getD [])

/-- The row and column of an offset. -/
def position (source : Source) (offset : Nat) : Position :=
  Text.advance ⟨0, 0⟩ offset source.chars

end Source

end DeclScope
