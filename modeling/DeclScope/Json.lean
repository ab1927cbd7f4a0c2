/-!
# JSON values and their text

A value is written in one of two layouts.  The compact one has no blanks.  The indented one puts
each member and element on a line of its own, two spaces deeper than what holds it; an empty object
or list stays on one line in both.

Text is escaped only where the format demands it: quotes, backslashes and the control characters
below the space.  Members keep the order in which they are given.
-/

namespace DeclScope

/-- A JSON value.  Whole numbers are kept apart from numbers written with a fraction. -/
inductive Json where
  | null
  | bool (value : Bool)
  | int (value : Int)
  /-- The number `mantissa / 10 ^ places`, written with `places` digits after the point. -/
  | decimal (mantissa : Int) (places : Nat)
  | str (text : String)
  | arr (elements : List Json)
  | obj (members : List (String × Json))
deriving Inhabited

namespace Json

/-- A natural number as a value. -/
def nat (n : Nat) : Json := .int n

/-- The member of an object with a given name. -/
def member? (name : String) : Json → Option Json
  | .obj members => (members.find? (·.1 == name)).map (·.2)
  | _ => none

/-- The text of a text value. -/
def text? : Json → Option String
  | .str text => some text
  | _ => none

/-- The name of a choice among several: a text, or an object whose only member has this name and
holds nothing. -/
def choice? : Json → Option String
  | .str text => some text
  | .obj [(name, .null)] => some name
  | _ => none

/-- The truth value of a Boolean. -/
def bool? : Json → Option Bool
  | .bool value => some value
  | _ => none

/-- The whole numbers that a 64-bit word without sign can hold. -/
def word? : Json → Option Nat
  | .int value => if 0 ≤ value && value.toNat < UInt64.size then some value.toNat else none
  | _ => none

/-- The values of a record: the members with the given names, or a list of just as many elements
in the same order.  Further members are ignored, further elements are not. -/
def record? (names : List String) : Json → Option (List Json)
  | .arr elements => if elements.length = names.length then some elements else none
  | value@(.obj _) => names.mapM fun name => value.member? name
  | _ => none

/-- A hexadecimal digit, in lower case. -/
def hexDigit (n : Nat) : Char := Nat.digitChar (n % 16)

/-- A character as it stands inside a JSON text. -/
def escapedChar (c : Char) : List Char :=
  if c = '"' then ['\\', '"']
  else if c = '\\' then ['\\', '\\']
  else if c = '\n' then ['\\', 'n']
  else if c = '\t' then ['\\', 't']
  else if c = '\r' then ['\\', 'r']
  else if c.toNat = 8 then ['\\', 'b']
  else if c.toNat = 12 then ['\\', 'f']
  else if c.toNat < 0x20 then ['\\', 'u', '0', '0', hexDigit (c.toNat / 16), hexDigit c.toNat]
  else [c]

/-- A text between quotes, escaped. -/
def quote (text : String) : String :=
  String.ofList ('"' :: (text.toList.flatMap escapedChar ++ ['"']))

/-- The decimal form of a whole number. -/
def intText : Int → String
  | .ofNat n => n.repr
  | .negSucc n => "-" ++ (n + 1).repr

/-- The decimal form of a number with a fraction. -/
def decimalText (mantissa : Int) (places : Nat) : String :=
  let digits := (Nat.toDigits 10 mantissa.natAbs).leftpad (places + 1) '0'
  let whole := digits.length - places
  (if mantissa < 0 then "-" else "") ++ String.ofList (digits.take whole) ++ "." ++
    String.ofList (digits.drop whole)

/-- How a value is laid out: without blanks, or over lines. -/
inductive Layout where
  | compact
  | indented
deriving DecidableEq, Inhabited

namespace Layout

/-- What stands before an item, or before the bracket that closes a block, at a given depth. -/
def lineStart (depth : Nat) : Layout → String
  | compact => ""
  | indented => "\n" ++ String.ofList (List.replicate (2 * depth) ' ')

/-- What stands between the name of a member and its value. -/
def colon : Layout → String
  | compact => ":"
  | indented => ": "

/-- Items between two brackets, or the brackets alone; the brackets are at a given depth. -/
def block (layout : Layout) (opening closing : String) (depth : Nat) : List String → String
  | [] => opening ++ closing
  | items =>
    opening ++ ",".intercalate (items.map (layout.lineStart (depth + 1) ++ ·)) ++
      layout.lineStart depth ++ closing

end Layout

mutual

/-- The text of a value, its first line at a given depth. -/
def textAt (layout : Layout) (depth : Nat) : Json → String
  | .null => "null"
  | .bool value => if value then "true" else "false"
  | .int value => intText value
  | .decimal mantissa places => decimalText mantissa places
  | .str text => quote text
  | .arr elements => layout.block "[" "]" depth (elementTexts layout (depth + 1) elements)
  | .obj members => layout.block "\x7b" "\x7d" depth (memberTexts layout (depth + 1) members)

/-- The texts of the elements of a list. -/
def elementTexts (layout : Layout) (depth : Nat) : List Json → List String
  | [] => []
  | value :: rest => textAt layout depth value :: elementTexts layout depth rest

/-- The texts of the members of an object. -/
def memberTexts (layout : Layout) (depth : Nat) : List (String × Json) → List String
  | [] => []
  | (name, value) :: rest =>
    (quote name ++ layout.colon ++ textAt layout depth value) :: memberTexts layout depth rest

end

/-- The text of a value. -/
def write (layout : Layout) (value : Json) : String := textAt layout 0 value

/-- The text of a value without blanks. -/
def compact (value : Json) : String := value.write .compact

end Json

end DeclScope
