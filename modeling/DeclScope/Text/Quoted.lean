import DeclScope.Text.Shown

/-!
# Quoted text

A text is quoted between double quotes.  The quote and the backslash get a backslash in front; the
null character, tab, line feed and carriage return are written by a letter; any other character
that is not shown as itself is written by its code point in hexadecimal between braces.

Lists and optional values of quoted texts, and records with named fields, are written on one line.
-/

namespace DeclScope.Text

/-- A character as it is written between quotes. -/
def quotedChar (c : Char) : List Char :=
  if c = '"' then ['\\', '"']
  else if c = '\\' then ['\\', '\\']
  else if c = '\n' then ['\\', 'n']
  else if c = '\t' then ['\\', 't']
  else if c = '\r' then ['\\', 'r']
  else if c.toNat = 0 then ['\\', '0']
  else if isShown c then [c]
  else ['\\', 'u', '\x7b'] ++ Nat.toDigits 16 c.toNat ++ ['\x7d']

/-- A text between double quotes. -/
def quoted (text : String) : String :=
  String.ofList ('"' :: (text.toList.flatMap quotedChar ++ ['"']))

/-- A list of written values. -/
def listed (items : List String) : String :=
  "[" ++ ", ".intercalate items ++ "]"

/-- A list of texts, each quoted. -/
def quotedList (texts : List String) : String :=
  listed (texts.map quoted)

/-- An optional written value. -/
def optional : Option String → String
  | none => "None"
  | some item => "Some(" ++ item ++ ")"

/-- A record with named fields, written on one line. -/
def record (name : String) (fields : List (String × String)) : String :=
  name ++ " \x7b " ++ ", ".intercalate (fields.map fun (field, value) => field ++ ": " ++ value) ++
    " \x7d"

/-- The word for a truth value. -/
def truth (b : Bool) : String := if b then "true" else "false"

end DeclScope.Text
