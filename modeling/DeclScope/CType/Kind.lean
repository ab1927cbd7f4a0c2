/-!
# Kinds of types

The built-in arithmetic types have a kind each, found from the keywords that spell them: which words
occur decides, not their order.  Derived types have a kind per way of deriving.  Names that are not
looked up stay *elaborated*, and names of the standard library that the grammar treats as built in,
such as `size_t`, count as typedefs.
-/

namespace DeclScope

/-- What sort of type a type is. -/
inductive TypeKind where
  | invalid
  | unexposed
  | void
  | bool
  | plainChar
  | signedChar
  | unsignedChar
  | wideChar
  | short
  | unsignedShort
  | int
  | unsignedInt
  | long
  | unsignedLong
  | longLong
  | unsignedLongLong
  | float
  | double
  | longDouble
  | pointer
  | lvalueReference
  | rvalueReference
  | record
  | enum
  | synonym
  | elaborated
  | function
  | constantArray
  | incompleteArray
  | auto
deriving DecidableEq, Inhabited

namespace TypeKind

/-- The name of a kind as it is shown to people. -/
def display : TypeKind → String
  | invalid => "INVALID"
  | unexposed => "UNEXPOSED"
  | void => "VOID"
  | bool => "BOOL"
  | plainChar => "CHAR_S"
  | signedChar => "SCHAR"
  | unsignedChar => "UCHAR"
  | wideChar => "WCHAR"
  | short => "SHORT"
  | unsignedShort => "USHORT"
  | int => "INT"
  | unsignedInt => "UINT"
  | long => "LONG"
  | unsignedLong => "ULONG"
  | longLong => "LONGLONG"
  | unsignedLongLong => "ULONGLONG"
  | float => "FLOAT"
  | double => "DOUBLE"
  | longDouble => "LONGDOUBLE"
  | pointer => "POINTER"
  | lvalueReference => "LVALUEREFERENCE"
  | rvalueReference => "RVALUEREFERENCE"
  | record => "RECORD"
  | enum => "ENUM"
  | synonym => "TYPEDEF"
  | elaborated => "ELABORATED"
  | function => "FUNCTIONPROTO"
  | constantArray => "CONSTANTARRAY"
  | incompleteArray => "INCOMPLETEARRAY"
  | auto => "AUTO"

/-- The name of a kind in data. -/
def name : TypeKind → String
  | invalid => "invalid"
  | unexposed => "unexposed"
  | void => "void"
  | bool => "bool"
  | plainChar => "char_s"
  | signedChar => "s_char"
  | unsignedChar => "u_char"
  | wideChar => "w_char"
  | short => "short"
  | unsignedShort => "u_short"
  | int => "int"
  | unsignedInt => "u_int"
  | long => "long"
  | unsignedLong => "u_long"
  | longLong => "long_long"
  | unsignedLongLong => "u_long_long"
  | float => "float"
  | double => "double"
  | longDouble => "long_double"
  | pointer => "pointer"
  | lvalueReference => "l_value_reference"
  | rvalueReference => "r_value_reference"
  | record => "record"
  | enum => "enum"
  | synonym => "typedef"
  | elaborated => "elaborated"
  | function => "function_proto"
  | constantArray => "constant_array"
  | incompleteArray => "incomplete_array"
  | auto => "auto"

/-- The kind of a built-in type spelled with the given words. -/
def ofWords (words : List String) : TypeKind :=
  let unsigned := words.contains "unsigned"
  let longs := words.count "long"
  if words.contains "char" then
    if unsigned then unsignedChar else if words.contains "signed" then signedChar else plainChar
  else if words.contains "wchar_t" then wideChar
  else if words.contains "bool" || words.contains "_Bool" then bool
  else if words.contains "void" then void
  else if words.contains "float" then float
  else if words.contains "double" then if 0 < longs then longDouble else double
  else if words.contains "short" then if unsigned then unsignedShort else short
  else if 2 ≤ longs then if unsigned then unsignedLongLong else longLong
  else if longs = 1 then if unsigned then unsignedLong else long
  else if !words.isEmpty && words.all (["int", "signed", "unsigned"].contains ·) then
    if unsigned then unsignedInt else int
  else synonym

end TypeKind

end DeclScope
