import DeclScope.CType.Basic

/-!
# The spelling of a type

A type is spelled as in a declaration without a name: the named type first, then the declarator
around the place where the name would stand.  Spelling goes from the outside of the type to its
named type and builds the declarator on the way: pointers and references are put in front of it,
sizes and parameters behind it, and a pointer to an array or to a function is put in parentheses,
because what stands behind binds first.
-/

namespace DeclScope.CType

/-- The qualifiers of a pointer, with a space before what follows. -/
def pointerQualifiers (quals : Qualifiers) (rest : String) : String :=
  match quals.keywords with
  | [] => rest
  | keywords => " ".intercalate keywords ++ (if rest = "" then "" else " " ++ rest)

/-- Whether a pointer or reference to the type needs parentheses. -/
def bindsBehind : CType → Bool
  | array _ _ => true
  | function _ _ => true
  | _ => false

/-- A declarator in parentheses, if the type it refers to needs them. -/
def guarded (type : CType) (declarator : String) : String :=
  if type.bindsBehind then "(" ++ declarator ++ ")" else declarator

/-- A named type before a declarator. -/
def namedSpelling (name : String) (quals : Qualifiers) (declarator : String) : String :=
  let qualified := " ".intercalate (quals.keywords ++ [name])
  if declarator = "" then qualified else qualified ++ " " ++ declarator

mutual

/-- The type spelled around a declarator. -/
def render : CType → String → String
  | named _ name quals, declarator => namedSpelling name quals declarator
  | synonym name _, declarator => namedSpelling name .none declarator
  | pointer quals pointee, declarator =>
    pointee.render (pointee.guarded ("*" ++ pointerQualifiers quals declarator))
  | reference .lvalue pointee, declarator => pointee.render (pointee.guarded ("&" ++ declarator))
  | reference .rvalue pointee, declarator => pointee.render (pointee.guarded ("&&" ++ declarator))
  | array size? element, declarator => element.render (declarator ++ "[" ++ size?.getD "" ++ "]")
  | function result parameters, declarator =>
    result.render (declarator ++ "(" ++ ", ".intercalate (spellings parameters) ++ ")")

/-- The spellings of several types. -/
def spellings : List CType → List String
  | [] => []
  | type :: rest => type.render "" :: spellings rest

end

/-- The type spelled without a name. -/
def spelling (type : CType) : String := type.render ""

end DeclScope.CType
