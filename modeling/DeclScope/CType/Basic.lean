import DeclScope.CType.Kind
import DeclScope.CType.Size
import DeclScope.Text.Blank

/-!
# Types

A type is a named type, or is derived from another: a pointer or reference to it, an array of it,
a function that returns it, or a typedef for it.  Only named types and pointers carry qualifiers.
Names are not looked up, so a type is what its declaration says and no more.

The views `pointee?`, `elementType?` and `resultType?` open one sort of derived type each; on a
named type and on a typedef all three are empty.
-/

namespace DeclScope

/-- The qualifiers that a type can carry. -/
structure Qualifiers where
  isConst : Bool := false
  isVolatile : Bool := false
  isRestrict : Bool := false
deriving DecidableEq, Inhabited

namespace Qualifiers

/-- No qualifier. -/
def none : Qualifiers := {}

/-- The keywords of the qualifiers that are set, in a fixed order. -/
def keywords (quals : Qualifiers) : List String :=
  (if quals.isConst then ["const"] else []) ++ (if quals.isVolatile then ["volatile"] else []) ++
    (if quals.isRestrict then ["restrict"] else [])

/-- The first letters of the qualifiers that are set. -/
def letters (quals : Qualifiers) : String :=
  (if quals.isConst then "c" else "") ++ (if quals.isVolatile then "v" else "") ++
    (if quals.isRestrict then "r" else "")

/-- Set the qualifier that a keyword names; other keywords change nothing. -/
def adding (quals : Qualifiers) (keyword : String) : Qualifiers :=
  let word := Text.trim keyword
  if word = "const" then { quals with isConst := true }
  else if word = "volatile" then { quals with isVolatile := true }
  else if word ∈ ["restrict", "__restrict", "__restrict__"] then { quals with isRestrict := true }
  else quals

end Qualifiers

/-- Whether a reference binds to objects or to temporaries. -/
inductive ReferenceForm where
  | lvalue
  | rvalue
deriving DecidableEq, Inhabited

/-- A type as its declaration says it. -/
inductive CType where
  /-- A type with a name of its own. -/
  | named (kind : TypeKind) (name : String) (quals : Qualifiers)
  | pointer (quals : Qualifiers) (pointee : CType)
  | reference (form : ReferenceForm) (pointee : CType)
  /-- An array; the size is kept as it is written. -/
  | array (size? : Option String) (element : CType)
  | function (result : CType) (parameters : List CType)
  | synonym (name : String) (target : CType)
deriving Inhabited

namespace CType

/-- The type of things that have none. -/
def invalid : CType := .named .invalid "" .none

/-- What sort of type a type is. -/
def kind : CType → TypeKind
  | named kind _ _ => kind
  | pointer _ _ => .pointer
  | reference .lvalue _ => .lvalueReference
  | reference .rvalue _ => .rvalueReference
  | array (some _) _ => .constantArray
  | array none _ => .incompleteArray
  | function _ _ => .function
  | synonym _ _ => .synonym

/-- The qualifiers of a type itself. -/
def quals : CType → Qualifiers
  | named _ _ quals => quals
  | pointer quals _ => quals
  | _ => .none

/-- What a pointer or reference refers to. -/
def pointee? : CType → Option CType
  | pointer _ pointee => some pointee
  | reference _ pointee => some pointee
  | _ => none

/-- What an array consists of. -/
def elementType? : CType → Option CType
  | array _ element => some element
  | _ => none

/-- The number of elements of an array, when its size is an integer literal. -/
def arraySize? : CType → Option Nat
  | array (some size) _ => Size.read? size
  | _ => none

/-- What a function returns. -/
def resultType? : CType → Option CType
  | function result _ => some result
  | _ => none

/-- What a function takes. -/
def parameterTypes : CType → List CType
  | function _ parameters => parameters
  | _ => []

/-- Whether a type is a pointer; a reference is none. -/
def isPointer (type : CType) : Bool := type.kind == .pointer

/-- Whether a type is an array, with or without a size. -/
def isArray (type : CType) : Bool := type.kind == .constantArray || type.kind == .incompleteArray

/-- The kind of a name that is not looked up, when its first word is the keyword of a record or of
an enumeration. -/
def elaboratedKind (name : String) : TypeKind :=
  match (Text.words name).head? with
  | some word =>
    if word ∈ ["struct", "class", "union"] then .record
    else if word = "enum" then .enum
    else .elaborated
  | none => .elaborated

/-- A type with typedefs replaced by their targets, and with the keyword of a record or enumeration
taken at its word.  Only the outermost type is looked at. -/
def canonical : CType → CType
  | synonym _ target => target.canonical
  | named .elaborated name quals => named (elaboratedKind name) name quals
  | type => type

end CType

end DeclScope
