import DeclScope.CType.Declared
import DeclScope.CType.Spelling

/-!
# Types as flat records

Here one record holds every sort of type: a kind, a name, qualifiers, an inner type, a number of
elements and parameters.  Any of them can be given to any kind.  A record is built by wrapping the
type read so far, and asking for what a kind does not have gives nothing.

A derived type that has no inner type can still be spelled; what it is spelled as is a parameter of
the spelling.
-/

namespace DeclScope

/-- A type, with all that any sort of type can have. -/
structure TypeRecord where
  kind : TypeKind
  /-- The name of a type that has one, or the size of an array as it is written. -/
  name : String := ""
  quals : Qualifiers := .none
  /-- What the type refers to, consists of, returns or stands for. -/
  inner? : Option TypeRecord := none
  arraySize? : Option Nat := none
  parameters : List TypeRecord := []
deriving Inhabited

namespace TypeRecord

/-- A type with a name and nothing inside it. -/
def leaf (kind : TypeKind) (name : String) : TypeRecord := { kind, name }

/-- A type around another. -/
def wrap (kind : TypeKind) (inner : TypeRecord) : TypeRecord :=
  { leaf kind "" with inner? := some inner }

/-- The type of things that have none. -/
def invalid : TypeRecord := leaf .invalid ""

/-- A typedef of the given name for another type. -/
def synonym (name : String) (target : TypeRecord) : TypeRecord :=
  { wrap .synonym target with name }

/-- The type with the qualifier that a keyword names. -/
def qualify (type : TypeRecord) (keyword : String) : TypeRecord :=
  { type with quals := type.quals.adding keyword }

/-- The type with the qualifiers among the children of a node. -/
def qualifiedBy (source : Source) (node : Node) (type : TypeRecord) : TypeRecord :=
  (node.namedChildren.filter (·.kind == .typeQualifier)).foldl
    (fun type child => type.qualify (source.slice child.start child.stop)) type

/-- The type that a specifier names by itself. -/
def ofSpecifier (source : Source) (specifier : Node) : TypeRecord :=
  leaf (CType.specified source specifier).1 (CType.specified source specifier).2

/-- The type wrapped by one part of a declarator; `parameters` are those of a function part. -/
def wrapPart (source : Source) (part : Node) (parameters : List TypeRecord) (type : TypeRecord) :
    TypeRecord :=
  match part.kind with
  | .declarator .pointer _ => (wrap .pointer type).qualifiedBy source part
  | .declarator .reference _ =>
    match CType.referenceForm part with
    | .lvalue => wrap .lvalueReference type
    | .rvalue => wrap .rvalueReference type
  | .declarator .array _ =>
    match part.childIn? .size with
    | some size =>
      let name := CType.squeezedText source size
      { wrap .constantArray type with name, arraySize? := Size.read? name }
    | none => wrap .incompleteArray type
  | .declarator .function _ => { wrap .function type with parameters }
  | _ => type

/-- The declarator of a parameter is a smaller tree than the part that has the parameter. -/
theorem declaratorSize_lt {parameter part : Node}
    (listed : parameter ∈ CType.typedParameters part) :
    ((parameter.childIn? .declarator).map (·.tree.size)).getD 0 < part.tree.size := by
  have smaller := CType.size_lt_of_mem_typedParameters listed
  cases found : parameter.childIn? .declarator with
  | none => exact Nat.zero_lt_of_lt smaller
  | some declarator => exact Nat.lt_trans (Node.size_lt_of_childIn? found) smaller

mutual

/-- The type that a declarator derives from another. -/
def derive (source : Source) (type : TypeRecord) (part : Node) : TypeRecord :=
  let parameters := (CType.typedParameters part).attach.map fun ⟨parameter, _⟩ =>
    ofDeclaration source parameter (parameter.childIn? .declarator)
  let wrapped := type.wrapPart source part parameters
  match _next : CType.nextPart? part with
  | some next => derive source wrapped next
  | none => wrapped
termination_by 2 * part.tree.size
decreasing_by
  · have smaller := declaratorSize_lt (by assumption)
    omega
  · have smaller := CType.size_lt_of_nextPart? (by assumption)
    omega

/-- The type of a declaration seen through one of its declarators. -/
def ofDeclaration (source : Source) (declaration : Node) (declarator? : Option Node) :
    TypeRecord :=
  match declaration.childIn? .type with
  | none => invalid
  | some specifier =>
    let base := (ofSpecifier source specifier).qualifiedBy source declaration
    match declarator? with
    | some declarator => derive source base declarator
    | none => base
termination_by 2 * (declarator?.map (·.tree.size)).getD 0 + 1
decreasing_by simp only [Option.map_some, Option.getD_some, Nat.lt_succ_self]

end

/-- Whether a type is an array, with or without a size. -/
def isArray (type : TypeRecord) : Bool :=
  type.kind == .constantArray || type.kind == .incompleteArray

/-- What a pointer or reference refers to. -/
def pointee? (type : TypeRecord) : Option TypeRecord :=
  match type.kind with
  | .pointer | .lvalueReference | .rvalueReference => type.inner?
  | _ => none

/-- What an array consists of. -/
def elementType? (type : TypeRecord) : Option TypeRecord :=
  if type.isArray then type.inner? else none

/-- What a function returns. -/
def resultType? (type : TypeRecord) : Option TypeRecord :=
  match type.kind with
  | .function => type.inner?
  | _ => none

/-- Whether a pointer or reference to a type of the kind needs parentheses. -/
def bindsBehind (kind : TypeKind) : Bool :=
  kind == .constantArray || kind == .incompleteArray || kind == .function

/-- The sign of a pointer or reference. -/
def sign : TypeKind → String
  | .pointer => "*"
  | .lvalueReference => "&"
  | _ => "&&"

mutual

/-- The type spelled around a declarator.  A derived type without an inner type is spelled as
`missing` says. -/
def renderWith (missing : String → String) : TypeRecord → String → String
  | ⟨kind, name, quals, inner?, _, parameters⟩, declarator =>
    match kind with
    | .pointer | .lvalueReference | .rvalueReference =>
      let signed := sign kind ++ CType.pointerQualifiers quals declarator
      match inner? with
      | some pointee =>
        pointee.renderWith missing
          (if bindsBehind pointee.kind then "(" ++ signed ++ ")" else signed)
      | none => missing signed
    | .constantArray | .incompleteArray =>
      let sized := declarator ++ "[" ++ name ++ "]"
      match inner? with
      | some element => element.renderWith missing sized
      | none => missing sized
    | .function =>
      let called := declarator ++ "(" ++ ", ".intercalate (spellingsWith missing parameters) ++ ")"
      match inner? with
      | some result => result.renderWith missing called
      | none => missing called
    | _ => CType.namedSpelling name quals declarator

/-- The spellings of several types. -/
def spellingsWith (missing : String → String) : List TypeRecord → List String
  | [] => []
  | type :: rest => type.renderWith missing "" :: spellingsWith missing rest

end

/-- The type spelled around a declarator.  A derived type without an inner type is spelled as the
declarator alone. -/
def render (type : TypeRecord) (declarator : String) : String := type.renderWith id declarator

/-- The type spelled without a name. -/
def spelling (type : TypeRecord) : String := type.render ""

/-- A parameter is a declaration seen through its declarator, and a declarator wraps the type by its
own part before it goes on with the part that is read next. -/
theorem derive_eq (source : Source) (type : TypeRecord) (part : Node) :
    derive source type part =
      let wrapped := type.wrapPart source part ((CType.typedParameters part).map fun parameter =>
        ofDeclaration source parameter (parameter.childIn? .declarator))
      ((CType.nextPart? part).map (derive source wrapped)).getD wrapped := by
  have parameters : ((CType.typedParameters part).attach.map fun ⟨parameter, _⟩ =>
      ofDeclaration source parameter (parameter.childIn? .declarator)) =
      (CType.typedParameters part).map fun parameter =>
        ofDeclaration source parameter (parameter.childIn? .declarator) :=
    List.attach_map_val
      (f := fun parameter => ofDeclaration source parameter (parameter.childIn? .declarator))
  rw [derive, parameters]
  split <;> rename_i next <;> simp [next]

end TypeRecord

end DeclScope
