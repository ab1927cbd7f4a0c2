import DeclScope.CType.Basic
import DeclScope.Declarator
import DeclScope.Text.Source

/-!
# The type that a declaration gives

A declaration says a type in two halves.  The specifier names a type and qualifies it; the
declarator then derives further types from it.  Reading the declarator from the outside in, each
part wraps the type found so far, so the part next to the name is wrapped last.

The parameters of a function are declarations themselves; a variadic one has no type of its own
and is left out.
-/

namespace DeclScope.CType

/-- The squeezed text of a node. -/
def squeezedText (source : Source) (node : Node) : String :=
  Text.squeeze (source.slice node.start node.stop)

/-- The kind and the name of the type that a specifier names by itself. -/
def specified (source : Source) (specifier : Node) : TypeKind × String :=
  let text := squeezedText source specifier
  match specifier.kind with
  | .primitiveType | .sizedType => (.ofWords (Text.words text), text)
  | .record _ | .enumSpecifier =>
    let keyword := (specifier.children.head?.map (·.kind.text)).getD ""
    let name := ((specifier.childIn? .name).map (squeezedText source)).getD "(anonymous)"
    let kind :=
      if (specifier.childIn? .body).isNone then .elaborated
      else if keyword = "enum" then .enum
      else .record
    (kind, keyword ++ " " ++ name)
  | .name .type | .scopedName .qualified | .scopedName .qualifiedType
  | .scopedName .templateType | .dependentType => (.elaborated, text)
  | .placeholderType | .autoType => (.auto, text)
  | _ => (.unexposed, text)

/-- The type that a specifier names by itself. -/
def ofSpecifier (source : Source) (specifier : Node) : CType :=
  .named (specified source specifier).1 (specified source specifier).2 .none

/-- The qualifiers among the children of a node, added to those given. -/
def qualifiersOf (source : Source) (node : Node) (quals : Qualifiers) : Qualifiers :=
  (node.namedChildren.filter (·.kind == .typeQualifier)).foldl
    (fun quals child => quals.adding (source.slice child.start child.stop)) quals

/-- A named type with the qualifiers of a declaration. -/
def qualified (source : Source) (declaration : Node) : CType → CType
  | named kind name quals => named kind name (qualifiersOf source declaration quals)
  | type => type

/-- The type that the specifier of a declaration names, with the declaration's qualifiers. -/
def base? (source : Source) (declaration : Node) : Option CType :=
  (declaration.childIn? .type).map fun specifier =>
    qualified source declaration (ofSpecifier source specifier)

/-- The part of a declarator that is read next. -/
def nextPart? (node : Node) : Option Node :=
  match node.kind with
  | .initDeclarator => node.childIn? .declarator
  | .attributedDeclarator => node.namedChildren.head?
  | .declarator .parenthesized _ => node.namedChildren.head?
  | .declarator .reference _ => node.namedChildren.head?
  | .declarator _ _ => node.childIn? .declarator
  | _ => none

/-- The part that is read next is a smaller tree. -/
theorem size_lt_of_nextPart? {next node : Node} (found : nextPart? node = some next) :
    next.tree.size < node.tree.size := by
  have first (found : node.namedChildren.head? = some next) : next.tree.size < node.tree.size :=
    Node.size_lt_of_mem_namedChildren (List.mem_of_mem_head? found)
  unfold nextPart? at found
  split at found
  · exact Node.size_lt_of_childIn? found
  · exact first found
  · exact first found
  · exact first found
  · exact Node.size_lt_of_childIn? found
  · simp at found

/-- Whether a reference declarator is one to temporaries. -/
def referenceForm (node : Node) : ReferenceForm :=
  if node.children.head?.any (·.kind.text == "&&") then .rvalue else .lvalue

/-- The type wrapped by one part of a declarator; `parameters` are those of a function part. -/
def wrap (source : Source) (part : Node) (parameters : List CType) (type : CType) : CType :=
  match part.kind with
  | .declarator .pointer _ => .pointer (qualifiersOf source part .none) type
  | .declarator .reference _ => .reference (referenceForm part) type
  | .declarator .array _ => .array ((part.childIn? .size).map (squeezedText source)) type
  | .declarator .function _ => .function type parameters
  | _ => type

/-- Whether a part of a declarator has parameters. -/
def isFunctionPart (part : Node) : Bool :=
  match part.kind with
  | .declarator .function _ => true
  | _ => false

/-- The parameters of a part of a declarator that have a type. -/
def typedParameters (part : Node) : List Node :=
  if isFunctionPart part then part.parameters.filter (·.kind != .parameter .variadic) else []

/-- A parameter is a smaller tree than the part that has it. -/
theorem size_lt_of_mem_typedParameters {parameter part : Node}
    (mem : parameter ∈ typedParameters part) : parameter.tree.size < part.tree.size := by
  unfold typedParameters at mem
  split at mem
  · exact Node.size_lt_of_mem_parameters (List.mem_filter.1 mem).1
  · simp at mem

mutual

/-- The type that a declarator derives from another. -/
def derive (source : Source) (type : CType) (part : Node) : CType :=
  let parameters := (typedParameters part).attach.map fun ⟨parameter, _⟩ =>
    parameterType source parameter
  let wrapped := wrap source part parameters type
  match _next : nextPart? part with
  | some next => derive source wrapped next
  | none => wrapped
termination_by part.tree.size
decreasing_by
  · exact size_lt_of_mem_typedParameters (by assumption)
  · exact size_lt_of_nextPart? (by assumption)

/-- The type of a parameter. -/
def parameterType (source : Source) (parameter : Node) : CType :=
  match base? source parameter with
  | none => .invalid
  | some base =>
    match _declarator : parameter.childIn? .declarator with
    | some declarator => derive source base declarator
    | none => base
termination_by parameter.tree.size
decreasing_by exact Node.size_lt_of_childIn? (by assumption)

end

/-- The type of a declaration seen through one of its declarators. -/
def ofDeclaration (source : Source) (declaration : Node) (declarator? : Option Node) : CType :=
  match base? source declaration, declarator? with
  | none, _ => .invalid
  | some base, some declarator => derive source base declarator
  | some base, none => base

/-- A parameter is a declaration seen through its declarator. -/
theorem parameterType_eq (source : Source) (parameter : Node) :
    parameterType source parameter =
      ofDeclaration source parameter (parameter.childIn? .declarator) := by
  rw [parameterType]
  unfold ofDeclaration
  split
  · rename_i missing
    simp [missing]
  · rename_i base found
    split <;> rename_i declarator <;> simp [found, declarator]

/-- A declaration that names a type gives the type that its declarator derives from it. -/
theorem ofDeclaration_of_base? {source : Source} {declaration : Node} {base : CType}
    (found : base? source declaration = some base) (declarator? : Option Node) :
    ofDeclaration source declaration declarator? =
      (declarator?.map (derive source base)).getD base := by
  cases declarator? <;> simp only [ofDeclaration, found, Option.map, Option.getD]

/-- A declarator wraps the type by its own part and then goes on with the part that is read next. -/
theorem derive_eq (source : Source) (type : CType) (part : Node) :
    derive source type part =
      let wrapped := wrap source part ((typedParameters part).map (parameterType source)) type
      ((nextPart? part).map (derive source wrapped)).getD wrapped := by
  have parameters : ((typedParameters part).attach.map fun ⟨parameter, _⟩ =>
      parameterType source parameter) = (typedParameters part).map (parameterType source) :=
    List.attach_map_val
  rw [derive, parameters]
  split <;> rename_i next <;> simp [next]

end DeclScope.CType
