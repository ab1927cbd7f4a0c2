import DeclScope.Tree.Node

/-!
# Declarators

A declarator wraps the name that it declares: in pointers, references, arrays, parameter lists,
parentheses, attributes and an initial value.  Two questions are asked of it, and both are answered
by walking inwards: which name does it declare, and does it declare a function.

The step inwards goes to the child that is marked as the declarator, or, where the grammar marks
none, to the last named child.  It always reaches a smaller tree.
-/

namespace DeclScope.Node

/-- One step inwards. -/
def inner? (node : Node) : Option Node :=
  (node.childIn? .declarator).or node.namedChildren.getLast?

/-- The step inwards goes to a child. -/
theorem mem_children_of_inner? {inner node : Node} (found : node.inner? = some inner) :
    inner ∈ node.children := by
  rw [inner?, Option.or_eq_some_iff] at found
  rcases found with marked | ⟨_, last⟩
  · exact mem_children_of_childIn? marked
  · exact mem_children_of_mem_namedChildren (List.mem_of_getLast? last)

/-- The step inwards reaches a smaller tree. -/
theorem size_lt_of_inner? {inner node : Node} (found : node.inner? = some inner) :
    inner.tree.size < node.tree.size :=
  size_lt_of_mem_children (mem_children_of_inner? found)

/-- The function declarator that a declarator stands for.  Pointers, references and attributes are
looked through, since they belong to the result; a parenthesis right inside the function declarator
makes it the type of something else, as in a pointer to a function. -/
def functionDeclarator? (node : Node) : Option Node :=
  if node.kind = .declarator .function false then
    (node.childIn? .declarator).bind fun inner =>
      if inner.kind = .declarator .parenthesized false then none else some node
  else if node.kind.wrapsResult then
    match _step : node.inner? with
    | some inner => inner.functionDeclarator?
    | none => none
  else none
termination_by node.tree.size
decreasing_by exact size_lt_of_inner? (by assumption)

/-- The name that a declarator declares, or the last part of a name that wraps others. -/
def declaredName? (node : Node) : Option Node :=
  match node.kind with
  | .name _ => some node
  | .scopedName _ =>
    match _step : node.childIn? .name with
    | some name => name.declaredName?
    | none => none
  | _ =>
    match _step : node.inner? with
    | some inner => inner.declaredName?
    | none => none
termination_by node.tree.size
decreasing_by
  · exact size_lt_of_childIn? (by assumption)
  · exact size_lt_of_inner? (by assumption)

/-- The parameters of a function declarator, in order. -/
def parameters (function : Node) : List Node :=
  match function.childIn? .parameters with
  | some list => list.namedChildren.filter (·.kind.isParameter)
  | none => []

/-- Whether a declaration is marked with a storage class keyword. -/
def hasStorageClass (keyword : String) (node : Node) : Bool :=
  node.namedChildren.any fun child =>
    child.kind == .storageClass && child.children.head?.any (·.kind.text == keyword)

/-- A parameter of a function declarator is a smaller tree. -/
theorem size_lt_of_mem_parameters {parameter function : Node}
    (mem : parameter ∈ function.parameters) : parameter.tree.size < function.tree.size := by
  unfold parameters at mem
  split at mem
  · rename_i list found
    have inList := size_lt_of_mem_namedChildren (List.mem_filter.1 mem).1
    have inFunction := size_lt_of_childIn? found
    omega
  · simp at mem

/-- The function declarator that a declarator stands for is no larger. -/
theorem size_functionDeclarator?_le {function node : Node}
    (found : node.functionDeclarator? = some function) :
    function.tree.size ≤ node.tree.size := by
  fun_induction functionDeclarator? node with
  | case1 node _ =>
    obtain ⟨inner, _, rest⟩ := Option.bind_eq_some_iff.1 found
    split at rest <;> simp_all
  | case2 node _ _ inner step ih =>
    have := size_lt_of_inner? step
    have := ih found
    omega
  | case3 => simp at found
  | case4 => simp at found

end DeclScope.Node
