import DeclScope.Proofs.Cursor.Parameters
import DeclScope.Proofs.Text.Boundary
import DeclScope.Proofs.Text.Words

/-!
# The text of a parameter is its text without the name

The name of a parameter is found by walking inwards from its declarator, through any number of
wrappers.  Its offsets are then counted from the start of the parameter, and what they enclose is
cut out of the text.  This is right because the walk never leaves the parameter: where the byte
ranges of the tree nest, the name lies in the range of the parameter, and where the ranges fall
between characters, both cuts give whole characters.  So the text without a cut, which stands in for
a cut that fails, is never taken for a parameter that has a name.

What is left are the words of the text before and behind the name, joined by single spaces, so it
depends on that text only.
-/

namespace DeclScope

/-- The unit of a function with two parameters that differ in their names, of one and of three
bytes.  There are two spaces before the stars and tabs behind them. -/
def TranslationUnit.renamed : TranslationUnit where
  filename := "renamed.cpp"
  language := .cpp
  source := .ofString "void f(int  *\ta [2], int  *\tné [2]);"
  arguments := []
  tree := .named .translationUnit none 0 37 [
    .named .declaration none 0 37 [
      .named .primitiveType (some .type) 0 4 [],
      .named (.declarator .function false) (some .declarator) 5 36 [
        .named (.name .plain) (some .declarator) 5 6 [],
        .named (.other "parameter_list") (some .parameters) 6 36 [
          .token "(" 6,
          .named (.parameter .plain) none 7 19 [
            .named .primitiveType (some .type) 7 10 [],
            .named (.declarator .pointer false) (some .declarator) 12 19 [
              .token "*" 12,
              .named (.declarator .array false) (some .declarator) 14 19 [
                .named (.name .plain) (some .declarator) 14 15 [],
                .token "[" 16,
                .named (.other "number_literal") (some .size) 17 18 [],
                .token "]" 18]]],
          .token "," 19,
          .named (.parameter .plain) none 21 35 [
            .named .primitiveType (some .type) 21 24 [],
            .named (.declarator .pointer false) (some .declarator) 26 35 [
              .token "*" 26,
              .named (.declarator .array false) (some .declarator) 28 35 [
                .named (.name .plain) (some .declarator) 28 31 [],
                .token "[" 32,
                .named (.other "number_literal") (some .size) 33 34 [],
                .token "]" 34]]],
          .token ")" 35]],
      .token ";" 36]]

namespace TranslationUnit

/-- The ranges of all nodes start and stop between characters of the source. -/
def RangesFit (unit : TranslationUnit) : Prop :=
  ∀ node ∈ unit.root.nodes,
    Text.IsBoundary unit.source.chars node.start ∧ Text.IsBoundary unit.source.chars node.stop

instance (unit : TranslationUnit) : Decidable unit.RangesFit :=
  inferInstanceAs (Decidable (∀ node ∈ _, _))

/-- The parameter is one of a function that is reached from the root, and its declarator declares
the name; the ranges of the tree nest, and they fall between characters. -/
structure NamesParameter (unit : TranslationUnit) (parameter name : Node) : Prop where
  nest : unit.tree.RangesNest
  fit : unit.RangesFit
  listed : ∃ path cursor, unit.cursor.descend? path = some cursor ∧
    cursor.kind.isFunction = true ∧ parameter ∈ cursor.parameterNodes
  declares : (parameter.childIn? .declarator).bind Node.declaredName? = some name

variable {unit : TranslationUnit} {parameter name : Node}

/-- The parameters of a function stand in the tree. -/
theorem contains_of_mem_parameterNodes {path : List Nat} {cursor : Cursor}
    (reached : unit.cursor.descend? path = some cursor)
    (isFunction : cursor.kind.isFunction = true) (listed : parameter ∈ cursor.parameterNodes) :
    unit.root.Contains parameter := by
  obtain ⟨inTree, formed⟩ := Cursor.contains_of_descend? (Item.wellFormed_of_node unit.root) reached
  obtain ⟨bodies, children, -⟩ := Cursor.children_of_function isFunction
  have isChild : (⟨⟨parameter, none⟩, cursor.unit⟩ : Cursor) ∈ cursor.children := by
    rw [children]
    exact List.mem_map.mpr ⟨parameter, List.mem_append_left _ listed, rfl⟩
  exact inTree.trans (Cursor.encloses_of_mem_children formed isChild).1.to_reflTransGen

/-- The declared name stands in the parameter. -/
theorem NamesParameter.contains (names : unit.NamesParameter parameter name) :
    parameter.Contains name := by
  obtain ⟨declarator, marked, declared⟩ := Option.bind_eq_some_iff.mp names.declares
  exact .head (Node.mem_children_of_childIn? marked) (Node.contains_of_declaredName? declared)

/-- The parameter stands in the tree. -/
theorem NamesParameter.inTree (names : unit.NamesParameter parameter name) :
    unit.root.Contains parameter := by
  obtain ⟨path, cursor, reached, isFunction, listed⟩ := names.listed
  exact contains_of_mem_parameterNodes reached isFunction listed

/-- The range of the name lies in that of the parameter. -/
theorem NamesParameter.covers (names : unit.NamesParameter parameter name) :
    parameter.start ≤ name.start ∧ name.start ≤ name.stop ∧ name.stop ≤ parameter.stop :=
  names.contains.covers fun below contained =>
    names.nest below (Node.mem_nodes_iff.mpr (names.inTree.trans contained))

/-- The name divides the text of the parameter in three. -/
theorem NamesParameter.exists_parts (names : unit.NamesParameter parameter name) :
    ∃ before middle behind,
      Text.slice? unit.source.chars parameter.start name.start = some before ∧
        Text.slice? unit.source.chars name.start name.stop = some middle ∧
        Text.slice? unit.source.chars name.stop parameter.stop = some behind ∧
        Text.slice? unit.source.chars parameter.start parameter.stop =
          some (before ++ middle ++ behind) ∧
        parameter.start + Text.byteSize before = name.start ∧
        name.start + Text.byteSize middle = name.stop := by
  obtain ⟨starts, stops⟩ := names.fit parameter (Node.mem_nodes_iff.mpr names.inTree)
  obtain ⟨begins, ends⟩ :=
    names.fit name (Node.mem_nodes_iff.mpr (names.inTree.trans names.contains))
  exact Text.exists_parts starts begins ends stops names.covers

end TranslationUnit

namespace Cursor

/-- The text of a parameter without its name, if its name cuts its text in two places. -/
theorem parameterText_of_cuts {unit : TranslationUnit} {parameter name : Node}
    {before behind : List Char}
    (declares : (parameter.childIn? .declarator).bind Node.declaredName? = some name)
    (front : Text.takeBytes? (name.start - parameter.start) (unit.text parameter).toList =
      some before)
    (back : Text.dropBytes? (name.stop - parameter.start) (unit.text parameter).toList =
      some behind) :
    parameterText unit parameter = Text.squeeze (String.ofList (before ++ behind)) := by
  unfold parameterText
  dsimp only
  rw [declares]
  dsimp only
  rw [cutOut, front, back]

/-- The name cuts the text of the parameter in three parts, and what is left is the first and the
last of them. -/
theorem exists_cuts {unit : TranslationUnit} {parameter name : Node}
    (names : unit.NamesParameter parameter name) :
    ∃ before behind : List Char,
      Text.slice? unit.source.chars parameter.start name.start = some before ∧
      Text.slice? unit.source.chars name.stop parameter.stop = some behind ∧
      (unit.text parameter).toList = before ++ (unit.text name).toList ++ behind ∧
      Text.takeBytes? (name.start - parameter.start) (unit.text parameter).toList = some before ∧
      Text.dropBytes? (name.stop - parameter.start) (unit.text parameter).toList = some behind ∧
      parameterText unit parameter = Text.squeeze (String.ofList (before ++ behind)) := by
  obtain ⟨before, middle, behind, isBefore, isMiddle, isBehind, isWhole, starts, stops⟩ :=
    names.exists_parts
  have whole : (unit.text parameter).toList = before ++ middle ++ behind := by
    rw [TranslationUnit.text, Source.slice, isWhole, Option.getD_some, String.toList_ofList]
  have inside : (unit.text name).toList = middle := by
    rw [TranslationUnit.text, Source.slice, isMiddle, Option.getD_some, String.toList_ofList]
  have front : Text.takeBytes? (name.start - parameter.start) (unit.text parameter).toList =
      some before := by
    rw [whole, ← starts, Nat.add_sub_cancel_left, List.append_assoc]
    exact Text.takeBytes?_append before (middle ++ behind)
  have back : Text.dropBytes? (name.stop - parameter.start) (unit.text parameter).toList =
      some behind := by
    rw [whole, ← stops, ← starts, Nat.add_assoc, Nat.add_sub_cancel_left, ← Text.byteSize_append]
    exact Text.dropBytes?_append (before ++ middle) behind
  refine ⟨before, behind, isBefore, isBehind, ?_, front, back, ?_⟩
  · rw [inside, whole]
  · exact parameterText_of_cuts names.declares front back

/-- Let a parameter of a function have a declarator that declares a name, in a unit whose ranges
nest and fall between characters.  The name does not start or stop before the parameter, so its
offsets can be counted from there.  They cut the text of the parameter in three, and the text
without the name is the text before and behind the name, normalized: its words joined by single
spaces.  Two parameters with the same text before and behind their names have the same text without
the name. -/
theorem parameterText_cuts_name {unit : TranslationUnit} {parameter name : Node}
    (names : unit.NamesParameter parameter name) :
    (parameter.start ≤ name.start ∧ parameter.start ≤ name.stop) ∧
    (∃ before behind : List Char,
      Text.slice? unit.source.chars parameter.start name.start = some before ∧
      Text.slice? unit.source.chars name.stop parameter.stop = some behind ∧
      (unit.text parameter).toList = before ++ (unit.text name).toList ++ behind ∧
      Text.takeBytes? (name.start - parameter.start) (unit.text parameter).toList = some before ∧
      Text.dropBytes? (name.stop - parameter.start) (unit.text parameter).toList = some behind ∧
      Text.Normalizes (String.ofList (before ++ behind)) (parameterText unit parameter)) ∧
    ∀ (other : TranslationUnit) (twin twinName : Node), other.NamesParameter twin twinName →
      unit.source.slice parameter.start name.start =
        other.source.slice twin.start twinName.start →
      unit.source.slice name.stop parameter.stop = other.source.slice twinName.stop twin.stop →
      parameterText unit parameter = parameterText other twin := by
  obtain ⟨starts, ordered, -⟩ := names.covers
  obtain ⟨before, behind, isBefore, isBehind, whole, front, back, left⟩ := exists_cuts names
  refine ⟨⟨starts, starts.trans ordered⟩,
    ⟨before, behind, isBefore, isBehind, whole, front, back,
      Text.squeeze_eq_iff.mp left.symm⟩, ?_⟩
  intro other twin twinName twinNames sameBefore sameBehind
  obtain ⟨twinBefore, twinBehind, isTwinBefore, isTwinBehind, -, -, -, twinLeft⟩ :=
    exists_cuts twinNames
  rw [Source.slice, Source.slice, isBefore, isTwinBefore] at sameBefore
  rw [Source.slice, Source.slice, isBehind, isTwinBehind] at sameBehind
  rw [left, twinLeft, String.ofList_append, String.ofList_append]
  exact congrArg Text.squeeze (congrArg₂ (· ++ ·) sameBefore sameBehind)

/-- In the renamed unit the two parameters differ in their names only.  Without the name there are
two spaces, a tab and a space between the words, and `int * [2]` is left of both. -/
theorem parameterText_cuts_renamed :
    ∃ first firstName second secondName,
      TranslationUnit.renamed.NamesParameter first firstName ∧
      TranslationUnit.renamed.NamesParameter second secondName ∧
      (first.start, firstName.start, firstName.stop) = (7, 14, 15) ∧
      (second.start, secondName.start, secondName.stop) = (21, 28, 31) ∧
      (TranslationUnit.renamed.text firstName, TranslationUnit.renamed.text secondName) =
        ("a", "né") ∧
      Text.takeBytes? 7 (TranslationUnit.renamed.text second).toList = some "int  *\t".toList ∧
      Text.dropBytes? 10 (TranslationUnit.renamed.text second).toList = some " [2]".toList ∧
      Text.Normalizes "int  *\t [2]" (parameterText .renamed second) ∧
      parameterText .renamed second = "int * [2]" ∧
      parameterText .renamed first = parameterText .renamed second := by
  have nest : TranslationUnit.renamed.tree.RangesNest := by decide +kernel
  have fit : TranslationUnit.renamed.RangesFit := by decide +kernel
  have facts : (TranslationUnit.renamed.cursor.descend? [0]).any (fun cursor =>
      cursor.kind.isFunction &&
      decide (cursor.parameterNodes.map (fun parameter =>
        (parameter.start, parameter.stop, TranslationUnit.renamed.text parameter,
          parameterText .renamed parameter)) =
        [(7, 19, "int  *\ta [2]", "int * [2]"), (21, 35, "int  *\tné [2]", "int * [2]")]) &&
      decide (cursor.parameterNodes.map (fun parameter =>
        ((parameter.childIn? .declarator).bind Node.declaredName?).map fun name =>
          (name.start, name.stop, TranslationUnit.renamed.text name)) =
        [some (14, 15, "a"), some (28, 31, "né")])) = true := by decide +kernel
  simp only [Option.any_eq_true, Bool.and_eq_true, decide_eq_true_eq] at facts
  obtain ⟨cursor, reached, ⟨isFunction, ranges⟩, named⟩ := facts
  obtain ⟨first, others, areAll, firstNamed, othersNamed⟩ := List.map_eq_cons_iff.mp named
  obtain ⟨second, rfl, secondNamed⟩ := List.map_eq_singleton_iff.mp othersNamed
  obtain ⟨firstName, firstDeclares, firstShown⟩ := Option.map_eq_some_iff.mp firstNamed
  obtain ⟨secondName, secondDeclares, secondShown⟩ := Option.map_eq_some_iff.mp secondNamed
  have inFirst : TranslationUnit.renamed.NamesParameter first firstName :=
    ⟨nest, fit, ⟨[0], cursor, reached, isFunction, by simp [areAll]⟩, firstDeclares⟩
  have inSecond : TranslationUnit.renamed.NamesParameter second secondName :=
    ⟨nest, fit, ⟨[0], cursor, reached, isFunction, by simp [areAll]⟩, secondDeclares⟩
  simp only [areAll, List.map_cons, List.map_nil, List.cons.injEq, Prod.mk.injEq] at ranges
  simp only [Prod.mk.injEq] at firstShown secondShown
  obtain ⟨⟨firstStart, firstStop, -, -⟩, ⟨secondStart, secondStop, whole, left⟩, -⟩ := ranges
  obtain ⟨firstFrom, firstTo, firstSpelled⟩ := firstShown
  obtain ⟨secondFrom, secondTo, secondSpelled⟩ := secondShown
  obtain ⟨-, -, alike⟩ := parameterText_cuts_name inFirst
  obtain ⟨-, ⟨before, behind, -, -, -, front, back, normal⟩, -⟩ :=
    parameterText_cuts_name inSecond
  have same := alike .renamed second secondName inSecond
  rw [firstStart, firstStop, firstFrom, firstTo, secondStart, secondStop, secondFrom,
    secondTo] at same
  rw [secondStart, secondFrom, whole] at front
  rw [secondStart, secondTo, whole] at back
  have isBefore : "int  *\t".toList = before :=
    Option.some.inj (Eq.trans (by decide +kernel) front)
  have isBehind : " [2]".toList = behind := Option.some.inj (Eq.trans (by decide +kernel) back)
  subst isBefore isBehind
  refine ⟨first, firstName, second, secondName, inFirst, inSecond, ?_, ?_, ?_, ?_, ?_, normal, left,
    same (by decide +kernel) (by decide +kernel)⟩
  · rw [firstStart, firstFrom, firstTo]
  · rw [secondStart, secondFrom, secondTo]
  · rw [firstSpelled, secondSpelled]
  · rw [whole]
    exact front
  · rw [whole]
    exact back

end Cursor

end DeclScope
