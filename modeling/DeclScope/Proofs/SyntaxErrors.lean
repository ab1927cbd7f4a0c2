import DeclScope.Proofs.Cursor.Extent
import DeclScope.Proofs.Refusal

/-!
# No syntax error is missed

The search for syntax errors goes down only where a node is marked as damaged, and whether a node is
itself faulty does not enter into that.  Nothing is missed all the same, if the grammar marks every
node that has a fault strictly below it.  Nothing is asked of the mark of a node below which there
is no fault; in particular a faulty leaf may be unmarked.

So the errors are those of all faulty nodes, in preorder and each once.  Where the byte ranges nest
and siblings do not overlap, preorder is also the order of the places that the errors name; two of
them may be at one place, because an invented node is empty and a fault may start inside another.
-/

namespace DeclScope

/-- The unit of `cl@as`.  The grammar skips the sign in the middle, in two layers of which the inner
one is not marked as damaged, and it invents a semicolon. -/
def TranslationUnit.skipped : TranslationUnit where
  filename := "skipped.cpp"
  language := .cpp
  source := .ofString "cl@as"
  arguments := []
  tree := .node ⟨.translationUnit, none, 0, 5, true, false, true⟩ [
    .node ⟨.declaration, none, 0, 5, true, false, true⟩ [
      .named (.name .type) (some .type) 0 2 [],
      .node ⟨.error, none, 2, 3, true, false, true⟩ [.named .error none 2 3 []],
      .named (.name .plain) (some .declarator) 3 5 [],
      .node ⟨.other ";", none, 5, 5, false, true, true⟩ []]]

namespace Node

/-- The grammar gave up at the node, or invented it. -/
def IsFaulty (node : Node) : Prop := node.kind = .error ∨ node.label.missing = true

instance (node : Node) : Decidable node.IsFaulty := inferInstanceAs (Decidable (_ ∨ _))

/-- The node is marked as damaged, if there is a fault strictly below it. -/
def MarksFaults (node : Node) : Prop :=
  ∀ inner, node.Encloses inner → inner.IsFaulty → node.label.damaged = true

/-- The children do not overlap, and they stand in order. -/
def ChildrenAscend (node : Node) : Prop :=
  node.children.Pairwise fun left right => left.stop ≤ right.start

instance (node : Node) : Decidable node.ChildrenAscend :=
  inferInstanceAs (Decidable (List.Pairwise _ _))

/-- What is strictly below a node is in the lists of its children. -/
theorem encloses_iff {outer inner : Node} :
    outer.Encloses inner ↔ inner ∈ outer.children.flatMap nodes := by
  rw [Encloses, Relation.TransGen.head'_iff, List.mem_flatMap]
  constructor
  · rintro ⟨child, step, contained⟩
    exact ⟨child, step, mem_nodes_iff.mpr contained⟩
  · rintro ⟨child, step, listed⟩
    exact ⟨child, step, mem_nodes_iff.mp listed⟩

instance (node : Node) : Decidable node.MarksFaults :=
  decidable_of_iff
    (∀ inner ∈ node.children.flatMap nodes, inner.IsFaulty → node.label.damaged = true)
    (forall_congr' fun _ => imp_congr encloses_iff.symm Iff.rfl)

end Node

namespace Tree

/-- Every node with a fault strictly below it is marked as damaged. -/
def MarksFaults (tree : Tree) : Prop := ∀ node ∈ (Node.root tree).nodes, node.MarksFaults

/-- The children of every node are in order and do not overlap. -/
def SiblingsAscend (tree : Tree) : Prop := ∀ node ∈ (Node.root tree).nodes, node.ChildrenAscend

instance (tree : Tree) : Decidable tree.MarksFaults :=
  inferInstanceAs (Decidable (∀ node ∈ _, _))

instance (tree : Tree) : Decidable tree.SiblingsAscend :=
  inferInstanceAs (Decidable (∀ node ∈ _, _))

/-- The faults of several trees are those of each, one after the other. -/
theorem faultsAll_eq_flatMap (trees : List Tree) : faultsAll trees = trees.flatMap faults := by
  induction trees with
  | nil => rfl
  | cons tree rest inductionHypothesis =>
    rw [faultsAll, inductionHypothesis, List.flatMap_cons]

end Tree

namespace Node

/-- The faulty nodes in a node, in preorder and whether or not they are under marked nodes. -/
def faulty (node : Node) : List Node := node.nodes.filter (·.IsFaulty)

/-- The faulty nodes are those that are contained and faulty. -/
theorem mem_faulty_iff {outer inner : Node} :
    inner ∈ outer.faulty ↔ outer.Contains inner ∧ inner.IsFaulty := by
  rw [faulty, List.mem_filter, mem_nodes_iff, decide_eq_true_eq]

/-- A node comes first, if it is faulty, and then the faulty nodes in its children. -/
theorem faulty_eq (node : Node) :
    node.faulty = (if node.IsFaulty then [node] else []) ++ node.children.flatMap faulty := by
  have below : (node.children.flatMap nodes).filter (·.IsFaulty) = node.children.flatMap faulty :=
    List.filter_flatMap
  rw [faulty, nodes_eq, List.filter_cons, below]
  by_cases isFaulty : node.IsFaulty
  · simp [isFaulty]
  · simp [isFaulty]

/-- The search finds the root of a node, if that is faulty, and goes on in its children, if it is
marked. -/
theorem faults_eq (node : Node) :
    node.tree.faults = (if node.IsFaulty then [node.label] else []) ++
      if node.label.damaged then node.children.flatMap fun child => child.tree.faults else [] := by
  have below : Tree.faultsAll node.tree.children =
      node.children.flatMap fun child => child.tree.faults := by
    rw [Tree.faultsAll_eq_flatMap, ← map_tree_children, List.flatMap_map]
  rw [← below]
  obtain ⟨⟨label, children⟩, above⟩ := node
  rfl

/-- A node that is not marked, and ought to be if there were a fault below it, has none below. -/
theorem MarksFaults.children_sound {node : Node} (marks : node.MarksFaults)
    (unmarked : node.label.damaged = false) : node.children.flatMap faulty = [] := by
  rw [List.flatMap_eq_nil_iff]
  intro child step
  apply List.eq_nil_iff_forall_not_mem.mpr
  intro inner listed
  obtain ⟨contained, isFaulty⟩ := mem_faulty_iff.mp listed
  have damaged : node.label.damaged = true := marks inner (.head' step contained) isFaulty
  rw [unmarked] at damaged
  cases damaged

/-- Where faults are marked, the search finds all of them.

By induction along the list of nodes: at a node that is not marked the search stops, and there is
nothing faulty below it that it could have found. -/
theorem faults_eq_map_faulty {node : Node}
    (marks : ∀ inner, node.Contains inner → inner.MarksFaults) :
    node.tree.faults = node.faulty.map label := by
  fun_induction nodes node with
  | case1 node inductionHypothesis =>
    have below : (node.children.flatMap fun child => child.tree.faults) =
        (node.children.flatMap faulty).map label := by
      rw [List.map_flatMap]
      apply List.flatMap_congr
      intro child step
      exact inductionHypothesis child step fun inner contained => marks inner (.head step contained)
    rw [faults_eq, faulty_eq, List.map_append, below]
    congr 1
    · split <;> rfl
    · cases damaged : node.label.damaged with
      | true => rfl
      | false => simp [(marks node .refl).children_sound damaged]

/-- Where ranges nest and children are in order, nodes start in preorder. -/
theorem pairwise_start {node : Node}
    (nested : ∀ inner, node.Contains inner → inner.CoversChildren)
    (ascend : ∀ inner, node.Contains inner → inner.ChildrenAscend) :
    node.nodes.Pairwise fun first second => first.start ≤ second.start := by
  fun_induction nodes node with
  | case1 node inductionHypothesis =>
    have within {child inner : Node} (step : child ∈ node.children) (listed : inner ∈ child.nodes) :
        child.start ≤ inner.start ∧ inner.start ≤ inner.stop ∧ inner.stop ≤ child.stop :=
      (mem_nodes_iff.mp listed).covers fun below contained => nested below (.head step contained)
    rw [← nodes, nodes_eq, List.pairwise_cons, List.pairwise_flatMap]
    refine ⟨?_, ?_, ?_⟩
    · intro inner below
      obtain ⟨child, step, listed⟩ := List.mem_flatMap.mp below
      exact ((nested node .refl).2 child step).1.trans (within step listed).1
    · intro child step
      exact inductionHypothesis child step
        (fun inner contained => nested inner (.head step contained))
        (fun inner contained => ascend inner (.head step contained))
    · apply (ascend node .refl).imp_of_mem
      intro left right inLeft inRight apart first firstListed second secondListed
      have leftRange := within inLeft firstListed
      have rightRange := within inRight secondListed
      omega

end Node

namespace TranslationUnit

/-- Where syntax errors are not accepted, a parse fails exactly when its unit has one. -/
theorem parse_fails_iff {config : Config} (rejects : config.rejectSyntaxErrors = true)
    (frontEnd : FrontEnd) (filename : String) (source : Source) (arguments : List String) :
    (∃ error, (parse frontEnd filename source arguments config).2 = .error error) ↔
      (ofSource frontEnd config filename source arguments).syntaxErrors ≠ [] := by
  rw [parse_eq, rejected?, if_pos rejects]
  cases (ofSource frontEnd config filename source arguments).syntaxErrors with
  | nil => simp
  | cons first rest => simp

/-- In a unit whose faults are marked, the syntax errors are those of all faulty nodes, in preorder
and each once, and each names the line and the column where its node starts.  If the ranges nest and
siblings are in order, the errors are in the order of the places that they name.  Where syntax
errors are not accepted, the parse that leads to this tree fails exactly when the tree has a faulty
node. -/
theorem syntaxErrors_of_faulty (unit : TranslationUnit) (marked : unit.tree.MarksFaults) :
    ∃ faulty : List Node,
      (∀ node, node ∈ faulty ↔ unit.root.Contains node ∧ node.IsFaulty) ∧
      faulty.Pairwise Node.Precedes ∧
      unit.syntaxErrors = faulty.map (fun node =>
        "Parse error at line " ++ (unit.location node.start).line.repr ++
          ", column " ++ (unit.location node.start).column.repr) ∧
      (unit.tree.RangesNest → unit.tree.SiblingsAscend →
        faulty.Pairwise fun first second =>
          (unit.location first.start).isBefore (unit.location second.start) = true) ∧
      ∀ (frontEnd : FrontEnd) (config : Config), config.rejectSyntaxErrors = true →
        frontEnd (.detect unit.filename unit.arguments config.defaultLanguage) unit.source =
          unit.tree →
        ((∃ error, (parse frontEnd unit.filename unit.source unit.arguments config).2 =
          .error error) ↔ ∃ node, unit.root.Contains node ∧ node.IsFaulty) := by
  have found : unit.tree.faults = unit.root.faulty.map Node.label :=
    Node.faults_eq_map_faulty fun inner contained =>
      marked inner (Node.mem_nodes_iff.mpr contained)
  refine ⟨unit.root.faulty, fun node => Node.mem_faulty_iff, ?_, ?_, ?_, ?_⟩
  · exact (Node.pairwise_nodes unit.root).filter _
  · rw [syntaxErrors, found, List.map_map]
    rfl
  · intro nested ascend
    have starts := Node.pairwise_start
      (fun inner contained => nested inner (Node.mem_nodes_iff.mpr contained))
      (fun inner contained => ascend inner (Node.mem_nodes_iff.mpr contained))
    exact (starts.filter _).imp fun ordered =>
      Location.isBefore_ofOffset unit.filename unit.source ordered
  · intro frontEnd config rejects sameTree
    have sameErrors : (ofSource frontEnd config unit.filename unit.source
        unit.arguments).syntaxErrors = unit.syntaxErrors := by
      rw [ofSource, sameTree]
      rfl
    rw [parse_fails_iff rejects, sameErrors, syntaxErrors, found, List.map_map, ne_eq,
      List.map_eq_nil_iff]
    constructor
    · intro nonempty
      obtain ⟨node, listed⟩ := List.exists_mem_of_ne_nil _ nonempty
      exact ⟨node, Node.mem_faulty_iff.mp listed⟩
    · rintro ⟨node, isFaulty⟩
      exact List.ne_nil_of_mem (Node.mem_faulty_iff.mpr isFaulty)

/-- In the skipped unit there are two faults at one place, of which the inner one is not marked, and
an invented node.  All three are found. -/
theorem syntaxErrors_of_skipped :
    skipped.tree.MarksFaults ∧ skipped.tree.RangesNest ∧ skipped.tree.SiblingsAscend ∧
      ∃ faulty : List Node,
        (∀ node, node ∈ faulty ↔ skipped.root.Contains node ∧ node.IsFaulty) ∧
        faulty.Pairwise (fun first second =>
          (skipped.location first.start).isBefore (skipped.location second.start) = true) ∧
        faulty.length = 3 ∧
        skipped.syntaxErrors = ["Parse error at line 1, column 3",
          "Parse error at line 1, column 3", "Parse error at line 1, column 6"] ∧
        ∃ error, (parse (fun _ _ => skipped.tree) skipped.filename skipped.source
          skipped.arguments { rejectSyntaxErrors := true }).2 = .error error := by
  have marked : skipped.tree.MarksFaults := by decide +kernel
  have nested : skipped.tree.RangesNest := by decide +kernel
  have ascend : skipped.tree.SiblingsAscend := by decide +kernel
  have errors : skipped.syntaxErrors = ["Parse error at line 1, column 3",
      "Parse error at line 1, column 3", "Parse error at line 1, column 6"] := by decide +kernel
  obtain ⟨faulty, all, -, listed, ordered, fails⟩ := syntaxErrors_of_faulty skipped marked
  have three : faulty.length = 3 := by
    simpa [errors] using (congrArg List.length listed).symm
  have nonempty : faulty ≠ [] := by
    rintro rfl
    cases three
  obtain ⟨node, isListed⟩ := List.exists_mem_of_ne_nil faulty nonempty
  refine ⟨marked, nested, ascend, faulty, all, ordered nested ascend, three, errors, ?_⟩
  exact (fails _ _ rfl rfl).mpr ⟨node, (all node).mp isListed⟩

end TranslationUnit

end DeclScope
