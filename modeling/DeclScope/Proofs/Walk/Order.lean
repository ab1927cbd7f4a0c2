import DeclScope.Proofs.Scope.Order
import DeclScope.Proofs.Walk.Toplevel

/-!
# The child walk goes through the source in order

The anchors that a child walk visits ascend in preorder, whatever cursor it starts from.  So it
visits none of them twice, although it looks through groups, splits declarations by declarator,
takes types out of declarations, and digs parameters out of declarators.

Each entry of an outline is anchored inside the anchor of the sibling that it comes from, after that
anchor itself; siblings are anchored one before the other.  The trees are those in which the
grammar's own order of children holds (`Tree.InGrammarOrder`).
-/

namespace DeclScope

/-- The unit of `class D : B { int v; } d, f(int a); int g(int b) {}`, in which a class is defined
in passing and has a base, and functions are declared and defined. -/
def TranslationUnit.mixed : TranslationUnit where
  filename := "mixed.cpp"
  language := .cpp
  source := .ofString "class D : B \x7b int v; \x7d d, f(int a); int g(int b) \x7b\x7d"
  arguments := []
  tree := .named .translationUnit none 0 51 [
    .named .declaration none 0 35 [
      .named (.record .classKey) (some .type) 0 22 [
        .token "class" 0,
        .named (.name .type) (some .name) 6 7 [],
        .named .baseClause none 8 11 [.token ":" 8, .named (.name .type) none 10 11 []],
        .named .memberList (some .body) 12 22 [
          .token "\x7b" 12,
          .named .memberDeclaration none 14 20 [
            .named .primitiveType (some .type) 14 17 [],
            .named (.name .field) (some .declarator) 18 19 [],
            .token ";" 19],
          .token "\x7d" 21]],
      .named (.name .plain) (some .declarator) 23 24 [],
      .token "," 24,
      .named (.declarator .function false) (some .declarator) 26 34 [
        .named (.name .plain) (some .declarator) 26 27 [],
        .named (.other "parameter_list") (some .parameters) 27 34 [
          .token "(" 27,
          .named (.parameter .plain) none 28 33 [
            .named .primitiveType (some .type) 28 31 [],
            .named (.name .plain) (some .declarator) 32 33 []],
          .token ")" 33]],
      .token ";" 34],
    .named .functionDefinition none 36 51 [
      .named .primitiveType (some .type) 36 39 [],
      .named (.declarator .function false) (some .declarator) 40 48 [
        .named (.name .plain) (some .declarator) 40 41 [],
        .named (.other "parameter_list") (some .parameters) 41 48 [
          .token "(" 41,
          .named (.parameter .plain) none 42 47 [
            .named .primitiveType (some .type) 42 45 [],
            .named (.name .plain) (some .declarator) 46 47 []],
          .token ")" 47]],
      .named .compoundStatement (some .body) 49 51 [.token "\x7b" 49, .token "\x7d" 50]]]

namespace Cursor

/-- A cursor that is reached by going to children is well formed and stands in the node that the
way started from. -/
theorem contains_of_descend? {start cursor : Cursor} {path : List Nat}
    (formed : start.toItem.WellFormed) (reached : start.descend? path = some cursor) :
    start.node.Contains cursor.node ∧ cursor.toItem.WellFormed := by
  induction path generalizing start with
  | nil =>
    cases reached
    exact ⟨.refl, formed⟩
  | cons index rest inductionHypothesis =>
    obtain ⟨child, found, further⟩ := Option.bind_eq_some_iff.mp reached
    obtain ⟨enclosed, childFormed⟩ :=
      encloses_of_mem_children formed (List.mem_of_getElem? found)
    obtain ⟨contained, cursorFormed⟩ := inductionHypothesis childFormed further
    exact ⟨Relation.ReflTransGen.trans enclosed.to_reflTransGen contained, cursorFormed⟩

/-- Each entry of an outline is anchored in one of the siblings that the outline starts from. -/
theorem contains_anchor_of_mem_outline {cursors : List Cursor} {level : Nat} {visit : Visit}
    (mem : visit ∈ outline cursors level) :
    ∃ cursor ∈ cursors, cursor.anchor.Contains visit.1.anchor := by
  fun_induction outline cursors level with
  | case1 => cases mem
  | case2 cursor rest level below later =>
    rcases List.mem_cons.mp mem with rfl | deeper
    · exact ⟨cursor, List.mem_cons_self, .refl⟩
    · rcases List.mem_append.mp deeper with inside | behind
      · obtain ⟨child, listed, contained⟩ := below inside
        obtain ⟨item, among, rfl⟩ := List.mem_map.mp listed
        have enclosed : cursor.anchor.Encloses item.anchor :=
          Item.encloses_anchor_of_mem_children among
        exact ⟨cursor, List.mem_cons_self,
          Relation.ReflTransGen.trans enclosed.to_reflTransGen contained⟩
      · obtain ⟨other, listed, contained⟩ := later behind
        exact ⟨other, List.mem_cons_of_mem cursor listed, contained⟩

/-- Everything below a cursor is anchored strictly inside its anchor. -/
theorem encloses_anchor_of_mem_descendants {cursor : Cursor} {level : Nat} {visit : Visit}
    (mem : visit ∈ cursor.descendants level) : cursor.anchor.Encloses visit.1.anchor := by
  obtain ⟨child, listed, contained⟩ := contains_anchor_of_mem_outline mem
  obtain ⟨item, among, rfl⟩ := List.mem_map.mp listed
  have enclosed : cursor.anchor.Encloses item.anchor :=
    Item.encloses_anchor_of_mem_children among
  exact Relation.TransGen.trans_left enclosed contained

/-- A well-formed cursor with the order of the grammar in and below its node. -/
structure Orderly (cursor : Cursor) : Prop where
  formed : cursor.toItem.WellFormed
  ordered : ∀ below, cursor.node.Contains below → below.InGrammarOrder

/-- The children of an orderly cursor are orderly. -/
theorem Orderly.child {child cursor : Cursor} (orderly : cursor.Orderly)
    (mem : child ∈ cursor.children) : child.Orderly := by
  obtain ⟨enclosed, formed⟩ := encloses_of_mem_children orderly.formed mem
  refine ⟨formed, ?_⟩
  intro below contained
  exact orderly.ordered below (Relation.ReflTransGen.trans enclosed.to_reflTransGen contained)

/-- The children of an orderly cursor stand one before the other. -/
theorem Orderly.pairwise_children {cursor : Cursor} (orderly : cursor.Orderly) :
    cursor.children.Pairwise fun left right => left.toItem.StandsBefore right.toItem :=
  List.pairwise_map.mpr (Item.pairwise_children orderly.ordered)

/-- The anchors of an outline ascend if the siblings that it starts from stand one before the other.

A cursor comes before everything below it because that is inside its anchor, and everything from a
later sibling on is in the anchor of that sibling. -/
theorem pairwise_outline {cursors : List Cursor} {level : Nat}
    (inOrder : cursors.Pairwise fun left right => left.toItem.StandsBefore right.toItem)
    (orderly : ∀ cursor ∈ cursors, cursor.Orderly) :
    (outline cursors level).Pairwise fun left right => left.1.anchor.Precedes right.1.anchor := by
  fun_induction outline cursors level with
  | case1 => exact .nil
  | case2 cursor rest level below later =>
    obtain ⟨before, restInOrder⟩ := List.pairwise_cons.mp inOrder
    have here : cursor.Orderly := orderly cursor List.mem_cons_self
    have inside : (outline cursor.children (level + 1)).Pairwise
        fun left right => left.1.anchor.Precedes right.1.anchor :=
      below here.pairwise_children fun child listed => here.child listed
    have behind : (outline rest level).Pairwise
        fun left right => left.1.anchor.Precedes right.1.anchor :=
      later restInOrder fun other listed => orderly other (List.mem_cons_of_mem cursor listed)
    rw [List.pairwise_cons, List.pairwise_append]
    refine ⟨?_, inside, behind, ?_⟩
    · intro visit mem
      rcases List.mem_append.mp mem with among | after
      · exact (encloses_anchor_of_mem_descendants among).precedes
      · obtain ⟨other, listed, contained⟩ := contains_anchor_of_mem_outline after
        exact before other listed _ _ .refl contained
    · intro first among second after
      obtain ⟨other, listed, contained⟩ := contains_anchor_of_mem_outline after
      exact before other listed _ _
        (encloses_anchor_of_mem_descendants among).to_reflTransGen contained

/-- In a tree with the order of the grammar, the anchors that the child walk visits from any cursor
below the root ascend in preorder: they are a sublist of the nodes of the tree, so none of them, and
none of the cursors, is visited twice. -/
theorem childWalk_anchors_ascend (unit : TranslationUnit) (ordered : unit.tree.InGrammarOrder)
    (path : List Nat) (cursor : Cursor) (reached : unit.cursor.descend? path = some cursor) :
    let anchors := cursor.childWalk.map (·.1.anchor)
    anchors.Pairwise Node.Precedes ∧ anchors.Sublist unit.root.nodes ∧ anchors.Nodup ∧
      (cursor.childWalk.map (·.1)).Nodup := by
  intro anchors
  obtain ⟨inTree, formed⟩ :=
    contains_of_descend? (Item.wellFormed_of_node unit.root) reached
  have orderly : cursor.Orderly := by
    refine ⟨formed, ?_⟩
    intro below contained
    exact ordered below (Node.mem_nodes_iff.mpr (Relation.ReflTransGen.trans inTree contained))
  have ascending : anchors.Pairwise Node.Precedes := by
    rw [List.pairwise_map, childWalk_eq]
    exact pairwise_outline orderly.pairwise_children fun child listed => orderly.child listed
  have inside : ∀ anchor ∈ anchors, unit.root.Contains anchor := by
    intro anchor listed
    obtain ⟨visit, visited, rfl⟩ := List.mem_map.mp listed
    rw [childWalk_eq] at visited
    have enclosed := encloses_anchor_of_mem_descendants visited
    exact inTree.trans (formed.contains_anchor.trans enclosed.to_reflTransGen)
  have distinct : anchors.Nodup := Node.nodup_of_pairwise ascending
  refine ⟨ascending, Node.sublist_nodes ascending inside, distinct, ?_⟩
  have same : anchors = (cursor.childWalk.map (·.1)).map (·.anchor) := by
    rw [List.map_map]
    rfl
  rw [same] at distinct
  exact List.Nodup.of_map _ distinct

/-- From the root of the mixed unit the walk goes through the class before its declarators, and
through the parameters before the body. -/
theorem childWalk_mixed :
    TranslationUnit.mixed.tree.InGrammarOrder ∧
      TranslationUnit.mixed.cursor.descend? [] = some TranslationUnit.mixed.cursor ∧
      TranslationUnit.mixed.cursor.childWalk.map (fun visit => visit.1.anchor.path) =
        [[0, 0], [0, 0, 2], [0, 0, 2, 1], [0, 0, 3, 1, 1], [0, 1], [0, 3], [0, 3, 1, 1],
          [0, 3, 1, 1, 0], [0, 3, 1, 1, 1], [1], [1, 1, 1, 1], [1, 1, 1, 1, 0],
          [1, 1, 1, 1, 1], [1, 2]] ∧
      (TranslationUnit.mixed.cursor.childWalk.map (·.1.anchor)).Pairwise Node.Precedes := by
  have ordered : TranslationUnit.mixed.tree.InGrammarOrder := by decide +kernel
  exact ⟨ordered, rfl, by decide +kernel,
    (childWalk_anchors_ascend .mixed ordered [] TranslationUnit.mixed.cursor rfl).1⟩

end Cursor

end DeclScope
